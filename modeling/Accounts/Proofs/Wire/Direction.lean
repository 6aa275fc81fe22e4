import Accounts.Proofs.Json.Fields
import Accounts.Proofs.Json.Records
import Accounts.Wire.Limits

/-!
# Directions read back

A direction is read from a string, and from an object that has it as its only key and null behind
it. What comes of any other value does not depend on its text either.
-/

namespace Accounts

open Json (Members Reader Reads ReadError Record Settles)

namespace Direction

theorem yields_string (depth : Nat) (s : String) :
    Json.Yields (Direction.read depth) (.string s) ((ofName s).mapError .shape) := by
  refine Reader.yields_peek fun c cs rest hcs _ => ?_
  cases hcs with
  | string hb =>
    refine (Reader.bind_run (Json.string_run hb rest)
      fun name => Record.ofShape (ofName name)).trans ?_
    exact Record.ofShape_run (ofName s) rest

theorem reads_json (depth : Nat) (d : Direction) : Reads (Direction.read depth) d.json d := by
  have hname : ofName d.name = .ok d := by cases d <;> decide
  have hread := yields_string depth d.name
  rwa [hname] at hread

/-- What stands behind the key in an object with a direction. -/
def readNull : Reader Unit := do
  if (← Reader.peek) = some 'n' then Reader.word ['n', 'u', 'l', 'l']
  else Reader.wrongType "unit"

/-- What stands behind the only member of an object. -/
def closeObject : Reader Unit := do
  match ← Reader.peek with
  | none => throw .ended
  | some c => if c = '}' then Reader.advance else throw .malformed

theorem closeObject_run (d : Direction) {members : Members} {g body : List Char}
    (hg : Json.Gap g) (hs : Json.Further (Json.Member Json.HasText) '}' members body)
    (rest : List Char) :
    (do closeObject; return d : Reader Direction) (g ++ (body ++ rest)) =
      (if members.isEmpty then .ok d else .error .malformed : Except ReadError Direction).map
        (·, rest) := by
  rw [closeObject, bind_assoc]
  cases hs with
  | done => exact Reader.bind_run (Reader.peek_run hg (by decide) rest) _
  | next => exact Reader.bind_run (Reader.peek_run hg (by decide) _) _

theorem readMember_eq : readMember = do
    let direction ← Record.ofShape (ofName (← Reader.key Reader.string (← Reader.peek)))
    Reader.colon
    readNull
    closeObject
    return direction := by
  have hclose : ∀ d : Direction, (do
      match ← Reader.peek with
      | none => throw .ended
      | some c =>
        if c = '}' then
          Reader.advance
          return d
        else throw .malformed : Reader Direction) = (do closeObject; return d) := by
    intro d
    rw [closeObject, bind_assoc]
    congr 1
    funext o
    cases o with
    | none => rfl
    | some c =>
      dsimp only
      split <;> rfl
  simp only [readMember, readNull, bind_assoc]
  refine bind_congr fun o => bind_congr fun s => bind_congr fun d => bind_congr fun _ =>
    bind_congr fun o' => ?_
  split
  · exact bind_congr fun _ => hclose d
  · rename_i hnull
    rw [if_neg hnull]
    exact bind_congr fun _ => hclose d

theorem settles_readNull : Settles readNull := by
  refine Json.settles_of_exists fun j => ?_
  by_cases hj : j = .null
  · refine ⟨.ok (), Reader.yields_peek fun c cs rest hcs _ => ?_⟩
    subst hj
    cases hcs
    rfl
  · refine ⟨Json.outcome (Reader.wrongType "unit" : Reader Unit) j,
      Reader.yields_peek fun c cs rest hcs he => ?_⟩
    have hc : c ≠ 'n' := by
      rintro rfl
      exact hj hcs.eq_null
    rw [if_neg (mt Option.some.inj hc)]
    exact Reader.settles_wrongType "unit" j [] (c :: cs) rest .nil hcs he

/-- What comes behind the key of the first member. -/
theorem behindKey_run (d : Direction) {j : Json} {members : Members}
    {g g' g'' cs body : List Char} (hg : Json.Gap g) (hg' : Json.Gap g') (hj : j.HasText cs)
    (hg'' : Json.Gap g'') (hs : Json.Further (Json.Member Json.HasText) '}' members body)
    (rest : List Char) :
    (do
      Reader.colon
      readNull
      closeObject
      return d : Reader Direction) (g ++ ':' :: (g' ++ (cs ++ (g'' ++ (body ++ rest))))) =
      (Json.outcome readNull j >>= fun _ =>
        if members.isEmpty then .ok d else .error .malformed).map (·, rest) := by
  have he : Json.Ends (g'' ++ (body ++ rest)) := hg''.ends (hs.ends (.inr rfl) rest)
  rw [Reader.bind_run (Reader.colon_run hg _),
    Reader.bind_map (settles_readNull j g' cs _ hg' hj he)]
  cases Json.outcome readNull j with
  | error e => rfl
  | ok => exact closeObject_run d hg'' hs rest

/-- An object is a direction only if it has one member. -/
theorem exists_readMember (members : Members) :
    ∃ r : Except ReadError Direction, ∀ body rest,
      Json.Listed (Json.Member Json.HasText) '}' members body →
        readMember (body ++ rest) = r.map (·, rest) := by
  cases members with
  | nil =>
    refine ⟨.error .malformed, fun body rest hb => ?_⟩
    cases hb with
    | empty hg =>
      rw [List.append_assoc, readMember_eq]
      exact Reader.bind_run (Reader.peek_run hg (by decide) rest) _
  | cons m members =>
    obtain ⟨k, j⟩ := m
    refine ⟨(ofName k).mapError .shape >>= fun d => Json.outcome readNull j >>= fun _ =>
      if members.isEmpty then .ok d else .error .malformed, fun body rest hb => ?_⟩
    cases hb with
    | first hg hm hg' hs =>
      cases hm with
      | mk hk hg₁ hg₂ hj =>
        simp only [List.append_assoc, List.cons_append]
        rw [readMember_eq, Reader.bind_run (Reader.peek_run hg (by decide) _),
          Reader.bind_run (Reader.key_quote (Json.string_run hk _)),
          Reader.bind_map (Record.ofShape_run (ofName k) _)]
        cases ofName k with
        | error fault => rfl
        | ok d => exact behindKey_run d hg₁ hg₂ hj hg' hs rest

theorem settles_read (depth : Nat) : Settles (Direction.read depth) := by
  refine Json.settles_of_exists fun j => ?_
  by_cases hs : ∃ s, j = .string s
  · obtain ⟨s, rfl⟩ := hs
    exact ⟨_, yields_string depth s⟩
  by_cases ho : (∃ members, j = .object members) ∧ depth ≠ 0
  · obtain ⟨⟨members, rfl⟩, hd⟩ := ho
    obtain ⟨r, hr⟩ := exists_readMember members
    refine ⟨r, Reader.yields_peek fun c cs rest hcs _ => ?_⟩
    cases hcs with
    | object hb =>
      dsimp only
      rw [if_neg (by decide), if_pos ⟨rfl, hd⟩]
      exact hr cs rest hb
  · refine ⟨.error .malformed, Reader.yields_peek fun c cs rest hcs _ => ?_⟩
    have hquote : c ≠ '"' := by
      rintro rfl
      exact hs hcs.eq_string
    have hbrace : ¬(c = '{' ∧ depth ≠ 0) := by
      rintro ⟨rfl, hd⟩
      exact ho ⟨hcs.eq_object, hd⟩
    dsimp only
    rw [if_neg hquote, if_neg hbrace]
    rfl

end Direction

end Accounts
