import Accounts.Proofs.Json.Grammar

/-!
# What readers come to

A reader comes to something on a value if it does so on every text of it, wherever that stands.
Arrays are read item by item for any reader of items, and objects member by member for any step on
members.
-/

namespace Accounts.Json

-- ---------------------------------------------------------------------------
-- Steps of readers
-- ---------------------------------------------------------------------------

namespace Reader

variable {α β κ : Type} {cs g g' rest : List Char} {x : Reader α}

theorem bind_run {a : α} (h : x cs = .ok (a, rest)) (f : α → Reader β) :
    (x >>= f) cs = f a rest := by
  simp only [bind, StateT.bind, h, Except.bind]

theorem bind_error {e : ReadError} (h : x cs = .error e) (f : α → Reader β) :
    (x >>= f) cs = .error e := by
  simp only [bind, StateT.bind, h, Except.bind]

/-- A reader that has come to a result or has failed, and what goes on with the result. -/
theorem bind_map {r : Except ReadError α} (h : x cs = r.map (·, rest)) (f : α → Reader β) :
    (x >>= f) cs = r >>= fun a => f a rest := by
  simp only [bind, StateT.bind, h]
  cases r <;> rfl

theorem dropWhile_gap {c : Char} (hg : Gap g) (h : isGap c = false) (rest : List Char) :
    (g ++ c :: rest).dropWhile isGap = c :: rest := by
  rw [List.dropWhile_append_of_pos hg, List.dropWhile_cons_of_neg (by simp [h])]

theorem peek_run {c : Char} (hg : Gap g) (h : isGap c = false) (rest : List Char) :
    peek (g ++ c :: rest) = .ok (some c, c :: rest) := by
  rw [peek, dropWhile_gap hg h]
  rfl

theorem advance_run (c : Char) (rest : List Char) : advance (c :: rest) = .ok ((), rest) := rfl

theorem nextItem_first {c : Char} (hg : Gap g) (h : isGap c = false) (hc : c ≠ ']')
    (rest : List Char) : nextItem true (g ++ c :: rest) = .ok (true, c :: rest) := by
  rw [nextItem, bind_run (peek_run hg h rest)]
  simp only [if_neg hc]
  rfl

theorem nextItem_comma {c : Char} (hg : Gap g) (hg' : Gap g') (h : isGap c = false) (hc : c ≠ ']')
    (rest : List Char) :
    nextItem false (g ++ ',' :: (g' ++ c :: rest)) = .ok (true, c :: rest) := by
  rw [nextItem, bind_run (peek_run hg (by decide) _)]
  dsimp only
  rw [if_neg (by decide), if_neg Bool.false_ne_true, if_pos rfl, bind_run (advance_run ',' _),
    bind_run (peek_run hg' h rest)]
  simp only [if_neg hc]
  rfl

theorem nextItem_close (hg : Gap g) (first : Bool) (rest : List Char) :
    nextItem first (g ++ ']' :: rest) = .ok (false, ']' :: rest) := by
  rw [nextItem, bind_run (peek_run hg (by decide) rest)]
  rfl

theorem colon_run (hg : Gap g) (rest : List Char) : colon (g ++ ':' :: rest) = .ok ((), rest) := by
  rw [colon, bind_run (peek_run hg (by decide) rest)]
  rfl

section
variable {token : Reader κ} {k : κ} (h : token cs = .ok (k, rest))
include h

theorem key_quote : key token (some '"') ('"' :: cs) = .ok (k, rest) := h

theorem nextKey_first (hg : Gap g) : nextKey token true (g ++ '"' :: cs) = .ok (some k, rest) := by
  rw [nextKey, bind_run (peek_run hg (by decide) _)]
  dsimp only
  rw [if_neg (by decide), if_pos rfl, bind_run (key_quote h)]
  rfl

theorem nextKey_comma (hg : Gap g) (hg' : Gap g') :
    nextKey token false (g ++ ',' :: (g' ++ '"' :: cs)) = .ok (some k, rest) := by
  rw [nextKey, bind_run (peek_run hg (by decide) _)]
  dsimp only
  rw [if_neg (by decide), if_neg Bool.false_ne_true, if_pos rfl, bind_run (advance_run ',' _),
    bind_run (peek_run hg' (by decide) _), bind_run (key_quote h)]
  rfl

end

theorem nextKey_close (token : Reader κ) (hg : Gap g) (first : Bool) (rest : List Char) :
    nextKey token first (g ++ '}' :: rest) = .ok (none, '}' :: rest) := by
  rw [nextKey, bind_run (peek_run hg (by decide) rest)]
  rfl

end Reader

-- ---------------------------------------------------------------------------
-- Readers of values
-- ---------------------------------------------------------------------------

/-- Whatever text of `j` the reader finds, with whatever gap in front of it and whatever can stand
behind it, it comes to `r`. If that is no failure, it has taken the text and nothing else. -/
def Yields {α : Type} (reader : Reader α) (j : Json) (r : Except ReadError α) : Prop :=
  ∀ g cs rest, Gap g → j.HasText cs → Ends rest → reader (g ++ (cs ++ rest)) = r.map (·, rest)

/-- The reader takes every text of `j` for `a`. -/
abbrev Reads {α : Type} (reader : Reader α) (j : Json) (a : α) : Prop :=
  Yields reader j (.ok a)

/-- What the reader makes of the compact text. -/
def outcome {α : Type} (reader : Reader α) (j : Json) : Except ReadError α :=
  (reader j.chars).map Prod.fst

/-- What the reader makes of a value does not depend on its text. -/
def Settles {α : Type} (reader : Reader α) : Prop :=
  ∀ j, Yields reader j (outcome reader j)

namespace Yields

variable {α β : Type} {reader : Reader α} {j : Json} {r : Except ReadError α}

theorem outcome_eq (h : Yields reader j r) : outcome reader j = r := by
  have hrun : reader j.chars = r.map (·, []) := by
    simpa using h [] j.chars [] .nil (hasText_chars j) trivial
  rw [outcome, hrun]
  cases r <;> rfl

theorem bind (h : Yields reader j r) {f : α → Reader β} {q : α → Except ReadError β}
    (hf : ∀ a rest, f a rest = (q a).map (·, rest)) : Yields (reader >>= f) j (r >>= q) := by
  intro g cs rest hg hcs he
  rw [Reader.bind_map (h g cs rest hg hcs he)]
  cases r with
  | error e => rfl
  | ok a => exact hf a rest

theorem map (h : Yields reader j r) (f : α → β) :
    Yields (do return f (← reader)) j (r.map f) :=
  h.bind (q := fun a => .ok (f a)) fun _ _ => rfl

end Yields

theorem settles_of_exists {α : Type} {reader : Reader α} (h : ∀ j, ∃ r, Yields reader j r) :
    Settles reader := by
  intro j
  obtain ⟨r, hr⟩ := h j
  rwa [hr.outcome_eq]

-- ---------------------------------------------------------------------------
-- Items
-- ---------------------------------------------------------------------------

section
variable {α : Type} {item : Reader α} {f : Json → Except ReadError α} {items : List Json}
  {body g : List Char}

/-- An item, and whatever reads the others. -/
theorem item_run {j : Json} {cs rest rest' : List Char} (hj : j.HasText cs)
    (h : Yields item j (f j)) (he : Ends rest') {more : Reader (List α)}
    (hm : more rest' = (items.mapM f).map (·, rest)) :
    (do let value ← item; return value :: (← more) : Reader (List α)) (cs ++ rest') =
      ((j :: items).mapM f).map (·, rest) := by
  have hitem : item (cs ++ rest') = (f j).map (·, rest') := h [] cs rest' .nil hj he
  rw [Reader.bind_map hitem, List.mapM_cons]
  cases f j with
  | error e => rfl
  | ok a =>
    change (more >>= fun as => pure (a :: as) : Reader (List α)) rest' =
      Except.map (·, rest) (items.mapM f >>= fun as => pure (a :: as))
    rw [Reader.bind_map hm]
    cases items.mapM f <;> rfl

/-- The items behind the first, if the reader comes to something on each of them. -/
theorem itemsFrom_run (hb : Further HasText ']' items body)
    (h : ∀ j ∈ items, Yields item j (f j)) (hg : Gap g) {fuel : Nat} (hf : items.length < fuel)
    (rest : List Char) :
    Reader.itemsFrom item fuel false (g ++ (body ++ rest)) = (items.mapM f).map (·, rest) := by
  induction hb generalizing g fuel with
  | done =>
    obtain ⟨fuel, rfl⟩ := Nat.exists_eq_add_one_of_ne_zero (Nat.ne_of_gt hf)
    exact Reader.bind_run (Reader.nextItem_close hg false rest) _
  | @next j items g₁ cs g₂ body hg₁ hj hg₂ hs ih =>
    obtain ⟨fuel, rfl⟩ := Nat.exists_eq_add_one_of_ne_zero (Nat.ne_of_gt (Nat.zero_lt_of_lt hf))
    obtain ⟨hitem, hitems⟩ := List.forall_mem_cons.mp h
    have hnext : Reader.nextItem false (g ++ (',' :: (g₁ ++ (cs ++ (g₂ ++ body))) ++ rest)) =
        .ok (true, cs ++ (g₂ ++ (body ++ rest))) := by
      obtain ⟨c, ds, rfl, hc, hclose⟩ := hj.opens
      simpa using Reader.nextItem_comma hg hg₁ hc hclose (ds ++ (g₂ ++ (body ++ rest)))
    rw [Reader.itemsFrom, Reader.bind_run hnext]
    simp only [if_true]
    exact item_run hj hitem (hg₂.ends (hs.ends (.inl rfl) rest))
      (ih hitems hg₂ (Nat.lt_of_succ_lt_succ hf))

theorem items_run (hb : Listed HasText ']' items body) (h : ∀ j ∈ items, Yields item j (f j))
    (rest : List Char) :
    Reader.items item (body ++ rest) = (items.mapM f).map (·, rest) := by
  have hfuel : Reader.items item (body ++ rest) =
      Reader.itemsFrom item ((body ++ rest).length + 1) true (body ++ rest) := rfl
  rw [hfuel, Reader.itemsFrom]
  cases hb with
  | empty hg =>
    rw [List.append_assoc]
    exact Reader.bind_run (Reader.nextItem_close hg true rest) _
  | @first j items g₁ cs g₂ body hg₁ hj hg₂ hs =>
    obtain ⟨hitem, hitems⟩ := List.forall_mem_cons.mp h
    have hnext : Reader.nextItem true (g₁ ++ (cs ++ (g₂ ++ body)) ++ rest) =
        .ok (true, cs ++ (g₂ ++ (body ++ rest))) := by
      obtain ⟨c, ds, rfl, hc, hclose⟩ := hj.opens
      simpa using Reader.nextItem_first hg₁ hc hclose (ds ++ (g₂ ++ (body ++ rest)))
    have hlength : items.length < (g₁ ++ (cs ++ (g₂ ++ body)) ++ rest).length := by
      have hl := hs.length_lt
      simp only [List.length_append]
      omega
    rw [Reader.bind_run hnext]
    simp only [if_true]
    exact item_run hj hitem (hg₂.ends (hs.ends (.inl rfl) rest))
      (itemsFrom_run hs hitems hg₂ hlength rest)

end

-- ---------------------------------------------------------------------------
-- Members
-- ---------------------------------------------------------------------------

/-- The reader comes to `r` on a colon and any text of `j` behind it. -/
def YieldsBehind {α : Type} (reader : Reader α) (j : Json) (r : Except ReadError α) : Prop :=
  ∀ g g' cs rest, Gap g → Gap g' → j.HasText cs → Ends rest →
    reader (g ++ ':' :: (g' ++ (cs ++ rest))) = r.map (·, rest)

theorem Yields.behind {α : Type} {reader : Reader α} {j : Json} {r : Except ReadError α}
    (h : Yields reader j r) : YieldsBehind (do Reader.colon; reader) j r := by
  intro g g' cs rest hg hg' hcs he
  rw [Reader.bind_run (Reader.colon_run hg _)]
  exact h g' cs rest hg' hcs he

section
variable {ρ κ : Type} {token : Reader κ} (key : String → κ) {step : ρ → κ → Reader ρ}
  {f : ρ → String × Json → Except ReadError ρ} {members : Members} {body g : List Char}
  (ht : ∀ k cs rest, Spells k.toList cs → token (cs ++ rest) = .ok (key k, rest))
include ht

/-- The members behind the first, if the step comes to something on each of them. -/
theorem membersFrom_run (hb : Further (Member HasText) '}' members body)
    (h : ∀ m ∈ members, ∀ state, YieldsBehind (step state (key m.1)) m.2 (f state m))
    (hg : Gap g) {fuel : Nat} (hf : members.length < fuel) (state : ρ) (rest : List Char) :
    Reader.membersFrom token step fuel false state (g ++ (body ++ rest)) =
      (members.foldlM f state).map (·, rest) := by
  induction hb generalizing g fuel state with
  | done =>
    obtain ⟨fuel, rfl⟩ := Nat.exists_eq_add_one_of_ne_zero (Nat.ne_of_gt hf)
    exact Reader.bind_run (Reader.nextKey_close token hg false rest) _
  | @next m members g₁ cs g₂ body hg₁ hm hg₂ hs ih =>
    obtain ⟨fuel, rfl⟩ := Nat.exists_eq_add_one_of_ne_zero (Nat.ne_of_gt (Nat.zero_lt_of_lt hf))
    obtain ⟨hmember, hmembers⟩ := List.forall_mem_cons.mp h
    obtain ⟨hk, hg₃, hg₄, hj⟩ := hm
    rename_i k j spelled g₃ g₄ cs
    have hnext : Reader.nextKey token false
        (g ++ (',' :: (g₁ ++ ('"' :: (spelled ++ (g₃ ++ ':' :: (g₄ ++ cs))) ++ (g₂ ++ body))) ++
          rest)) = .ok (some (key k), g₃ ++ ':' :: (g₄ ++ (cs ++ (g₂ ++ (body ++ rest))))) := by
      simpa using Reader.nextKey_comma (ht k spelled _ hk) hg hg₁
    rw [Reader.membersFrom, Reader.bind_run hnext]
    dsimp only
    rw [Reader.bind_map (hmember state g₃ g₄ cs _ hg₃ hg₄ hj
      (hg₂.ends (hs.ends (.inr rfl) rest))), List.foldlM_cons]
    cases f state (k, j) with
    | error e => rfl
    | ok state' => exact ih hmembers hg₂ (Nat.lt_of_succ_lt_succ hf) state'

theorem membersBy_run (hb : Listed (Member HasText) '}' members body)
    (h : ∀ m ∈ members, ∀ state, YieldsBehind (step state (key m.1)) m.2 (f state m))
    (state : ρ) (rest : List Char) :
    Reader.membersBy token step state (body ++ rest) =
      (members.foldlM f state).map (·, rest) := by
  have hfuel : Reader.membersBy token step state (body ++ rest) =
      Reader.membersFrom token step ((body ++ rest).length + 1) true state (body ++ rest) := rfl
  rw [hfuel, Reader.membersFrom]
  cases hb with
  | empty hg =>
    rw [List.append_assoc]
    exact Reader.bind_run (Reader.nextKey_close token hg true rest) _
  | @first m members g₁ cs g₂ body hg₁ hm hg₂ hs =>
    obtain ⟨hmember, hmembers⟩ := List.forall_mem_cons.mp h
    obtain ⟨hk, hg₃, hg₄, hj⟩ := hm
    rename_i k j spelled g₃ g₄ cs
    have hnext : Reader.nextKey token true
        (g₁ ++ ('"' :: (spelled ++ (g₃ ++ ':' :: (g₄ ++ cs))) ++ (g₂ ++ body)) ++ rest) =
          .ok (some (key k), g₃ ++ ':' :: (g₄ ++ (cs ++ (g₂ ++ (body ++ rest))))) := by
      simpa using Reader.nextKey_first (ht k spelled _ hk) hg₁
    have hlength : members.length < (g₁ ++ ('"' :: (spelled ++ (g₃ ++ ':' :: (g₄ ++ cs))) ++
        (g₂ ++ body)) ++ rest).length := by
      have hl := hs.length_lt
      simp only [List.length_append]
      omega
    rw [Reader.bind_run hnext]
    dsimp only
    rw [Reader.bind_map (hmember state g₃ g₄ cs _ hg₃ hg₄ hj
      (hg₂.ends (hs.ends (.inr rfl) rest))), List.foldlM_cons]
    cases f state (k, j) with
    | error e => rfl
    | ok state' => exact membersFrom_run key ht hs hmembers hg₂ hlength state' rest

end

-- ---------------------------------------------------------------------------
-- Scalars and containers
-- ---------------------------------------------------------------------------

section
variable {α : Type} {onScalar : Char → Reader α} {onArray onObject : Reader α} {j : Json}
  {r : Except ReadError α}

theorem yields_scalar (hs : j.IsScalar)
    (h : ∀ c cs rest, j.HasText (c :: cs) → Ends rest →
      onScalar c (c :: (cs ++ rest)) = r.map (·, rest)) :
    Yields (Reader.valueWith onScalar onArray onObject) j r := by
  intro g cs rest hg hcs he
  obtain ⟨c, ds, rfl, hc, ha, ho, -⟩ := hcs.opens_scalar hs
  rw [List.cons_append, Reader.valueWith, Reader.bind_run (Reader.peek_run hg hc _)]
  simp only [if_neg ha, if_neg ho]
  exact h c ds rest hcs he

theorem yields_array {items : List Json}
    (h : ∀ body rest, Listed HasText ']' items body → onArray (body ++ rest) = r.map (·, rest)) :
    Yields (Reader.valueWith onScalar onArray onObject) (.array items) r := by
  intro g cs rest hg hcs he
  cases hcs with
  | @array _ body hb =>
    rw [List.cons_append, Reader.valueWith, Reader.bind_run (Reader.peek_run hg (by decide) _)]
    exact h body rest hb

theorem yields_object {members : Members}
    (h : ∀ body rest, Listed (Member HasText) '}' members body →
      onObject (body ++ rest) = r.map (·, rest)) :
    Yields (Reader.valueWith onScalar onArray onObject) (.object members) r := by
  intro g cs rest hg hcs he
  cases hcs with
  | @object _ body hb =>
    rw [List.cons_append, Reader.valueWith, Reader.bind_run (Reader.peek_run hg (by decide) _)]
    exact h body rest hb

end

-- ---------------------------------------------------------------------------
-- Whole texts
-- ---------------------------------------------------------------------------

/-- Only gaps stand behind the value. -/
theorem Yields.decode {α : Type} {reader : Reader α} {j : Json} {r : Except ReadError α}
    (h : Yields reader j r) {text : String} (ht : j.Written text) :
    Json.decode reader text = r := by
  obtain ⟨hg, hcs, hg', hchars⟩ := ht
  rename_i g cs g'
  have he : Ends (g' ++ []) := hg'.ends trivial
  have hgap : (g' ++ []).dropWhile Reader.isGap = [] := List.dropWhile_append_of_pos hg'
  rw [List.append_nil] at he hgap
  rw [Json.decode, hchars, h g cs g' hg hcs he]
  cases r with
  | error e => rfl
  | ok a =>
    change (if (g'.dropWhile Reader.isGap).isEmpty then Except.ok a
      else .error ReadError.malformed) = _
    rw [hgap]
    rfl

end Accounts.Json
