import Accounts.Proofs.Bcrypt.Verification
import Accounts.Proofs.Business.Course
import Accounts.Proofs.Store.Origin
import Mathlib.Data.List.Induction

/-!
# From creation to removal

Whoever changes a user brings a copy, and all fields of the copy are stored. The copies go round:
they are handed out by any scope, may be stale, and may show rows that never come to be shared.
What all of them keep is what the user was given at the creation. An id that has gone from the
shared rows stays away, since only its creation could bring it in, in whatever scope.
-/

namespace Accounts

theorem Timestamp.le_refl (t : Timestamp) : t ≤ t :=
  Int.le_refl t.micros

namespace Entry

def Creates (e : Entry) (scope : Scope) (user : User) : Prop :=
  (∃ actor new, e.turn = .ask scope (.create actor new)) ∧ e.result = .ok (.user user)

/-- The turn is in order after those that have been taken before. -/
structure Follows (e : Entry) (past : List Entry) : Prop where
  clock : ∀ p ∈ past, p.moment.now ≤ e.moment.now
  /-- Nobody has been created yet under the id that is lent to a creation. -/
  fresh : ∀ scope actor new, e.turn = .ask scope (.create actor new) →
    ∀ p ∈ past, ∀ scope' user, p.Creates scope' user → user.id ≠ e.moment.id
  /-- The copy of a user who is to be changed has been handed out by an earlier turn. -/
  known : ∀ scope actor user changes, e.turn = .ask scope (.update actor user changes) →
    ∃ p ∈ past, user ∈ handedOut p.result

end Entry

def Orderly (trace : List Entry) : Prop :=
  ∀ past e rest, trace = past ++ e :: rest → e.Follows past

theorem Orderly.of_append {trace rest : List Entry} (h : Orderly (trace ++ rest)) :
    Orderly trace := by
  intro past e rest' ht
  exact h past e (rest' ++ rest) (by rw [ht, List.append_assoc, List.cons_append])

theorem Orderly.nil : Orderly [] := by
  intro past e rest h
  cases past <;> cases h

theorem Orderly.concat {past : List Entry} {e : Entry} (h : Orderly past) (he : e.Follows past) :
    Orderly (past ++ [e]) := by
  intro past' e' rest ht
  obtain rfl | ⟨rest, last, rfl⟩ := List.eq_nil_or_concat' rest
  · obtain ⟨rfl, hlast⟩ := List.append_inj' ht rfl
    cases hlast
    exact he
  · rw [← List.cons_append, ← List.append_assoc] at ht
    exact h past' e' rest (List.append_inj' ht rfl).1

theorem Orderly.last {past : List Entry} {e : Entry} (h : Orderly (past ++ [e])) :
    e.Follows past :=
  h past e [] rfl

def Created (past : List Entry) (id : Uuid) : Prop :=
  ∃ e ∈ past, ∃ scope user, e.Creates scope user ∧ user.id = id

/-- The id has been among the shared rows. -/
def Shown (past : List Entry) (id : Uuid) : Prop :=
  ∃ e ∈ past, ∃ u, e.before.table.find? id = some u

/-- A user as created, or as changes have left it. -/
structure Genuine (past : List Entry) (u : User) : Prop where
  origin : ∃ e ∈ past, ∃ scope user, e.Creates scope user ∧ user.id = u.id ∧
    user.created = u.created ∧ e.moment.now = u.created
  updated : u.created ≤ u.updated
  hash : u.passwordHash ≠ ""

section
variable {past : List Entry} {e : Entry}

theorem Created.concat {id : Uuid} (h : Created past id) : Created (past ++ [e]) id := by
  obtain ⟨p, hp, h⟩ := h
  exact ⟨p, List.mem_append_left _ hp, h⟩

theorem Entry.Creates.created {scope : Scope} {user : User} (h : e.Creates scope user) :
    Created (past ++ [e]) user.id :=
  ⟨e, List.mem_append_right _ (List.mem_singleton_self e), scope, user, h, rfl⟩

theorem Entry.Creates.scope_eq {scope scope' : Scope} {user user' : User}
    (h : e.Creates scope user) (h' : e.Creates scope' user') : scope = scope' := by
  obtain ⟨⟨actor, new, ht⟩, -⟩ := h
  obtain ⟨⟨actor', new', ht'⟩, -⟩ := h'
  cases ht.symm.trans ht'
  rfl

theorem Shown.append {id : Uuid} (h : Shown past id) (rest : List Entry) :
    Shown (past ++ rest) id := by
  obtain ⟨p, hp, h⟩ := h
  exact ⟨p, List.mem_append_left _ hp, h⟩

theorem Shown.of_concat {id : Uuid} (h : Shown (past ++ [e]) id) :
    Shown past id ∨ ∃ u, e.before.table.find? id = some u := by
  obtain ⟨p, hp, h⟩ := h
  obtain hp | hp := List.mem_append.mp hp
  · exact .inl ⟨p, hp, h⟩
  · cases List.mem_singleton.mp hp
    exact .inr h

namespace Genuine

variable {u : User}

theorem concat (h : Genuine past u) : Genuine (past ++ [e]) u where
  origin := by
    obtain ⟨p, hp, h⟩ := h.origin
    exact ⟨p, List.mem_append_left _ hp, h⟩
  updated := h.updated
  hash := h.hash

theorem change {m : Moment} {changes : UserUpdate} {hash : Option String} (h : Genuine past u)
    (hclock : ∀ p ∈ past, p.moment.now ≤ m.now) (hh : changes.hash m = .ok hash) :
    Genuine past (changes.apply hash m.now u) where
  origin := h.origin
  updated := by
    obtain ⟨p, hp, -, -, -, -, -, hnow⟩ := h.origin
    show u.created ≤ m.now
    exact hnow ▸ hclock p hp
  hash := by
    obtain ⟨-, rfl⟩ | ⟨password, text, -, rfl, ht⟩ := UserUpdate.hash_ok hh
    · exact h.hash
    · exact Password.ne_empty_of_hash ht

end Genuine

end

-- ---------------------------------------------------------------------------
-- The steps behind the turns
-- ---------------------------------------------------------------------------

/-- What the step creates and writes is what the turn creates and hands out. -/
structure Step.Serves (step : Step) (e : Entry) : Prop where
  creates : ∀ ⦃scope user⦄, step = .call scope (.edit (.create user)) → e.Creates scope user
  writes : ∀ ⦃scope edit u⦄, step = .call scope (.edit edit) → edit.row = some u →
    u ∈ handedOut e.result

/-- What the turn can have left. -/
def Entry.Leaves (e : Entry) (d' : Database) : Prop :=
  TurnEffect e.moment e.before e.turn e.result d'

section
variable {e : Entry} {d' : Database}

theorem Entry.Leaves.serves (he : e.Leaves d') :
    d' = e.before ∨ ∃ step result, Step.Serves step e ∧ Effect e.before step result d' := by
  obtain ⟨d, m, turn, result⟩ := e
  change TurnEffect m d turn result d' at he
  cases he with
  | created hh he =>
    refine .inr ⟨_, _, ?_, he⟩
    constructor
    · rintro scope user ⟨⟩
      exact ⟨⟨_, _, rfl⟩, rfl⟩
    · rintro scope edit u ⟨⟩ ⟨⟩
      exact List.mem_singleton_self _
  | updated hh he =>
    refine .inr ⟨_, _, ?_, he⟩
    constructor
    · rintro scope user ⟨⟩
    · rintro scope edit u ⟨⟩ ⟨⟩
      exact List.mem_singleton_self _
  | deleted he =>
    refine .inr ⟨_, _, ?_, he⟩
    constructor
    · rintro scope user ⟨⟩
    · rintro scope edit u ⟨⟩ ⟨⟩
  | answered => exact .inl rfl
  | refused => exact .inl rfl
  | handled hs he =>
    refine .inr ⟨_, _, ?_, he⟩
    constructor
    · rintro scope user rfl
      cases turn <;> cases hs
    · rintro scope edit u rfl
      cases turn <;> cases hs

/-- An id gets among the shared rows by a creation there, or by the end of a transaction that
would bring it in. -/
theorem Entry.Leaves.arrives (he : e.Leaves d') (hd : e.before.Sound) {id : Uuid} {u : User}
    (hn : e.before.table.find? id = none) (hu : d'.table.find? id = some u) :
    (∃ user, e.Creates .shared user ∧ user.id = id) ∨
      ∃ tx, e.before.Brings tx id ∧ d'.writes? tx = none := by
  obtain rfl | ⟨step, result, hserves, hstep⟩ := he.serves
  · cases hn.symm.trans hu
  · obtain ⟨user, hs, hid⟩ | ⟨tx, -, hb⟩ := hstep.arrives hd hn hu
    · exact .inl ⟨user, hserves.creates hs, hid⟩
    · exact .inr ⟨tx, hb⟩

theorem Entry.Leaves.brings (he : e.Leaves d') {tx : Nat} {id : Uuid} (hb : d'.Brings tx id) :
    e.before.Brings tx id ∨ e.before.table.find? id = none ∧
      ∃ user, e.Creates (.inside tx) user ∧ user.id = id := by
  obtain rfl | ⟨step, result, hserves, hstep⟩ := he.serves
  · exact .inl hb
  · obtain hb | ⟨hn, user, hs, hid⟩ := hstep.brings hb
    · exact .inl hb
    · exact .inr ⟨hn, user, hserves.creates hs, hid⟩

/-- The id of a new user is lent by the moment. -/
theorem Entry.Leaves.id_of_creates (he : e.Leaves d') {scope : Scope} {user : User}
    (hc : e.Creates scope user) : user.id = e.moment.id := by
  obtain ⟨d, m, turn, result⟩ := e
  obtain ⟨⟨actor, new, ht⟩, hr⟩ := hc
  change TurnEffect m d turn result d' at he
  dsimp only at ht hr
  subst ht
  cases he with
  | created hh he =>
    cases hr
    rfl
  | answered hreads => cases hreads
  | refused => cases hr
  | handled hs => cases hs

end

-- ---------------------------------------------------------------------------
-- What turns keep
-- ---------------------------------------------------------------------------

structure Kept (past : List Entry) (d : Database) : Prop where
  sound : d.Sound
  handed : ∀ p ∈ past, ∀ u ∈ handedOut p.result, Genuine past u
  held : ∀ ⦃u⦄, d.Holds u → Genuine past u
  mentioned : ∀ ⦃id⦄, d.Mentions id → Created past id
  shown : ∀ ⦃id⦄, Shown past id → Created past id
  /-- No id has been given twice. -/
  once : ∀ p ∈ past, ∀ p' ∈ past, ∀ ⦃scope scope' user user'⦄, p.Creates scope user →
    p'.Creates scope' user' → user.id = user'.id → p = p'
  /-- The ids that a transaction would bring in are of its own making, and new to the shared
  rows. -/
  brought : ∀ ⦃tx id⦄, d.Brings tx id →
    (∃ p ∈ past, ∃ user, p.Creates (.inside tx) user ∧ user.id = id) ∧
      d.table.find? id = none ∧ ¬ Shown past id

namespace Kept

theorem empty : Kept [] .empty where
  sound := Database.sound_empty
  handed := by
    intro p hp
    cases hp
  held := by
    intro u h
    exact absurd h (Database.not_holds_empty u)
  mentioned := by
    intro id h
    exact absurd h (Database.not_mentions_empty id)
  shown := by
    rintro id ⟨p, hp, -⟩
    cases hp
  once := by
    intro p hp
    cases hp
  brought := by
    intro tx id h
    exact absurd h.mentions (Database.not_mentions_empty id)

section
variable {past : List Entry} {e : Entry} {d' : Database}

theorem not_created (he : e.Leaves d') (hf : e.Follows past) {scope : Scope} {user : User}
    (hc : e.Creates scope user) : ¬ Created past user.id := by
  rintro ⟨p, hp, scope', other, hother, hid⟩
  obtain ⟨actor, new, ht⟩ := hc.1
  exact hf.fresh scope actor new ht p hp scope' other hother (hid.trans (he.id_of_creates hc))

theorem mentioned_after (h : Kept past e.before) (he : e.Leaves d') {id : Uuid}
    (hm : d'.Mentions id) : Created (past ++ [e]) id := by
  obtain rfl | ⟨step, result', hserves, hstep⟩ := he.serves
  · exact (h.mentioned hm).concat
  · obtain hm | ⟨scope, user, hs, rfl⟩ := hstep.mentions hm
    · exact (h.mentioned hm).concat
    · exact (hserves.creates hs).created

theorem shown_after (h : Kept past e.before) {id : Uuid} (hs : Shown (past ++ [e]) id) :
    Created (past ++ [e]) id := by
  obtain hs | hs := hs.of_concat
  · exact (h.shown hs).concat
  · exact (h.mentioned (.inl hs)).concat

section
variable (h : Kept past e.before) (he : e.Leaves d')
  (hf : e.Follows past)
include h he hf

theorem genuine_of_handedOut {u : User} (hu : u ∈ handedOut e.result) :
    Genuine (past ++ [e]) u := by
  obtain ⟨d, m, turn, result⟩ := e
  change TurnEffect m d turn result d' at he
  cases he with
  | @created scope actor new hash _ hh he =>
    cases List.mem_singleton.mp hu
    refine ⟨⟨_, List.mem_append_right _ (List.mem_singleton_self _), scope, _, ?_, rfl, rfl, rfl⟩,
      ?_, ?_⟩
    · exact ⟨⟨actor, new, rfl⟩, rfl⟩
    · exact Timestamp.le_refl m.now
    · exact Password.ne_empty_of_hash hh
  | @updated scope actor user changes hash _ hh he =>
    cases List.mem_singleton.mp hu
    obtain ⟨p, hp, hknown⟩ := hf.known scope actor user changes rfl
    exact ((h.handed p hp user hknown).change hf.clock hh).concat
  | deleted he hn =>
    rw [hn] at hu
    cases hu
  | @answered scope _ rows _ hr hv hrows =>
    obtain ⟨id, hid⟩ := hrows u hu
    exact (h.held (Database.holds_of_visible hv hid)).concat
  | refused => cases hu
  | handled hs he hn =>
    rw [hn] at hu
    cases hu

theorem held_after {u : User} (hu : d'.Holds u) : Genuine (past ++ [e]) u := by
  obtain rfl | ⟨step, result', hserves, hstep⟩ := he.serves
  · exact (h.held hu).concat
  · obtain hu | ⟨scope, e, hs, hrow⟩ := hstep.holds hu
    · exact (h.held hu).concat
    · exact h.genuine_of_handedOut he hf (hserves.writes hs hrow)

theorem once_after : ∀ p ∈ past ++ [e], ∀ p' ∈ past ++ [e], ∀ ⦃scope scope' user user'⦄,
    p.Creates scope user → p'.Creates scope' user' → user.id = user'.id → p = p' := by
  intro p hp p' hp' scope scope' user user' hc hc' hid
  obtain hp | hp := List.mem_append.mp hp <;> obtain hp' | hp' := List.mem_append.mp hp'
  · exact h.once p hp p' hp' hc hc' hid
  · cases List.mem_singleton.mp hp'
    exact absurd ⟨p, hp, scope, user, hc, hid⟩ (not_created he hf hc')
  · cases List.mem_singleton.mp hp
    exact absurd ⟨p', hp', scope', user', hc', hid.symm⟩ (not_created he hf hc)
  · exact (List.mem_singleton.mp hp).trans (List.mem_singleton.mp hp').symm

theorem made_in_transaction {tx : Nat} {id : Uuid} (hb : d'.Brings tx id) :
    (∃ p ∈ past ++ [e], ∃ user, p.Creates (.inside tx) user ∧ user.id = id) ∧
      e.before.table.find? id = none ∧ ¬ Shown past id := by
  obtain hb | ⟨hn, user, hc, rfl⟩ := he.brings hb
  · obtain ⟨⟨p, hp, hmade⟩, hn⟩ := h.brought hb
    exact ⟨⟨p, List.mem_append_left _ hp, hmade⟩, hn⟩
  · exact ⟨⟨_, List.mem_append_right _ (List.mem_singleton_self _), user, hc, rfl⟩, hn,
      fun hs => not_created he hf hc (h.shown hs)⟩

theorem brought_after {tx : Nat} {id : Uuid} (hb : d'.Brings tx id) :
    (∃ p ∈ past ++ [e], ∃ user, p.Creates (.inside tx) user ∧ user.id = id) ∧
      d'.table.find? id = none ∧ ¬ Shown (past ++ [e]) id := by
  obtain ⟨hmade, hn, hs⟩ := h.made_in_transaction he hf hb
  refine ⟨hmade, ?_, ?_⟩
  · -- only the scope of the creation could bring the id in, and this one has not done so
    obtain ⟨p, hp, user, hc, hid⟩ := hmade
    have hscope : ∀ {p' scope user'}, p' ∈ past ++ [e] → p'.Creates scope user' →
        user'.id = id → scope = .inside tx := by
      intro p' scope user' hp' hc' hid'
      cases h.once_after he hf p hp p' hp' hc hc' (hid.trans hid'.symm)
      exact hc'.scope_eq hc
    cases hu : d'.table.find? id with
    | none => rfl
    | some u =>
      obtain ⟨user', hc', hid'⟩ | ⟨tx', hb', hend⟩ := he.arrives h.sound hn hu
      · cases hscope (List.mem_append_right _ (List.mem_singleton_self _)) hc' hid'
      · obtain ⟨⟨p', hp', user', hc', hid'⟩, -⟩ := h.brought hb'
        cases hscope (List.mem_append_left _ hp') hc' hid'
        obtain ⟨writes, staged, hw, -⟩ := hb
        cases hend.symm.trans hw
  · intro hs'
    obtain hs' | ⟨u, hu⟩ := hs'.of_concat
    · exact hs hs'
    · cases hn.symm.trans hu

/-- An id that has gone from the shared rows stays away. -/
theorem gone_after {id : Uuid} (hs : Shown past id) (hn : e.before.table.find? id = none) :
    d'.table.find? id = none := by
  cases hu : d'.table.find? id with
  | none => rfl
  | some u =>
    obtain ⟨user, hc, rfl⟩ | ⟨tx, hb, -⟩ := he.arrives h.sound hn hu
    · exact absurd (h.shown hs) (not_created he hf hc)
    · exact absurd hs (h.brought hb).2.2

theorem concat : Kept (past ++ [e]) d' where
  sound := TurnEffect.sound he h.sound
  handed := by
    intro p hp u hu
    obtain hp | hp := List.mem_append.mp hp
    · exact (h.handed p hp u hu).concat
    · cases List.mem_singleton.mp hp
      exact h.genuine_of_handedOut he hf hu
  held _ := h.held_after he hf
  mentioned _ := h.mentioned_after he
  shown _ := h.shown_after
  once := h.once_after he hf
  brought _ _ := h.brought_after he hf

end

end

end Kept

namespace Office

variable {σ π : Type} [Publisher σ π] (o : Office σ π) {s : σ}

theorem kept_after (hs : o.database.get s = .empty) (c : Course) (ho : Orderly (o.trace s c)) :
    Kept (o.trace s c) (o.database.get (o.after s c)) := by
  induction c using List.reverseRecOn with
  | nil =>
    change Kept [] (o.database.get s)
    rw [hs]
    exact .empty
  | append_singleton c last ih =>
    obtain ⟨m, turn⟩ := last
    rw [o.trace_concat] at ho ⊢
    rw [o.after_concat]
    exact (ih ho.of_append).concat (o.effect turn m _) ho.last

theorem gone_for_good (hs : o.database.get s = .empty) (c rest : Course)
    (ho : Orderly (o.trace s (c ++ rest))) {id : Uuid} (hshown : Shown (o.trace s c) id)
    (hn : (o.database.get (o.after s c)).table.find? id = none) :
    (o.database.get (o.after s (c ++ rest))).table.find? id = none := by
  induction rest using List.reverseRecOn with
  | nil => rwa [List.append_nil]
  | append_singleton rest last ih =>
    -- every turn of the rest still finds the id shown before and gone now
    obtain ⟨m, turn⟩ := last
    rw [← List.append_assoc, o.trace_concat] at ho
    rw [← List.append_assoc, o.after_concat]
    have hk := o.kept_after hs (c ++ rest) ho.of_append
    have he := o.effect turn m (o.after s (c ++ rest))
    refine hk.gone_after (e := ⟨_, m, turn, _⟩) he ho.last ?_ (ih ho.of_append)
    rw [o.trace_append]
    exact hshown.append _

/-- After every orderly course over an empty database, each shared row has the id and the time of
creation that the one turn has given to it that has created a user under this id. It was not
updated before, and has a hash. An id that has gone from the shared rows has gone for good. -/
theorem rows_keep_origin (hs : o.database.get s = .empty) (c : Course)
    (ho : Orderly (o.trace s c)) :
    let trace := o.trace s c
    let d := o.database.get (o.after s c)
    (∀ id u, d.table.find? id = some u →
      u.created ≤ u.updated ∧ u.passwordHash ≠ "" ∧
        ∃ e ∈ trace, ∃ scope user, e.Creates scope user ∧ user.id = id ∧
          u.id = user.id ∧ u.created = user.created ∧ user.created = e.moment.now ∧
          ∀ e' ∈ trace, ∀ scope' user', e'.Creates scope' user' → user'.id = id → e' = e) ∧
      ∀ first second third id, c = first ++ second ++ third →
        (o.database.get (o.after s first)).table.find? id ≠ none →
        (o.database.get (o.after s (first ++ second))).table.find? id = none →
        d.table.find? id = none := by
  intro trace d
  have hk : Kept trace d := o.kept_after hs c ho
  refine ⟨?_, ?_⟩
  · intro id u hu
    have hgenuine := hk.held (.inl ⟨id, hu⟩)
    obtain rfl := hk.sound.ownIds hu
    obtain ⟨e, he, scope, user, hc, hid, hcreated, hnow⟩ := hgenuine.origin
    refine ⟨hgenuine.updated, hgenuine.hash, e, he, scope, user, hc, hid, hid.symm,
      hcreated.symm, hcreated.trans hnow.symm, ?_⟩
    intro e' he' scope' user' hc' hid'
    exact hk.once e' he' e he hc' hc (hid'.trans hid.symm)
  · rintro first second third id rfl hfirst hn
    refine o.gone_for_good hs (first ++ second) third ho ?_ hn
    cases second with
    | nil =>
      rw [List.append_nil] at hn
      exact absurd hn hfirst
    | cons turn rest =>
      obtain ⟨u, hu⟩ := Option.ne_none_iff_exists'.mp hfirst
      rw [o.trace_append]
      exact ⟨_, List.mem_append_right _ List.mem_cons_self, u, hu⟩

/-- A row is removed, by a request that fails at the publisher only, while a transaction has
changed a copy of it. The commit of the transaction does not bring it back. -/
theorem removed_row_stays_away :
    ∃ hash, Password.hash Sample.moment.salt "secret" = .ok hash ∧
      let ada := (Sample.newUser "ada@old.org").row hash Sample.moment
      let first : Course :=
        [(Sample.moment, .ask .shared (.create ada.id (Sample.newUser "ada@old.org")))]
      let second : Course :=
        [(Sample.moment, .begin 8),
          (Sample.moment, .ask (.inside 8) (.update ada.id ada (Sample.move "ada@new.org"))),
          (Sample.moment, .ask .shared (.delete ada.id ada))]
      let third : Course := [(Sample.moment, .commit 8)]
      let rows := fun c => (Sample.office.database.get (Sample.office.after .empty c)).table
      (rows first).find? ada.id = some ada ∧
        (rows (first ++ second ++ third)).find? ada.id = none := by
  obtain ⟨hash, hh⟩ := Sample.exists_hash Sample.moment.salt
  refine ⟨hash, hh, ?_⟩
  intro ada first second third rows
  let moved : User := { ada with email := ⟨"ada@new.org"⟩ }
  let stored : Database := ⟨Keyed.empty.insert ada.id ada, .empty⟩
  let staged : Writes := Keyed.empty.insert ada.id ⟨some ada, some moved⟩
  have hcreate : (Sample.office.take
      (.ask .shared (.create ada.id (Sample.newUser "ada@old.org")))).quiet Sample.moment .empty =
        (.ok (.user ada), stored) := by
    rw [take_create, show (Sample.newUser "ada@old.org").password = "secret" from rfl, hh]
    rfl
  have hbegin : (Sample.office.take (.begin 8)).quiet Sample.moment stored =
      (.ok .done, stored.begin 8) := rfl
  have hmove : (Sample.office.take
      (.ask (.inside 8) (.update ada.id ada (Sample.move "ada@new.org")))).quiet Sample.moment
        (stored.begin 8) =
        (.ok (.user moved), ⟨stored.table, Keyed.empty.insert 8 (some staged)⟩) := by
    rw [take_update]
    rfl
  have hdelete : (Sample.office.take (.ask .shared (.delete ada.id ada))).quiet Sample.moment
      ⟨stored.table, Keyed.empty.insert 8 (some staged)⟩ =
        (.error (.business (.notification Event.actionDeleted
          (.handler "files" Event.actionDeleted ⟨"down", []⟩))),
          ⟨.empty, Keyed.empty.insert 8 (some staged)⟩) := rfl
  have hcommit : (Sample.office.take (.commit 8)).quiet Sample.moment
      ⟨.empty, Keyed.empty.insert 8 (some staged)⟩ =
        (.error (.tx (.conflict
          ("user " ++ ada.id.text ++ " changed after the transaction read it"))),
          ⟨.empty, Keyed.empty.insert 8 none⟩) := rfl
  have hfirst : (rows first).find? ada.id = some ada := by
    simp only [rows, first, after_cons _ hcreate]
    rfl
  have hsecond : (rows (first ++ second)).find? ada.id = none := by
    simp only [rows, first, second, List.singleton_append, after_cons _ hcreate,
      after_cons _ hbegin, after_cons _ hmove, after_cons _ hdelete]
    rfl
  have horderly : Orderly (Sample.office.trace .empty (first ++ second ++ third)) := by
    simp only [first, second, third, List.cons_append, List.nil_append, trace_cons _ hcreate,
      trace_cons _ hbegin, trace_cons _ hmove, trace_cons _ hdelete, trace_cons _ hcommit]
    refine ((((Orderly.nil.concat ?_).concat ?_).concat ?_).concat ?_).concat ?_
    · exact ⟨by simp, by simp, by simp⟩
    · exact ⟨by simp [Timestamp.le_refl], by simp, by simp⟩
    · refine ⟨by simp [Timestamp.le_refl], by simp, ?_⟩
      -- the copy is the one that the creation has handed out
      rintro scope actor user changes ⟨⟩
      exact ⟨_, List.mem_append_left _ List.mem_cons_self, List.mem_singleton_self _⟩
    · exact ⟨by simp [Timestamp.le_refl], by simp, by simp⟩
    · exact ⟨by simp [Timestamp.le_refl], by simp, by simp⟩
  refine ⟨hfirst, ?_⟩
  obtain ⟨-, hgone⟩ := rows_keep_origin Sample.office (s := .empty) rfl _ horderly
  exact hgone first second third ada.id rfl
    (fun hn => Option.some_ne_none _ (hfirst.symm.trans hn)) hsecond

end Office

end Accounts
