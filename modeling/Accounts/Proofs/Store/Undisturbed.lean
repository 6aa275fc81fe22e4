import Accounts.Proofs.Store.Integrity
import Accounts.Proofs.Store.Listing

/-!
# Transactions that nobody disturbs

As long as the shared rows stay what they were when a transaction was opened, the store that is
bound to it cannot be told from the store of the shared rows: every call gives what the same call
would have given there, and the commit leaves the rows that the calls would have left.
-/

namespace Accounts

/-- The call that a step makes inside of a transaction, made of the shared rows. -/
def Step.direct? (tx : Nat) : Step → Option Step
  | .call (.inside t) request => if t = tx then some (.call .shared request) else none
  | _ => none

theorem Step.direct?_eq_some {tx : Nat} {step s : Step} (h : step.direct? tx = some s) :
    ∃ request, step = .call (.inside tx) request ∧ s = .call .shared request := by
  unfold direct? at h
  split at h
  · split at h
    · rename_i ht
      cases h
      exact ⟨_, by rw [ht], rfl⟩
    · cases h
  · cases h

/-- The calls inside of a transaction, made of the shared rows. -/
def History.direct (tx : Nat) (h : History) : History :=
  h.filterMap fun entry => (entry.2.direct? tx).map (entry.1, ·)

/-- What a call gave: its result and the signals that it emitted. -/
def Occurrence.given (o : Occurrence) : Except StepError Answer × List Signal :=
  (o.outcome.result, o.outcome.signals)

/-- What the calls inside of a transaction gave. -/
def Occurrence.givenInside (tx : Nat) (trace : List Occurrence) :
    List (Except StepError Answer × List Signal) :=
  (trace.filter fun o => (o.step.direct? tx).isSome).map given

/-- In one database a transaction is open over certain rows and shows what the other database
holds. Its writes are based on these rows. -/
structure Mirrors (rows : Table) (tx : Nat) (d direct : Database) : Prop where
  table : d.table.Same rows
  sound : direct.Sound
  view : ∃ writes, d.writes? tx = some writes ∧ writes.Fresh rows ∧
    (d.table.overlay writes).Same direct.table

namespace Mirrors

variable {rows : Table} {tx : Nat} {d d' direct : Database} {m m' : Moment}

/-- Opening a transaction. -/
theorem begin (hd : d.Sound) (hn : d.txs.find? tx = none) :
    Mirrors d.table tx ((Step.begin tx).run m d).state d := by
  have hb : ((Step.begin tx).run m d).state =
      { d with txs := d.txs.insert tx (some .empty) } := by
    rw [Step.run_begin, Database.begin, Keyed.contains_eq_false_iff.mpr hn]
    rfl
  rw [hb]
  refine ⟨.refl _, hd, .empty, ?_, Writes.Fresh.empty _, Table.overlay_empty _⟩
  rw [Database.writes?_insert, if_pos rfl]

/-- A step that leaves the rows and the transaction alone. -/
theorem other (h : Mirrors rows tx d direct) (ht : d'.table.Same d.table)
    (hx : d'.txs.find? tx = d.txs.find? tx) : Mirrors rows tx d' direct := by
  obtain ⟨writes, hw, hf, hv⟩ := h.view
  refine ⟨ht.trans h.table, h.sound, writes, ?_, hf, (Table.overlay_same ht writes).trans hv⟩
  rw [Database.writes?, hx]
  exact hw

/-- Both sides of a call. -/
structure SameCall (rows : Table) (tx : Nat) (inside direct : Outcome Database StepError Answer) :
    Prop where
  result : inside.result = direct.result
  signals : inside.signals = direct.signals
  state : Mirrors rows tx inside.state direct.state

theorem edit (h : Mirrors rows tx d direct) (e : Edit) :
    SameCall rows tx ((Step.call (.inside tx) (.edit e)).run m d)
      ((Step.call .shared (.edit e)).run m' direct) := by
  obtain ⟨writes, hw, hf, hv⟩ := h.view
  have hs : ((Step.call .shared (.edit e)).run m' direct).state.Sound :=
    (Step.effect _ m' direct).sound h.sound
  rw [Step.run_edit] at hs ⊢
  rw [Step.run_edit]
  simp only [Database.change, hw, Edit.check_same hv] at hs ⊢
  cases hc : e.check direct.table with
  | error error => exact ⟨rfl, rfl, h⟩
  | ok change =>
    rw [hc] at hs
    -- the staged change does to the view what the change does to the rows
    have hf' : (writes.stage d.table change).Fresh rows :=
      ((hf.same h.table).stage change).same h.table.symm
    have hv' := (Table.overlay_stage d.table d.table writes change).trans
      (hv.assign change.id change.row)
    refine ⟨rfl, rfl, h.table, hs, writes.stage d.table change, ?_, hf', hv'⟩
    exact (Database.writes?_insert d tx _ tx).trans (if_pos rfl)

theorem read (h : Mirrors rows tx d direct) (r : Reading) :
    SameCall rows tx ((Step.call (.inside tx) (.read r)).run m d)
      ((Step.call .shared (.read r)).run m' direct) := by
  obtain ⟨writes, hw, -, hv⟩ := h.view
  obtain ⟨ha, hs⟩ := Reading.answer_same hv.symm h.sound.ownIds (r := r)
    fun _ _ => h.sound.uniqueEmails
  rw [Step.run_read, Step.run_read]
  simp only [Database.visible, hw, ha, hs]
  exact ⟨rfl, rfl, h⟩

theorem call (h : Mirrors rows tx d direct) (request : Call) :
    SameCall rows tx ((Step.call (.inside tx) request).run m d)
      ((Step.call .shared request).run m' direct) := by
  cases request with
  | edit e => exact h.edit e
  | read r => exact h.read r

/-- A step that is no call inside of the transaction and does not end it. -/
theorem still (h : Mirrors rows tx d direct) {step : Step} (hs : step.direct? tx = none)
    (he : step ≠ .commit tx ∧ step ≠ .rollback tx)
    (hq : ¬ step.Through tx → (step.run m d).state.table.Same d.table) :
    Mirrors rows tx (step.run m d).state direct := by
  by_cases ht : step.Through tx
  · cases step with
    | begin t =>
      cases ht
      obtain ⟨writes, hw, -⟩ := h.view
      have hc : d.txs.contains tx = true := by
        exact Keyed.contains_iff.mpr ⟨_, Option.join_eq_some_iff.mp hw⟩
      rw [Step.run_begin, Database.begin, if_pos hc]
      exact h
    | bind t => exact h
    | call scope request =>
      cases ht
      simp [Step.direct?] at hs
    | commit t =>
      cases ht
      exact absurd rfl he.1
    | rollback t =>
      cases ht
      exact absurd rfl he.2
  · exact h.other (hq ht) ((Step.effect step m d).txs_other ht)

theorem run {h : History} (hm : Mirrors rows tx d direct)
    (he : ∀ entry ∈ h, entry.2 ≠ .commit tx ∧ entry.2 ≠ .rollback tx)
    (hq : ∀ o ∈ d.trace h, ¬ o.step.Through tx → o.outcome.state.table.Same o.before.table) :
    Occurrence.givenInside tx (d.trace h) =
        (direct.trace (h.direct tx)).map Occurrence.given ∧
      Mirrors rows tx (d.after h) (direct.after (h.direct tx)) := by
  induction h generalizing d direct with
  | nil => exact ⟨rfl, hm⟩
  | cons entry rest ih =>
    obtain ⟨m, step⟩ := entry
    obtain ⟨hefirst, herest⟩ := List.forall_mem_cons.mp he
    obtain ⟨hqfirst, hqrest⟩ := List.forall_mem_cons.mp hq
    cases hs : step.direct? tx with
    | none =>
      have hr := ih (hm.still hs hefirst hqfirst) herest hqrest
      simpa [Occurrence.givenInside, History.direct, Database.trace, Database.after, hs] using hr
    | some s =>
      obtain ⟨request, rfl, rfl⟩ := Step.direct?_eq_some hs
      have hc : SameCall rows tx ((Step.call (.inside tx) request).run m d)
          ((Step.call .shared request).run m direct) := hm.call request
      obtain ⟨hr, ha⟩ := ih hc.state herest hqrest
      simp only [Occurrence.givenInside, History.direct, Database.trace, Database.after,
        List.filter_cons, List.filterMap_cons, hs, Option.isSome_some, if_true, Option.map_some,
        List.map_cons, Occurrence.given, hc.result, hc.signals] at hr ha ⊢
      exact ⟨congrArg (_ :: ·) hr, ha⟩

/-- The writes of the transaction can be applied, and leave what the other database holds. -/
theorem commit (h : Mirrors rows tx d direct) (hd : d.Sound) (m : Moment) :
    ((Step.commit tx).run m d).result = .ok .done ∧
      ((Step.commit tx).run m d).state.table.Same direct.table := by
  obtain ⟨writes, hw, hf, hv⟩ := h.view
  have hu : UniqueEmails (d.table.overlay writes).find? := by
    rw [show (d.table.overlay writes).find? = direct.table.find? from funext hv]
    exact h.sound.uniqueEmails
  have hc : writes.conflict? d.table = none :=
    (Writes.conflict?_eq_none_iff hd.ownIds hd.uniqueEmails (hd.staged hw)).mpr
      ⟨hf.same h.table, hu⟩
  rw [Step.run_commit_applied hw hc]
  exact ⟨rfl, hv⟩

theorem rollback (h : Mirrors rows tx d direct) (m : Moment) :
    ((Step.rollback tx).run m d).result = .ok .done ∧
      ((Step.rollback tx).run m d).state.table.Same rows := by
  obtain ⟨writes, hw, -, -⟩ := h.view
  rw [Step.run_rollback, Database.rollback, hw]
  exact ⟨rfl, h.table⟩

end Mirrors

/-- A transaction that is opened after some history and still open after some more steps. If
those of the steps that are not taken through it leave the shared rows as they are, then its calls
give what they would have given on the shared rows, and either end of it goes through: a commit
leaves the rows that the calls would have left, a rollback the rows from before. -/
theorem Database.undisturbed_as_direct (before h : History) (tx : Nat) (m m' : Moment)
    (hnew : (empty.after before).txs.find? tx = none)
    (hopen : ∀ entry ∈ h, entry.2 ≠ .commit tx ∧ entry.2 ≠ .rollback tx)
    (hquiet : ∀ o ∈ (empty.after (before ++ [(m, .begin tx)])).trace h,
      ¬ o.step.Through tx → o.outcome.state.table.Same o.before.table) :
    let d := empty.after before
    let opened := empty.after (before ++ [(m, .begin tx)])
    let commit := (Step.commit tx).run m' (opened.after h)
    let rollback := (Step.rollback tx).run m' (opened.after h)
    Occurrence.givenInside tx (opened.trace h) = (d.trace (h.direct tx)).map Occurrence.given ∧
      commit.result = .ok .done ∧ commit.state.table.Same (d.after (h.direct tx)).table ∧
      rollback.result = .ok .done ∧ rollback.state.table.Same d.table := by
  intro d opened commit rollback
  have hd : d.Sound := sound_after_empty before
  have hbegin : Mirrors d.table tx opened d := by
    rw [show opened = _ from Database.after_concat ..]
    exact .begin hd hnew
  obtain ⟨hgiven, hm⟩ := hbegin.run hopen hquiet
  have hs : (opened.after h).Sound := (sound_after_empty _).after h
  obtain ⟨hc, hct⟩ := hm.commit hs m'
  obtain ⟨hr, hrt⟩ := hm.rollback m'
  exact ⟨hgiven, hc, hct, hr, hrt⟩

/-- An address goes from one row to another inside of the transaction, while a second transaction
is at work and a shared call is refused. -/
theorem Database.undisturbed_address_moves :
    let before := Sample.history
      [.call .shared (.edit (.create (Sample.user 1 "ada@old.org"))), .begin 8]
    let opened := empty.after (before ++ [(Sample.moment, .begin 7)])
    let h := Sample.history
      [.call (.inside 7) (.edit (.update (Sample.user 1 "ada@new.org"))),
        .call (.inside 8) (.edit (.delete (Sample.user 1 "ada@old.org"))),
        .call (.inside 7) (.edit (.create (Sample.user 2 "ada@old.org"))),
        .call .shared (.edit (.create (Sample.user 3 "ada@old.org"))),
        .call (.inside 7) (.edit (.create (Sample.user 4 "ada@new.org"))),
        .call (.inside 7) (.read (.byEmail ⟨"ada@old.org"⟩))]
    let commit := (Step.commit 7).run Sample.moment (opened.after h)
    (empty.after before).txs.find? 7 = none ∧
      (∀ entry ∈ h, entry.2 ≠ .commit 7 ∧ entry.2 ≠ .rollback 7) ∧
      (∀ o ∈ opened.trace h,
        ¬ o.step.Through 7 → o.outcome.state.table.Same o.before.table) ∧
      commit.state.table.Same ((empty.after before).after (h.direct 7)).table := by
  intro before opened h commit
  have hnew : (empty.after before).txs.find? 7 = none := by decide
  have hopen : ∀ entry ∈ h, entry.2 ≠ .commit 7 ∧ entry.2 ≠ .rollback 7 := by decide
  have hquiet : ∀ o ∈ opened.trace h,
      ¬ o.step.Through 7 → o.outcome.state.table.Same o.before.table := by decide
  obtain ⟨-, -, htable, -⟩ :=
    undisturbed_as_direct before h 7 Sample.moment Sample.moment hnew hopen hquiet
  -- the two histories are to be compared as they stand, not computed
  with_reducible exact ⟨hnew, hopen, hquiet, htable⟩

end Accounts
