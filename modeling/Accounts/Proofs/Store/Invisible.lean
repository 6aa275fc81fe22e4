import Accounts.Proofs.Store.Integrity

/-!
# Transactions that nobody sees

A transaction that does not commit might as well not have been there. Two databases that agree
on everything but one transaction stay so whatever that transaction does, short of a commit that
succeeds, and all other steps give the same in both.
-/

namespace Accounts

/-- What a step gave: its result and the signals that it emitted. -/
def Occurrence.reply (o : Occurrence) : Step × Except StepError Answer × List Signal :=
  (o.step, o.outcome.result, o.outcome.signals)

namespace Database

/-- The shared rows are the same, and so is every transaction but one. -/
structure AgreesBut (tx : Nat) (d d' : Database) : Prop where
  table : d.table = d'.table
  txs : ∀ t, t ≠ tx → d.txs.find? t = d'.txs.find? t

variable {d d' : Database} {tx t : Nat}

theorem AgreesBut.refl (tx : Nat) (d : Database) : AgreesBut tx d d := ⟨rfl, fun _ _ => rfl⟩

theorem AgreesBut.writes? (h : AgreesBut tx d d') (ht : t ≠ tx) : d.writes? t = d'.writes? t :=
  congrArg Option.join (h.txs t ht)

/-- What the transaction does to itself. -/
theorem AgreesBut.insertLeft (h : AgreesBut tx d d') (status : Option Writes) :
    AgreesBut tx { d with txs := d.txs.insert tx status } d' where
  table := h.table
  txs t ht := by rw [Keyed.find?_insert, if_neg (Ne.symm ht), h.txs t ht]

theorem AgreesBut.insert (h : AgreesBut tx d d') (t : Nat) (status : Option Writes) :
    AgreesBut tx { d with txs := d.txs.insert t status }
      { d' with txs := d'.txs.insert t status } where
  table := h.table
  txs u hu := by rw [Keyed.find?_insert, Keyed.find?_insert, h.txs u hu]

theorem AgreesBut.withTable (h : AgreesBut tx d d') (rows : Table) :
    AgreesBut tx { d with table := rows } { d' with table := rows } :=
  ⟨rfl, h.txs⟩

theorem AgreesBut.visible (h : AgreesBut tx d d') {scope : Scope} (hs : scope ≠ .inside tx) :
    d.visible scope = d'.visible scope := by
  cases scope with
  | shared => simp only [Database.visible, h.table]
  | inside t =>
    have ht : t ≠ tx := fun ht => hs (by rw [ht])
    simp only [Database.visible, h.table, h.writes? ht]

-- ---------------------------------------------------------------------------
-- Steps of the transaction
-- ---------------------------------------------------------------------------

/-- No step of the transaction shows, unless it is a commit that succeeds. -/
theorem AgreesBut.through (h : AgreesBut tx d d') {step : Step} (hs : step.Through tx)
    {m : Moment} (hc : step = .commit tx → (step.run m d).result ≠ .ok .done) :
    AgreesBut tx (step.run m d).state d' := by
  have he := Step.effect step m d
  generalize step.run m d = o at he hc ⊢
  obtain ⟨result, signals, d₁⟩ := o
  dsimp only at he hc ⊢
  cases he with
  | began hn =>
    cases hs
    exact h.insertLeft _
  | beganBefore => exact h
  | bound => exact h
  | read => exact h
  | refused => exact h
  | edited => cases hs
  | staged hw _ =>
    cases hs
    exact h.insertLeft _
  | committed hw _ =>
    cases hs
    exact absurd rfl (hc rfl)
  | conflicted hw _ =>
    cases hs
    exact h.insertLeft _
  | rolledBack hw =>
    cases hs
    exact h.insertLeft _

-- ---------------------------------------------------------------------------
-- Other steps
-- ---------------------------------------------------------------------------

/-- A step of two databases gives the same and leaves databases that agree. -/
structure SameStep (tx : Nat) (o o' : Outcome Database StepError Answer) : Prop where
  result : o.result = o'.result
  signals : o.signals = o'.signals
  state : AgreesBut tx o.state o'.state

section
variable {m : Moment}

theorem AgreesBut.begin (h : AgreesBut tx d d') (ht : t ≠ tx) :
    AgreesBut tx (d.begin t) (d'.begin t) := by
  have hc : d.txs.contains t = d'.txs.contains t := by simp only [Keyed.contains, h.txs t ht]
  rw [Database.begin, Database.begin, hc]
  split
  · exact h
  · exact h.insert t _

theorem AgreesBut.edit (h : AgreesBut tx d d') {scope : Scope} (hs : scope ≠ .inside tx)
    (e : Edit) :
    SameStep tx ((Step.call scope (.edit e)).run m d) ((Step.call scope (.edit e)).run m d') := by
  rw [Step.run_edit, Step.run_edit]
  cases scope with
  | shared =>
    simp only [Database.change, h.table]
    cases e.check d'.table with
    | error error => exact ⟨rfl, rfl, h⟩
    | ok change => exact ⟨rfl, rfl, h.withTable _⟩
  | inside t =>
    have ht : t ≠ tx := fun ht => hs (by rw [ht])
    simp only [Database.change, h.table, h.writes? ht]
    cases d'.writes? t with
    | none => exact ⟨rfl, rfl, h⟩
    | some writes =>
      dsimp only
      cases e.check (d'.table.overlay writes) with
      | error error => exact ⟨rfl, rfl, h⟩
      | ok change =>
        have hi := h.insert t (some (writes.stage d'.table change))
        rw [h.table] at hi
        exact ⟨rfl, rfl, hi⟩

theorem AgreesBut.read (h : AgreesBut tx d d') {scope : Scope} (hs : scope ≠ .inside tx)
    (r : Reading) :
    SameStep tx ((Step.call scope (.read r)).run m d) ((Step.call scope (.read r)).run m d') := by
  rw [Step.run_read, Step.run_read, h.visible hs]
  cases d'.visible scope with
  | error error => exact ⟨rfl, rfl, h⟩
  | ok rows => exact ⟨rfl, rfl, h⟩

theorem AgreesBut.commit (h : AgreesBut tx d d') (ht : t ≠ tx) :
    SameStep tx ((Step.commit t).run m d) ((Step.commit t).run m d') := by
  rw [Step.run_commit, Step.run_commit, Database.commit, Database.commit, h.writes? ht, h.table]
  cases d'.writes? t with
  | none => exact ⟨rfl, rfl, h⟩
  | some writes =>
    dsimp only
    cases writes.conflict? d'.table with
    | none => exact ⟨rfl, rfl, (h.insert t none).withTable _⟩
    | some reason => exact ⟨rfl, rfl, h.insert t none⟩

theorem AgreesBut.rollback (h : AgreesBut tx d d') (ht : t ≠ tx) :
    SameStep tx ((Step.rollback t).run m d) ((Step.rollback t).run m d') := by
  rw [Step.run_rollback, Step.run_rollback, Database.rollback, Database.rollback, h.writes? ht]
  cases d'.writes? t with
  | none => exact ⟨rfl, rfl, h⟩
  | some writes => exact ⟨rfl, rfl, h.insert t none⟩

theorem AgreesBut.other (h : AgreesBut tx d d') {step : Step} (hs : ¬ step.Through tx)
    (m : Moment) : SameStep tx (step.run m d) (step.run m d') := by
  cases step with
  | begin t => exact ⟨rfl, rfl, h.begin hs⟩
  | bind t => exact ⟨rfl, rfl, h⟩
  | call scope request =>
    cases request with
    | edit e => exact h.edit hs e
    | read r => exact h.read hs r
  | commit t => exact h.commit hs
  | rollback t => exact h.rollback hs

end

-- ---------------------------------------------------------------------------
-- Histories
-- ---------------------------------------------------------------------------

/-- A history, and what is left of it without the steps of the transaction. -/
theorem AgreesBut.erase {h : History} (hd : AgreesBut tx d d')
    (hc : ∀ o ∈ d.trace h, o.step = .commit tx → o.outcome.result ≠ .ok .done) :
    ((d.trace h).filter (¬ ·.step.Through tx)).map Occurrence.reply =
        (d'.trace (h.filter (¬ ·.2.Through tx))).map Occurrence.reply ∧
      AgreesBut tx (d.after h) (d'.after (h.filter (¬ ·.2.Through tx))) := by
  induction h generalizing d d' with
  | nil => exact ⟨rfl, hd⟩
  | cons entry rest ih =>
    obtain ⟨m, step⟩ := entry
    obtain ⟨hfirst, hrest⟩ := List.forall_mem_cons.mp hc
    by_cases hs : step.Through tx
    · -- the step is erased
      simpa [Database.trace, Database.after, hs] using ih (hd.through hs hfirst) hrest
    · have ho := hd.other hs m
      obtain ⟨hr, ha⟩ := ih ho.state hrest
      simp only [Database.trace, Database.after, hs, not_false_eq_true, decide_true,
        List.filter_cons_of_pos, List.map_cons]
      refine ⟨?_, ha⟩
      rw [hr]
      simp only [Occurrence.reply, ho.result, ho.signals]

/-- A transaction that is left open or rolled back, or whose commit fails: without its steps every
other step gives the same, and the same rows and the same other transactions are left. -/
theorem uncommitted_invisible (d : Database) (h : History) (tx : Nat)
    (hc : ∀ o ∈ d.trace h, o.step = .commit tx → o.outcome.result ≠ .ok .done) :
    let rest := h.filter (¬ ·.2.Through tx)
    ((d.trace h).filter (¬ ·.step.Through tx)).map Occurrence.reply =
        (d.trace rest).map Occurrence.reply ∧
      (d.after h).table = (d.after rest).table ∧
      ∀ t, t ≠ tx → (d.after h).txs.find? t = (d.after rest).txs.find? t := by
  intro rest
  obtain ⟨hr, ha⟩ := (AgreesBut.refl tx d).erase hc
  exact ⟨hr, ha.table, ha.txs⟩

/-- The commit fails, since the row that the transaction has updated is gone. -/
theorem failed_commit_invisible :
    let h := Sample.history
      [.call .shared (.edit (.create (Sample.user 1 "ada@old.org"))), .begin 7, .begin 8,
        .call (.inside 7) (.edit (.update (Sample.user 1 "ada@new.org"))),
        .call (.inside 8) (.edit (.create (Sample.user 2 "ada@new.org"))),
        .call .shared (.edit (.delete (Sample.user 1 "ada@old.org"))), .commit 7, .commit 8]
    let rest := h.filter (¬ ·.2.Through 7)
    (∀ o ∈ empty.trace h, o.step = .commit 7 → o.outcome.result ≠ .ok .done) ∧
      rest.length = 5 ∧ (empty.after h).table = (empty.after rest).table := by
  intro h rest
  have hc : ∀ o ∈ empty.trace h, o.step = .commit 7 → o.outcome.result ≠ .ok .done := by decide
  obtain ⟨-, htable, -⟩ := uncommitted_invisible empty h 7 hc
  exact ⟨hc, by decide, htable⟩

end Database

end Accounts
