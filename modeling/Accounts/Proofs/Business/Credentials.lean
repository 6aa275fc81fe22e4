import Accounts.Proofs.Bcrypt.Verification
import Accounts.Proofs.Business.Course
import Mathlib.Data.List.Induction

/-!
# The password that was accepted last

Requests of one business accept passwords: a new user comes with one, and a change can bring
another. As long as whoever changes a user has the row as it is stored, the hash of every stored
row is one of the password that was accepted last for its id, and its address leads to this row
and no other. So the user gets in with that password, whatever else has changed since.
-/

namespace Accounts

/-- The password that a turn has accepted, and the id that it is for. -/
def Entry.accepts? (e : Entry) : Option (Uuid × String) :=
  match e.turn, e.result with
  | .ask _ (.create _ new), .ok (.user user) => some (user.id, new.password)
  | .ask _ (.update _ _ changes), .ok (.user user) => changes.password.map (user.id, ·)
  | _, _ => none

def accepted? (trace : List Entry) (id : Uuid) : Option String :=
  ((trace.filterMap Entry.accepts?).reverse.find? (·.1 = id)).map (·.2)

/-- Whoever asks for a change of a stored user has the row as it is stored. -/
def Entry.UpToDate (e : Entry) : Prop :=
  match e.turn with
  | .ask _ (.update _ user _) => ∀ row, e.before.table.find? user.id = some row → row = user
  | _ => True

def Course.ofRequests (requests : List (Moment × Request)) : Course :=
  requests.map fun (m, request) => (m, .ask .shared request)

theorem Course.ofRequests_concat (requests : List (Moment × Request)) (m : Moment)
    (request : Request) :
    ofRequests (requests ++ [(m, request)]) = ofRequests requests ++ [(m, .ask .shared request)] :=
  List.map_append

theorem accepted?_concat (trace : List Entry) (e : Entry) (id : Uuid) :
    accepted? (trace ++ [e]) id =
      match e.accepts? with
      | some (other, password) => if other = id then some password else accepted? trace id
      | none => accepted? trace id := by
  rw [accepted?, List.filterMap_append, List.reverse_append]
  cases ha : e.accepts? with
  | none => simp [accepted?, ha]
  | some pair =>
    obtain ⟨other, password⟩ := pair
    by_cases h : other = id <;> simp [accepted?, ha, h]

theorem Entry.accepts?_update (d : Database) (m : Moment) (scope : Scope) (actor : Uuid)
    (user row : User) (changes : UserUpdate) :
    Entry.accepts? ⟨d, m, .ask scope (.update actor user changes), .ok (.user row)⟩ =
      changes.password.map (row.id, ·) := rfl

theorem Entry.accepts?_error (d : Database) (m : Moment) (turn : Turn) (error : TurnError) :
    Entry.accepts? ⟨d, m, turn, .error error⟩ = none := by
  unfold accepts?
  split
  · rename_i h
    cases h
  · rename_i h
    cases h
  · rfl

/-- Every stored hash is one of the password that was accepted last. -/
structure Database.Credited (d : Database) (trace : List Entry) : Prop where
  sound : d.Sound
  verified : ∀ ⦃id u⦄, d.table.find? id = some u →
    ∃ password, accepted? trace id = some password ∧
      Password.verify password u.passwordHash = true

namespace Database.Credited

variable {d d' : Database} {trace : List Entry} {m : Moment}

theorem empty : Database.empty.Credited [] where
  sound := sound_empty
  verified := by
    intro id u h
    cases h

/-- A turn that accepts no password and stores no new row. -/
theorem still (h : d.Credited trace) {e : Entry} (ha : e.accepts? = none) (hs : d'.Sound)
    (ht : ∀ ⦃id u⦄, d'.table.find? id = some u → d.table.find? id = some u) :
    d'.Credited (trace ++ [e]) where
  sound := hs
  verified := by
    intro id u hu
    rw [accepted?_concat, ha]
    exact h.verified (ht hu)

/-- A turn that stores a row, of whose id it alone may accept a password. -/
theorem store (h : d.Credited trace) {e : Entry} {row : User} (hs : d'.Sound)
    (ht : d'.table = d.table.assign row.id (some row))
    (ha : ∀ id password, e.accepts? = some (id, password) → id = row.id)
    (hv : ∃ password, accepted? (trace ++ [e]) row.id = some password ∧
      Password.verify password row.passwordHash = true) :
    d'.Credited (trace ++ [e]) where
  sound := hs
  verified := by
    intro id u hu
    rw [ht, Keyed.find?_assign] at hu
    split at hu
    · rename_i hid
      cases hu
      rwa [← hid]
    · rename_i hid
      have hold : accepted? (trace ++ [e]) id = accepted? trace id := by
        rw [accepted?_concat]
        cases hacc : e.accepts? with
        | none => rfl
        | some pair =>
          obtain ⟨other, password⟩ := pair
          rw [ha other password hacc]
          exact if_neg hid
      rw [hold]
      exact h.verified hu

theorem create (h : d.Credited trace) {actor : Uuid} {new : NewUser} {hash : String}
    (hh : Password.hash m.salt new.password = .ok hash)
    (he : Effect d (.call .shared (.edit (.create (new.row hash m)))) (.ok .done) d') :
    d'.Credited (trace ++
      [⟨d, m, .ask .shared (.create actor new), .ok (.user (new.row hash m))⟩]) := by
  have hs := he.sound h.sound
  cases he with
  | edited hc =>
    refine h.store hs rfl ?_ ⟨new.password, ?_, Password.verify_of_hash hh⟩
    · rintro id password ⟨⟩
      rfl
    · rw [accepted?_concat]
      exact if_pos rfl

theorem update (h : d.Credited trace) {actor : Uuid} {user : User} {changes : UserUpdate}
    {hash : Option String} (hh : changes.hash m = .ok hash)
    (hu : ∀ row, d.table.find? user.id = some row → row = user)
    (he : Effect d (.call .shared (.edit (.update (changes.apply hash m.now user)))) (.ok .done)
      d') :
    d'.Credited (trace ++
      [⟨d, m, .ask .shared (.update actor user changes),
        .ok (.user (changes.apply hash m.now user))⟩]) := by
  have hs := he.sound h.sound
  cases he with
  | edited hc =>
    refine h.store hs rfl ?_ ?_
    · intro id password ha
      obtain ⟨_, -, hp⟩ := Option.map_eq_some_iff.mp ha
      cases hp
      rfl
    · obtain ⟨hp, rfl⟩ | ⟨password, text, hp, rfl, ht⟩ := UserUpdate.hash_ok hh
      · -- the hash is still that of the stored row, of which the caller has a copy
        obtain ⟨row, hrow⟩ := Edit.mem_of_check hc (by simp)
        obtain ⟨password, hacc, hv⟩ := h.verified hrow
        obtain rfl := hu row hrow
        refine ⟨password, ?_, hv⟩
        rw [accepted?_concat, Entry.accepts?_update, hp]
        exact hacc
      · refine ⟨password, ?_, Password.verify_of_hash ht⟩
        rw [accepted?_concat, Entry.accepts?_update, hp]
        exact if_pos rfl

theorem turn (h : d.Credited trace) {request : Request} {result : Except TurnError Answer}
    (he : TurnEffect m d (.ask .shared request) result d')
    (hu : Entry.UpToDate ⟨d, m, .ask .shared request, result⟩) :
    d'.Credited (trace ++ [⟨d, m, .ask .shared request, result⟩]) := by
  have hs := he.sound h.sound
  cases he with
  | created hh he => exact h.create hh he
  | updated hh he => exact h.update hh hu he
  | deleted he hn =>
    cases he with
    | edited hc =>
      refine h.still rfl hs ?_
      intro id u hf
      rw [Keyed.find?_assign] at hf
      split at hf
      · cases hf
      · exact hf
  | answered hr =>
    refine h.still ?_ hs fun id u hf => hf
    cases request with
    | read | authenticate => rfl
    | create | update | delete => cases hr
  | refused => exact h.still (Entry.accepts?_error ..) hs fun id u hf => hf
  | handled hstep => cases hstep

end Database.Credited

namespace Office

variable {σ π : Type} [Publisher σ π] (o : Office σ π) {s : σ}

theorem credited_after (hs : o.database.get s = .empty) (requests : List (Moment × Request))
    (hu : ∀ e ∈ o.trace s (.ofRequests requests), e.UpToDate) :
    (o.database.get (o.after s (.ofRequests requests))).Credited
      (o.trace s (.ofRequests requests)) := by
  induction requests using List.reverseRecOn with
  | nil =>
    change (o.database.get s).Credited []
    rw [hs]
    exact .empty
  | append_singleton requests last ih =>
    obtain ⟨m, request⟩ := last
    rw [Course.ofRequests_concat, o.trace_concat] at hu
    rw [Course.ofRequests_concat, o.trace_concat, o.after_concat]
    have hd := ih fun e he => hu e (List.mem_append_left _ he)
    exact hd.turn (o.effect _ m _) (hu _ (List.mem_append_right _ (List.mem_singleton_self _)))

theorem authenticate_of_credited {trace : List Entry} (h : (o.database.get s).Credited trace)
    {id : Uuid} {u : User} (hu : (o.database.get s).table.find? id = some u) {password : String}
    (hv : Password.verify password u.passwordHash = true) (m : Moment) :
    ((o.inScope .shared).authenticate u.email password).quiet m s = (.ok u, s) := by
  have hfound : (o.database.get s).table.byEmail? u.email = some u :=
    (Table.byEmail?_eq_some_iff h.sound.uniqueEmails).mpr ⟨⟨id, hu⟩, rfl⟩
  rw [Service.authenticate_quiet, Service.byEmail_quiet]
  refine congrArg (·, s) (Service.judge_eq_ok.mpr ⟨?_, hv⟩)
  simp only [inScope, Database.visible, bind, Except.bind, hfound]
  rfl

/-- After any requests of a business over an empty database, each stored user gets in with the
password that was accepted last for the user's id, and is handed out as the row is stored. -/
theorem authenticates_with_accepted (hs : o.database.get s = .empty)
    (requests : List (Moment × Request))
    (hu : ∀ e ∈ o.trace s (.ofRequests requests), e.UpToDate) :
    let c := Course.ofRequests requests
    ∀ id u, (o.database.get (o.after s c)).table.find? id = some u →
      ∃ password, accepted? (o.trace s c) id = some password ∧
        ∀ m, ((o.inScope .shared).authenticate u.email password m (o.after s c)).result =
          .ok u := by
  intro c id u hfound
  have hd := o.credited_after hs requests hu
  obtain ⟨password, hacc, hv⟩ := hd.verified hfound
  refine ⟨password, hacc, fun m => ?_⟩
  exact congrArg Prod.fst (o.authenticate_of_credited hd hfound hv m)

/-- A user gets in at a new address with the password of old. -/
theorem authenticates_at_new_address :
    ∃ hash, Password.hash Sample.moment.salt "secret" = .ok hash ∧
      let ada := (Sample.newUser "ada@old.org").row hash Sample.moment
      let requests :=
        [(Sample.moment, Request.create ada.id (Sample.newUser "ada@old.org")),
          (Sample.moment, .update ada.id ada (Sample.move "ada@new.org"))]
      let d := Sample.office.after .empty (.ofRequests requests)
      accepted? (Sample.office.trace .empty (.ofRequests requests)) ada.id = some "secret" ∧
        ∀ m, ((Sample.office.inScope .shared).authenticate ⟨"ada@new.org"⟩ "secret" m d).result =
          .ok { ada with email := ⟨"ada@new.org"⟩ } := by
  obtain ⟨hash, hh⟩ := Sample.exists_hash Sample.moment.salt
  refine ⟨hash, hh, ?_⟩
  intro ada requests d
  let moved : User := { ada with email := ⟨"ada@new.org"⟩ }
  let first : Database := ⟨Keyed.empty.insert ada.id ada, .empty⟩
  have hcreate : (Sample.office.take
      (.ask .shared (.create ada.id (Sample.newUser "ada@old.org")))).quiet Sample.moment .empty =
        (.ok (.user ada), first) := by
    rw [take_create, show (Sample.newUser "ada@old.org").password = "secret" from rfl, hh]
    rfl
  have hmove : (Sample.office.take
      (.ask .shared (.update ada.id ada (Sample.move "ada@new.org")))).quiet Sample.moment first =
        (.ok (.user moved), ⟨first.table.insert ada.id moved, .empty⟩) := by
    rw [take_update]
    rfl
  have htrace : Sample.office.trace .empty (.ofRequests requests) =
      [⟨.empty, Sample.moment, .ask .shared (.create ada.id (Sample.newUser "ada@old.org")),
          .ok (.user ada)⟩,
        ⟨first, Sample.moment, .ask .shared (.update ada.id ada (Sample.move "ada@new.org")),
          .ok (.user moved)⟩] :=
    (trace_cons _ hcreate _).trans (congrArg _ (trace_cons _ hmove _))
  have hd : d = ⟨first.table.insert ada.id moved, .empty⟩ :=
    (after_cons _ hcreate _).trans (after_cons _ hmove _)
  have hstored : d.table.find? ada.id = some moved := by
    rw [hd]
    exact (Keyed.find?_insert ..).trans (if_pos rfl)
  have hup : ∀ e ∈ Sample.office.trace .empty (.ofRequests requests), e.UpToDate := by
    rw [htrace]
    intro e he
    obtain rfl | rfl := List.mem_pair.mp he
    · trivial
    · intro row hrow
      rw [Keyed.find?_insert, if_pos rfl] at hrow
      cases hrow
      rfl
  have haccepted : accepted? (Sample.office.trace .empty (.ofRequests requests)) ada.id =
      some "secret" := by
    rw [htrace]
    rfl
  obtain ⟨password, hacc, hin⟩ :=
    authenticates_with_accepted Sample.office (s := .empty) rfl requests hup ada.id moved hstored
  cases haccepted.symm.trans hacc
  exact ⟨haccepted, hin⟩

end Office

end Accounts
