import Accounts.Password
import Accounts.Proofs.Bcrypt.Base64

/-!
# Verification undoes hashing

The text of a hash is read back as the salt and the digest that it was made of, whatever they
are, so that a password matches every hash of its own. Of the digest only its length counts. A
password that is too long has no hash and matches none; the zero byte behind it takes one of the
bytes that it may have.
-/

namespace Accounts

namespace Bcrypt

theorem dollar_notMem_base64Digits : '$' ∉ base64Digits := by decide

theorem utf8Size_of_mem_base64Digits {c : Char} (hc : c ∈ base64Digits) : c.utf8Size = 1 := by
  have hall : (base64Digits.all fun c => c.utf8Size == 1) = true := by decide
  exact beq_iff_eq.mp (List.all_eq_true.mp hall c hc)

/-- Cutting off characters of one byte each. -/
theorem splitBytes?_go {front rest taken : List Char} (hf : ∀ c ∈ front, c.utf8Size = 1)
    (hr : rest ≠ []) :
    splitBytes?.go front.length taken (front ++ rest) = some (taken.reverse ++ front, rest) := by
  induction front generalizing taken with
  | nil =>
    cases rest with
    | nil => exact absurd rfl hr
    | cons c rest => simp [splitBytes?.go]
  | cons c front ih =>
    obtain ⟨hc, hf⟩ := List.forall_mem_cons.mp hf
    rw [List.cons_append, splitBytes?.go, if_neg (by simp), hc, if_pos (by simp), List.length_cons,
      Nat.add_sub_cancel, ih hf, List.reverse_cons, List.append_assoc]
    rfl

theorem splitBytes?_append {front rest : List Char} (hf : front.length = 22)
    (hr : rest.length = 31) (h : ∀ c ∈ front ++ rest, c.utf8Size = 1) :
    splitBytes? (front ++ rest) = some (front, rest) := by
  have hne : rest ≠ [] := by
    rintro rfl
    cases hr
  rw [splitBytes?, Text.byteLength_eq_length h, if_pos (by simp [hf, hr]), ← hf,
    splitBytes?_go (fun c hc => h c (List.mem_append_left _ hc)) hne]
  rfl

section
variable {digest : List UInt8}

theorem parse_hashText (salt : Salt) (hd : digest.length = 23) :
    parse (hashText Password.cost salt digest) =
      .ok ⟨Password.cost, encode64 salt.bytes, encode64 digest⟩ := by
  let body := encode64 salt.bytes ++ encode64 digest
  have hdigits : ∀ c ∈ body, c ∈ base64Digits := by
    intro c hc
    rcases List.mem_append.mp hc with hc | hc
    · exact mem_base64Digits_of_encode64 hc
    · exact mem_base64Digits_of_encode64 hc
  have hcost : costText Password.cost = "12" := by decide
  have htext : (hashText Password.cost salt digest).toList =
      [] ++ '$' :: ("2b".toList ++ '$' :: ("12".toList ++ '$' :: body)) := by
    simp [hashText, hcost, body]
  have hpieces : Text.pieces '$' (hashText Password.cost salt digest).toList =
      [[], "2b".toList, "12".toList, body] := by
    rw [htext, Text.pieces_append (by decide), Text.pieces_append (by decide),
      Text.pieces_append (by decide), Text.pieces_single]
    exact fun h => dollar_notMem_base64Digits (hdigits _ h)
  have hsplit : splitBytes? body = some (encode64 salt.bytes, encode64 digest) := by
    refine splitBytes?_append ?_ ?_ ?_
    · rw [length_encode64, salt.length_eq]
      rfl
    · rw [length_encode64, hd]
    · exact fun c hc => utf8Size_of_mem_base64Digits (hdigits c hc)
  have hread : (([[], "2b".toList, "12".toList, body].filter (!·.isEmpty)).map String.ofList) =
      ["2b", "12", String.ofList body] := by
    have hne : body ≠ [] := by
      intro hnil
      rw [hnil] at hsplit
      cases hsplit
    simp [hne]
  have hword : Text.readWord "12" = .ok 12 := by decide
  rw [parse, hpieces, hread]
  simp only [versions, hword, String.toList_ofList, hsplit]
  rfl

/-- The digest that a password has with the salt of the text. -/
theorem verify?_hashText {salt : Salt} {password : String}
    (h : hashBytes Password.cost salt password = .ok digest) (hd : digest.length = 23) :
    verify? password (hashText Password.cost salt digest) = some true := by
  simp [verify?, parse_hashText salt hd, Except.toOption, decode64?_encode64, salt.length_eq, h]

end

theorem hashText_eq (salt : Salt) (digest : List UInt8) :
    hashText Password.cost salt digest =
      "$2b$12$" ++ String.ofList (encode64 salt.bytes ++ encode64 digest) := rfl

/-- Of the 60 characters the salt takes 22 and the digest 31. -/
theorem length_hashText (salt : Salt) {digest : List UInt8} (hd : digest.length = 23) :
    (hashText Password.cost salt digest).length = 60 := by
  have hbody : (String.ofList (encode64 salt.bytes ++ encode64 digest)).length = 22 + 31 := by
    rw [String.length_ofList, List.length_append, length_encode64, length_encode64, salt.length_eq,
      hd]
    rfl
  rw [hashText_eq, String.length_append, hbody]
  rfl

theorem length_of_hashBytes {cost : Nat} {salt : Salt} {password : String} {digest : List UInt8}
    (h : hashBytes cost salt password = .ok digest) : digest.length = 23 := by
  rw [hashBytes] at h
  split at h
  · cases h
  · split at h
    · cases h
    · cases h
      exact length_digest ..

theorem hash_ok {cost : Nat} {salt : Salt} {password text : String}
    (h : hash cost salt password = .ok text) :
    ∃ digest, hashBytes cost salt password = .ok digest ∧ text = hashText cost salt digest := by
  rw [hash] at h
  cases hb : hashBytes cost salt password with
  | error e =>
    rw [hb] at h
    cases h
  | ok digest =>
    rw [hb] at h
    cases h
    exact ⟨digest, rfl, rfl⟩

theorem length_toList_loop (bytes : ByteArray) (i : Nat) (front : List UInt8) :
    (ByteArray.toList.loop bytes i front).length = front.length + (bytes.size - i) := by
  fun_induction ByteArray.toList.loop bytes i front with
  | case1 i front hi ih =>
    rw [ih, List.length_cons]
    omega
  | case2 i front hi =>
    rw [List.length_reverse]
    omega

theorem length_terminated (password : String) :
    (terminated password).length = password.utf8ByteSize + 1 := by
  rw [terminated, List.length_append, ByteArray.toList, length_toList_loop]
  simp

/-- Whatever the cost and the salt are. -/
theorem hashBytes_of_long {password : String} (h : maxLength ≤ password.utf8ByteSize) (cost : Nat)
    (salt : Salt) : ∃ error, hashBytes cost salt password = .error error := by
  rw [hashBytes]
  split
  · exact ⟨_, rfl⟩
  · rw [if_pos (by rw [length_terminated]; omega)]
    exact ⟨_, rfl⟩

/-- No text is told to be a hash of it or to be none. -/
theorem verify?_of_long {password : String} (h : maxLength ≤ password.utf8ByteSize)
    (hash : String) : verify? password hash = none := by
  rw [verify?]
  cases (parse hash).toOption with
  | none => rfl
  | some parsed =>
    cases hsalt : decode64? parsed.salt with
    | none => simp [hsalt]
    | some salt =>
      by_cases hlength : salt.length = saltLength
      · obtain ⟨error, hbytes⟩ := hashBytes_of_long h parsed.cost ⟨salt, hlength⟩
        simp [hsalt, hlength, hbytes, Except.toOption]
      · simp [hsalt, hlength]

end Bcrypt

namespace Password

variable {salt : Bcrypt.Salt} {password hash : String}

/-- Only a password that is too long is refused, and the error says how long it is. -/
theorem hash_error {error : Bcrypt.Error} (h : Password.hash salt password = .error error) :
    error = .truncation (password.utf8ByteSize + 1) := by
  rw [Password.hash, Bcrypt.hash, Bcrypt.hashBytes, if_neg (by decide)] at h
  split at h
  · cases h
    rw [Bcrypt.length_terminated]
  · cases h

/-- A password matches every hash of its own. -/
theorem verify_of_hash (h : Password.hash salt password = .ok hash) :
    verify password hash = true := by
  obtain ⟨digest, hb, rfl⟩ := Bcrypt.hash_ok h
  rw [verify, Bcrypt.verify?_hashText hb (Bcrypt.length_of_hashBytes hb)]
  rfl

theorem ne_empty_of_hash (h : Password.hash salt password = .ok hash) : hash ≠ "" := by
  obtain ⟨digest, -, rfl⟩ := Bcrypt.hash_ok h
  intro he
  have hlist := congrArg String.toList he
  simp [Bcrypt.hashText] at hlist

theorem hash_of_short (h : password.utf8ByteSize < Bcrypt.maxLength) (salt : Bcrypt.Salt) :
    ∃ text, Password.hash salt password = .ok text ∧ text.length = 60 ∧
      ∃ body, text = "$2b$12$" ++ body := by
  let digest := Bcrypt.digest cost salt.bytes (Bcrypt.terminated password)
  have hbytes : Bcrypt.hashBytes cost salt password = .ok digest := by
    rw [Bcrypt.hashBytes, if_neg (by decide), if_neg (by rw [Bcrypt.length_terminated]; omega)]
  refine ⟨Bcrypt.hashText cost salt digest, ?_, ?_, _, Bcrypt.hashText_eq salt digest⟩
  · rw [Password.hash, Bcrypt.hash, hbytes]
    rfl
  · exact Bcrypt.length_hashText salt (Bcrypt.length_digest ..)

theorem hash_of_long (h : Bcrypt.maxLength ≤ password.utf8ByteSize) (salt : Bcrypt.Salt) :
    Password.hash salt password = .error (.truncation (password.utf8ByteSize + 1)) := by
  obtain ⟨error, hbytes⟩ := Bcrypt.hashBytes_of_long h cost salt
  have herror : Password.hash salt password = .error error := by
    rw [Password.hash, Bcrypt.hash, hbytes]
    rfl
  rw [herror, hash_error herror]

theorem verify_of_long (h : Bcrypt.maxLength ≤ password.utf8ByteSize) (hash : String) :
    verify password hash = false := by
  rw [verify, Bcrypt.verify?_of_long h]
  rfl

/-- The limit is one of bytes and not of characters, and one of them is the zero byte. Up to it a
password has a hash of its own with every salt and matches it; beyond it there is no hash and no
match, whatever is given for a hash. -/
theorem limited_by_bytes (password : String) :
    (password.utf8ByteSize ≤ 71 → ∀ salt, ∃ text, Password.hash salt password = .ok text ∧
      text.length = 60 ∧ (∃ body, text = "$2b$12$" ++ body) ∧ verify password text = true) ∧
    (72 ≤ password.utf8ByteSize →
      (∀ salt, Password.hash salt password = .error (.truncation (password.utf8ByteSize + 1))) ∧
      ∀ hash, verify password hash = false) := by
  constructor
  · intro h salt
    obtain ⟨text, hhash, hlength, hfront⟩ := hash_of_short (Nat.lt_succ_of_le h) salt
    exact ⟨text, hhash, hlength, hfront, verify_of_hash hhash⟩
  · intro h
    exact ⟨hash_of_long h, verify_of_long h⟩

/-- In letters of two bytes each, 36 of them are too many, and 35 leave one byte for another. -/
theorem limited_by_bytes_of_wide_letters :
    let salt : Bcrypt.Salt := ⟨List.replicate 16 255, rfl⟩
    let short := String.ofList (List.replicate 35 'é') ++ "a"
    let long := String.ofList (List.replicate 36 'é')
    short.utf8ByteSize ≤ 71 ∧ short.length = long.length ∧
      (∃ text, Password.hash salt short = .ok text ∧ text.length = 60 ∧
        (∃ body, text = "$2b$12$" ++ body) ∧ verify short text = true) ∧
      72 ≤ long.utf8ByteSize ∧ Password.hash salt long = .error (.truncation 73) ∧
      verify long ("$2b$12$" ++ String.ofList (List.replicate 53 '.')) = false := by
  intro salt short long
  have hshort : short.utf8ByteSize ≤ 71 := by decide
  have hlong : 72 ≤ long.utf8ByteSize := by decide
  obtain ⟨hhash, hverify⟩ := (limited_by_bytes long).2 hlong
  exact ⟨hshort, by decide, (limited_by_bytes short).1 hshort salt, hlong, hhash salt,
    hverify _⟩

end Password

end Accounts
