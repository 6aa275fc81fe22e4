import Accounts.Bcrypt.Constants

/-!
# The cipher and its slow key schedule

Sixteen rounds on two words, with round keys and four boxes that a key schedule replaces word by
word. The slow schedule takes in the password and the salt in turns, `2 ^ cost` times.
-/

namespace Accounts.Bcrypt

/-- Round keys and boxes; the four boxes stand one after the other. -/
structure Schedule where
  keys : Vector UInt32 18
  boxes : Vector UInt32 1024

/-- The schedule that every key starts from. -/
def Schedule.initial : Schedule where
  keys := Vector.ofFn fun i => piWords.getD i.val 0
  boxes := Vector.ofFn fun i => piWords.getD (18 + i.val) 0

/-- The entry of box `box` for a byte. -/
@[inline] def boxed (boxes : Vector UInt32 1024) (box : Fin 4) (byte : UInt8) : UInt32 :=
  boxes.get ⟨256 * box.val + byte.toNat, by have := byte.toNat_lt; omega⟩

@[inline] def scramble (boxes : Vector UInt32 1024) (x : UInt32) : UInt32 :=
  ((boxed boxes 0 (x >>> 24).toUInt8 + boxed boxes 1 (x >>> 16).toUInt8) ^^^
    boxed boxes 2 (x >>> 8).toUInt8) + boxed boxes 3 x.toUInt8

/-- Two words in one. -/
@[inline] def pack (left right : UInt32) : UInt64 :=
  left.toUInt64 <<< 32 ||| right.toUInt64

@[inline] def leftOf (block : UInt64) : UInt32 := (block >>> 32).toUInt32
@[inline] def rightOf (block : UInt64) : UInt32 := block.toUInt32

/-- The last `2 * count` of the sixteen rounds, and the last two round keys. -/
def rounds (keys : Vector UInt32 18) (boxes : Vector UInt32 1024) :
    (count : Nat) → count ≤ 8 → UInt32 → UInt32 → UInt64
  | 0, _, left, right => pack (right ^^^ keys[17]) (left ^^^ keys[16])
  | count + 1, h, left, right =>
    let left := left ^^^ keys[14 - 2 * count]
    let right := right ^^^ scramble boxes left
    let right := right ^^^ keys[15 - 2 * count]
    let left := left ^^^ scramble boxes right
    rounds keys boxes count (by omega) left right

/-- Enciphers a block of two words. -/
def encipher (keys : Vector UInt32 18) (boxes : Vector UInt32 1024) (block : UInt64) : UInt64 :=
  rounds keys boxes 8 (Nat.le_refl 8) (leftOf block) (rightOf block)

/-- Replaces the last `2 * count` round keys, starting from `block`; the blocks take in `even` and
`odd` in turns. -/
def replaceKeys (boxes : Vector UInt32 1024) :
    (count : Nat) → count ≤ 9 → Vector UInt32 18 → (block even odd : UInt64) →
      Vector UInt32 18 × UInt64
  | 0, _, keys, block, _, _ => (keys, block)
  | count + 1, h, keys, block, even, odd =>
    let block := encipher keys boxes (block ^^^ even)
    let keys := (keys.set (16 - 2 * count) (leftOf block)).set (17 - 2 * count) (rightOf block)
    replaceKeys boxes count (by omega) keys block odd even

/-- Replaces the last `2 * count` entries of the boxes in the same way. -/
def replaceBoxes (keys : Vector UInt32 18) :
    (count : Nat) → count ≤ 512 → Vector UInt32 1024 → (block even odd : UInt64) →
      Vector UInt32 1024
  | 0, _, boxes, _, _, _ => boxes
  | count + 1, h, boxes, block, even, odd =>
    let block := encipher keys boxes (block ^^^ even)
    let boxes :=
      (boxes.set (1022 - 2 * count) (leftOf block)).set (1023 - 2 * count) (rightOf block)
    replaceBoxes keys count (by omega) boxes block odd even

/-- Takes in a key of eighteen words and a salt of two blocks, which is zero where there is
none. -/
def Schedule.expand (s : Schedule) (key : Vector UInt32 18) (even odd : UInt64) : Schedule :=
  match s with
  | ⟨keys, boxes⟩ =>
    let keys := keys.zipWith (· ^^^ ·) key
    match replaceKeys boxes 9 (Nat.le_refl 9) keys 0 even odd with
    | (keys, block) => ⟨keys, replaceBoxes keys 512 (Nat.le_refl 512) boxes block odd even⟩

/-- Takes in the password and the salt by turns, `times` times. -/
def Schedule.stretch (password salt : Vector UInt32 18) : Nat → Schedule → Schedule
  | 0, s => s
  | times + 1, s => stretch password salt times ((s.expand password 0 0).expand salt 0 0)

/-- The word at `index` of bytes that are repeated without end; zero if there are none. -/
def cyclicWord (bytes : Array UInt8) (index : Nat) : UInt32 :=
  let byte (i : Nat) : UInt32 := (bytes.getD ((4 * index + i) % bytes.size) 0).toUInt32
  byte 0 <<< 24 ||| byte 1 <<< 16 ||| byte 2 <<< 8 ||| byte 3

def cyclicWords (bytes : Array UInt8) : Vector UInt32 18 :=
  Vector.ofFn fun i => cyclicWord bytes i.val

/-- The schedule of a password, a salt of sixteen bytes and a cost. -/
def Schedule.slow (cost : Nat) (salt password : Array UInt8) : Schedule :=
  let saltWord := cyclicWord salt
  let key := cyclicWords password
  (Schedule.initial.expand key (pack (saltWord 0) (saltWord 1)) (pack (saltWord 2) (saltWord 3)))
    |>.stretch key (cyclicWords salt) (1 <<< cost)

/-- The text that is enciphered, as three blocks. -/
def magic : List UInt64 :=
  [pack 0x4F727068 0x65616E42, pack 0x65686F6C 0x64657253, pack 0x63727944 0x6F756274]

/-- Enciphers a block 64 times. -/
def Schedule.encipher64 (s : Schedule) (block : UInt64) : UInt64 :=
  Nat.repeat (encipher s.keys s.boxes) 64 block

/-- The bytes of a block, the highest first. -/
def blockBytes (block : UInt64) : List UInt8 :=
  [(block >>> 56).toUInt8, (block >>> 48).toUInt8, (block >>> 40).toUInt8,
    (block >>> 32).toUInt8, (block >>> 24).toUInt8, (block >>> 16).toUInt8,
    (block >>> 8).toUInt8, block.toUInt8]

theorem length_blockBytes (block : UInt64) : (blockBytes block).length = 8 := rfl

/-- The digest: the enciphered text without its last byte. -/
def digest (cost : Nat) (salt password : List UInt8) : List UInt8 :=
  let s := Schedule.slow cost salt.toArray password.toArray
  (magic.flatMap fun block => blockBytes (s.encipher64 block)).take 23

theorem length_digest (cost : Nat) (salt password : List UInt8) :
    (digest cost salt password).length = 23 := by
  simp [digest, magic, length_blockBytes]

end Accounts.Bcrypt
