import Mathlib

/-!
The base64 code with the standard alphabet and padding: three bytes are four
letters of six bits each, and a last group of one or two bytes is filled up
with `=`.

* `encodeBytes`, `decodeChars`: the code on lists, by groups of three bytes and
  of four letters; the decoder takes the last group with and without its
  padding, but its unused bits must be zero.
* `decodeChars_encodeBytes`: decoding inverts encoding.
* `Base64`: an encoder together with a decoder, with the two facts a reader of
  encoded texts relies on in `Base64.Lawful`; `standard` is the code of this
  file, and `standard_lawful` says that it has both.
-/

/-- A base64 encoder and decoder, as a library offers them. -/
structure Base64 where
  encode : ByteArray → String
  decode : String → Option ByteArray

/-- What is relied on: decoding inverts encoding, and the alphabet has no `-`. -/
structure Base64.Lawful (b64 : Base64) : Prop where
  decode_encode : ∀ bytes, b64.decode (b64.encode bytes) = some bytes
  dash_notMem : ∀ bytes, '-' ∉ (b64.encode bytes).toList

namespace Base64

/-! ### The alphabet -/

/-- The sixty-four letters, in the order of their values. -/
def alphabet : List Char :=
  "ABCDEFGHIJKLMNOPQRSTUVWXYZabcdefghijklmnopqrstuvwxyz0123456789+/".toList

/-- The letter of a six-bit value. -/
def letter (n : ℕ) : Char := alphabet.getD n '='

/-- The six-bit value of a letter, `none` outside the alphabet. -/
def letterVal (c : Char) : Option ℕ := alphabet.idxOf? c

lemma letterVal_letter : ∀ n < 64, letterVal (letter n) = some n := by decide +kernel

lemma letter_ne_pad : ∀ n < 64, letter n ≠ '=' := by decide +kernel

lemma letter_ne_dash : ∀ n < 64, letter n ≠ '-' := by decide +kernel

/-! ### The code on lists -/

/-- The letters of a list of bytes, by groups of three. -/
def encodeBytes : List UInt8 → List Char
  | [] => []
  | [a] => [letter (a.toNat / 4), letter (a.toNat % 4 * 16), '=', '=']
  | [a, b] =>
      [letter (a.toNat / 4), letter (a.toNat % 4 * 16 + b.toNat / 16),
        letter (b.toNat % 16 * 4), '=']
  | a :: b :: c :: rest =>
      letter (a.toNat / 4) :: letter (a.toNat % 4 * 16 + b.toNat / 16)
        :: letter (b.toNat % 16 * 4 + c.toNat / 64) :: letter (c.toNat % 64)
        :: encodeBytes rest

/-- The three bytes of a full group of four letters. -/
def decodeFull (x y z w : Char) : Option (List UInt8) := do
  let x ← letterVal x
  let y ← letterVal y
  let z ← letterVal z
  let w ← letterVal w
  return [UInt8.ofNat (x * 4 + y / 16), UInt8.ofNat (y % 16 * 16 + z / 4),
    UInt8.ofNat (z % 4 * 64 + w)]

/-- The byte of two letters, whose last four bits must be zero. -/
def decodeTwo (x y : Char) : Option (List UInt8) := do
  let x ← letterVal x
  let y ← letterVal y
  if y % 16 = 0 then return [UInt8.ofNat (x * 4 + y / 16)] else none

/-- The two bytes of three letters, whose last two bits must be zero. -/
def decodeThree (x y z : Char) : Option (List UInt8) := do
  let x ← letterVal x
  let y ← letterVal y
  let z ← letterVal z
  if z % 4 = 0 then
    return [UInt8.ofNat (x * 4 + y / 16), UInt8.ofNat (y % 16 * 16 + z / 4)]
  else none

/-- The bytes of a last group that is not full, of which the third character may be padding. -/
def decodeLast (x y z : Char) : Option (List UInt8) :=
  if z = '=' then decodeTwo x y else decodeThree x y z

/-- The bytes of a list of letters, by groups of four; the padding of the last one may be left
out, in part or whole. -/
def decodeChars : List Char → Option (List UInt8)
  | [] => some []
  | [x, y] => decodeTwo x y
  | [x, y, z] => decodeLast x y z
  | [x, y, z, w] => if w = '=' then decodeLast x y z else decodeFull x y z w
  | x :: y :: z :: w :: rest => do
      let bytes ← decodeFull x y z w
      let more ← decodeChars rest
      return bytes ++ more
  | _ => none

/-- A full group of letters decodes to the three bytes it was made of. -/
lemma decodeFull_letters (a b c : UInt8) :
    decodeFull (letter (a.toNat / 4)) (letter (a.toNat % 4 * 16 + b.toNat / 16))
        (letter (b.toNat % 16 * 4 + c.toNat / 64)) (letter (c.toNat % 64))
      = some [a, b, c] := by
  have ha : a.toNat < 256 := a.toNat_lt
  have hb : b.toNat < 256 := b.toNat_lt
  have hc : c.toNat < 256 := c.toNat_lt
  have h1 : a.toNat / 4 * 4 + (a.toNat % 4 * 16 + b.toNat / 16) / 16 = a.toNat := by omega
  have h2 : (a.toNat % 4 * 16 + b.toNat / 16) % 16 * 16
      + (b.toNat % 16 * 4 + c.toNat / 64) / 4 = b.toNat := by omega
  have h3 : (b.toNat % 16 * 4 + c.toNat / 64) % 4 * 64 + c.toNat % 64 = c.toNat := by omega
  rw [decodeFull, letterVal_letter _ (by omega), letterVal_letter _ (by omega),
    letterVal_letter _ (by omega), letterVal_letter _ (by omega)]
  simp only [Option.bind_eq_bind, Option.bind_some, h1, h2, h3, UInt8.ofNat_toNat]
  rfl

/-- The last group of one byte. -/
lemma decodeTwo_letters (a : UInt8) :
    decodeTwo (letter (a.toNat / 4)) (letter (a.toNat % 4 * 16)) = some [a] := by
  have ha : a.toNat < 256 := a.toNat_lt
  have h1 : a.toNat / 4 * 4 + a.toNat % 4 * 16 / 16 = a.toNat := by omega
  have h0 : a.toNat % 4 * 16 % 16 = 0 := by omega
  rw [decodeTwo, letterVal_letter _ (by omega), letterVal_letter _ (by omega)]
  simp only [Option.bind_eq_bind, Option.bind_some, if_true, h0, h1, UInt8.ofNat_toNat]
  rfl

/-- The last group of two bytes. -/
lemma decodeThree_letters (a b : UInt8) :
    decodeThree (letter (a.toNat / 4)) (letter (a.toNat % 4 * 16 + b.toNat / 16))
        (letter (b.toNat % 16 * 4)) = some [a, b] := by
  have ha : a.toNat < 256 := a.toNat_lt
  have hb : b.toNat < 256 := b.toNat_lt
  have h1 : a.toNat / 4 * 4 + (a.toNat % 4 * 16 + b.toNat / 16) / 16 = a.toNat := by omega
  have h2 : (a.toNat % 4 * 16 + b.toNat / 16) % 16 * 16 + b.toNat % 16 * 4 / 4 = b.toNat := by
    omega
  have h0 : b.toNat % 16 * 4 % 4 = 0 := by omega
  rw [decodeThree, letterVal_letter _ (by omega), letterVal_letter _ (by omega),
    letterVal_letter _ (by omega)]
  simp only [Option.bind_eq_bind, Option.bind_some, h0, h1, h2, if_true, UInt8.ofNat_toNat]
  rfl

/-- A group of four letters with more to follow is a full one. -/
lemma decodeChars_group {x y z w : Char} {rest : List Char} (hne : rest ≠ []) :
    decodeChars (x :: y :: z :: w :: rest)
      = (decodeFull x y z w).bind fun bytes => (decodeChars rest).map (bytes ++ ·) := by
  cases rest with
  | nil => exact absurd rfl hne
  | cons r rs =>
      rw [decodeChars]
      · cases decodeFull x y z w with
        | none => rfl
        | some bytes => cases decodeChars (r :: rs) <;> rfl
      · simp

lemma encodeBytes_ne_nil : ∀ {bytes : List UInt8}, bytes ≠ [] → encodeBytes bytes ≠ []
  | [], h => absurd rfl h
  | [_], _ => by simp [encodeBytes]
  | [_, _], _ => by simp [encodeBytes]
  | _ :: _ :: _ :: _, _ => by simp [encodeBytes]

/-- **Decoding inverts encoding**, by groups of three bytes. -/
theorem decodeChars_encodeBytes (bytes : List UInt8) :
    decodeChars (encodeBytes bytes) = some bytes := by
  induction bytes using encodeBytes.induct with
  | case1 => rfl
  | case2 a =>
      rw [encodeBytes, decodeChars, if_pos rfl, decodeLast, if_pos rfl]
      exact decodeTwo_letters a
  | case3 a b =>
      have hb : b.toNat < 256 := b.toNat_lt
      have hletter : letter (b.toNat % 16 * 4) ≠ '=' := letter_ne_pad _ (by omega)
      rw [encodeBytes, decodeChars, if_pos rfl, decodeLast, if_neg hletter]
      exact decodeThree_letters a b
  | case4 a b c rest ih =>
      rw [encodeBytes]
      by_cases hrest : rest = []
      · subst hrest
        rw [encodeBytes, decodeChars, if_neg (letter_ne_pad _ (by omega))]
        exact decodeFull_letters a b c
      · rw [decodeChars_group (encodeBytes_ne_nil hrest), decodeFull_letters, ih]
        rfl

/-- Every letter of an encoded text is in the alphabet or is the padding. -/
lemma dash_notMem_encodeBytes (bytes : List UInt8) : '-' ∉ encodeBytes bytes := by
  have hletter : ∀ n < 64, '-' ≠ letter n := fun n hn => (letter_ne_dash n hn).symm
  induction bytes using encodeBytes.induct with
  | case1 => simp [encodeBytes]
  | case2 a =>
      have ha : a.toNat < 256 := a.toNat_lt
      simp [encodeBytes, hletter (a.toNat / 4) (by omega),
        hletter (a.toNat % 4 * 16) (by omega)]
  | case3 a b =>
      have ha : a.toNat < 256 := a.toNat_lt
      have hb : b.toNat < 256 := b.toNat_lt
      simp [encodeBytes, hletter (a.toNat / 4) (by omega),
        hletter (a.toNat % 4 * 16 + b.toNat / 16) (by omega),
        hletter (b.toNat % 16 * 4) (by omega)]
  | case4 a b c rest ih =>
      have ha : a.toNat < 256 := a.toNat_lt
      have hb : b.toNat < 256 := b.toNat_lt
      have hc : c.toNat < 256 := c.toNat_lt
      simp [encodeBytes, hletter (a.toNat / 4) (by omega),
        hletter (a.toNat % 4 * 16 + b.toNat / 16) (by omega),
        hletter (b.toNat % 16 * 4 + c.toNat / 64) (by omega),
        hletter (c.toNat % 64) (by omega), ih]

/-! ### The code on byte arrays and texts -/

/-- The standard code, between byte arrays and texts. -/
def standard : Base64 where
  encode bytes := String.ofList (encodeBytes bytes.data.toList)
  decode s := (decodeChars s.toList).map fun l => ⟨l.toArray⟩

example : ["ZA", "ZA=", "ZA=="].map standard.decode = List.replicate 3 (some ⟨#[100]⟩) := by
  decide +kernel

/-- **The standard code is lawful.** -/
theorem standard_lawful : standard.Lawful where
  decode_encode bytes := by
    simp only [standard, String.toList_ofList, decodeChars_encodeBytes, Option.map_some]
  dash_notMem bytes := by
    simpa only [standard, String.toList_ofList] using dash_notMem_encodeBytes bytes.data.toList

end Base64
