import Mathlib

/-!
Texts of the Rust standard library: `str::split` at a character, `[String]::join`,
`str::parse` of a signed decimal integer and the two UTF-8 conversions.

* **Split and join.** `split_join`: the pieces of a joined text are the joined
  pieces as soon as none of them holds the separator; `join_split` is the other
  composition, without a condition. `length_split` counts the pieces, and
  `head?_split` says what the first one is.
* **Decimal integers.** `parseInt lo hi` reads an optional sign and one or more
  ASCII digits and refuses what leaves `[lo, hi]`, the bounds of the integer
  type; `parseInt_toString` reads back what `to_string` prints, and
  `parseInt_eq_some` says which texts are read at all. `parseI32` and `parseI64`
  are its instances at 32 and 64 bits.
* **UTF-8.** `fromUtf8_asBytes`: the bytes of a text decode to the text.
-/

namespace RustStd

/-! ### Split and join -/

/-- `s.split(sep).collect::<Vec<&str>>()` for a one-character separator. -/
def split (sep : Char) (s : String) : List String :=
  (s.toList.splitOn sep).map String.ofList

/-- `parts.join(sep)` for a one-character separator. -/
def join (sep : Char) (parts : List String) : String :=
  String.intercalate (String.singleton sep) parts

/-- **Split after join**: pieces that do not hold the separator are recovered,
empty pieces included. -/
theorem split_join {sep : Char} {parts : List String} (hne : parts ≠ [])
    (hsep : ∀ p ∈ parts, sep ∉ p.toList) : split sep (join sep parts) = parts := by
  have hpieces : ∀ l ∈ parts.map String.toList, sep ∉ l := by
    intro l hl
    obtain ⟨p, hp, rfl⟩ := List.mem_map.mp hl
    exact hsep p hp
  rw [split, join, String.toList_intercalate, String.toList_singleton,
    List.splitOn_intercalate sep hpieces (by simpa using hne), List.map_map]
  exact List.map_id'' (fun p => String.ofList_toList) parts

/-- **Join after split**: the pieces of a text, joined again, are the text. -/
theorem join_split (sep : Char) (s : String) : join sep (split sep s) = s := by
  have hid : (s.toList.splitOn sep).map (String.toList ∘ String.ofList)
      = s.toList.splitOn sep := List.map_id'' (fun l => String.toList_ofList) _
  rw [join, split, ← String.toList_inj, String.toList_intercalate, String.toList_singleton,
    List.map_map, hid, List.intercalate_splitOn]

/-- The pieces of a text are one more than its separators. -/
theorem length_split (sep : Char) (s : String) :
    (split sep s).length = s.toList.count sep + 1 := by
  have hlen : ∀ l : List Char, (l.splitOn sep).length = l.count sep + 1 := by
    intro l
    induction l with
    | nil => rfl
    | cons c l ih =>
        rw [List.splitOn_cons_eq_if_modifyHead, List.count_cons]
        split_ifs with hc
        · rw [List.length_cons, ih]
        · rw [List.length_modifyHead, ih]
  rw [split, List.length_map, hlen]

/-- No piece of a text holds the separator. -/
theorem notMem_of_mem_split {sep : Char} {s p : String} (hp : p ∈ split sep s) :
    sep ∉ p.toList := by
  have hpieces : ∀ l : List Char, ∀ piece ∈ l.splitOn sep, sep ∉ piece := by
    intro l
    induction l with
    | nil => simp
    | cons c l ih =>
        intro piece hpiece
        rw [List.splitOn_cons_eq_if_modifyHead] at hpiece
        split_ifs at hpiece with hc
        · rcases List.mem_cons.mp hpiece with rfl | hpiece
          · exact List.not_mem_nil
          · exact ih piece hpiece
        · -- the character goes to the head piece, which is not empty-handed
          obtain ⟨first, rest, hsplit⟩ := List.exists_cons_of_ne_nil (List.splitOn_ne_nil sep l)
          rw [hsplit, List.modifyHead_cons] at hpiece
          rw [hsplit] at ih
          rcases List.mem_cons.mp hpiece with rfl | hpiece
          · have hfirst := ih first List.mem_cons_self
            have hne : c ≠ sep := by simpa using hc
            simp [hfirst, hne.symm]
          · exact ih piece (List.mem_cons_of_mem _ hpiece)
  obtain ⟨piece, hpiece, rfl⟩ := List.mem_map.mp hp
  rw [String.toList_ofList]
  exact hpieces _ piece hpiece

/-- `s.starts_with(pat)` for a one-character pattern. -/
def startsWith (pat : Char) (s : String) : Bool := s.toList.head? == some pat

/-- A text starts with a character exactly if it is this one and a rest. -/
lemma startsWith_iff {pat : Char} {s : String} :
    startsWith pat s = true ↔ ∃ t, s = String.singleton pat ++ t := by
  rw [startsWith, beq_iff_eq, List.head?_eq_some_iff]
  constructor
  · rintro ⟨cs, hcs⟩
    refine ⟨String.ofList cs, String.toList_inj.mp ?_⟩
    rw [String.toList_append, String.toList_singleton, String.toList_ofList, hcs]
    rfl
  · rintro ⟨t, rfl⟩
    exact ⟨t.toList, by rw [String.toList_append, String.toList_singleton]; rfl⟩

/-- The text before the first separator, and the whole text if there is none. -/
def before (sep : Char) (s : String) : String := String.ofList (s.toList.takeWhile (· ≠ sep))

/-- Nothing is cut off exactly if the text does not hold the separator. -/
lemma before_eq_iff {sep : Char} {s : String} : before sep s = s ↔ sep ∉ s.toList := by
  rw [before, ← String.toList_inj, String.toList_ofList, List.takeWhile_eq_self_iff]
  constructor
  · intro h hsep
    exact absurd (h sep hsep) (by simp)
  · intro hsep c hc
    exact decide_eq_true fun h => hsep (h ▸ hc)

/-- The first piece of a text is what stands before the first separator. -/
lemma head?_split (sep : Char) (s : String) : (split sep s).head? = some (before sep s) := by
  have hhead : ∀ l : List Char, (l.splitOn sep).head? = some (l.takeWhile (· ≠ sep)) := by
    intro l
    induction l with
    | nil => rfl
    | cons c l ih =>
        rw [List.splitOn_cons_eq_if_modifyHead]
        split_ifs with hc
        · rw [List.takeWhile_cons_of_neg (by simpa using hc)]
          rfl
        · rw [List.head?_modifyHead, ih, List.takeWhile_cons_of_pos (by simpa using hc)]
          rfl
  rw [split, List.head?_map, hhead]
  rfl

/-- A text that starts with the separator has an empty first piece. -/
lemma split_cons (sep : Char) (s : String) :
    split sep (String.singleton sep ++ s) = "" :: split sep s := by
  rw [split, split, String.toList_append, String.toList_singleton, List.singleton_append,
    List.splitOn_cons_eq_if_modifyHead, if_pos (beq_self_eq_true sep)]
  rfl

/-- A text that starts with the separator has a second piece. -/
lemma one_lt_length_split {sep : Char} {s : String} (h : startsWith sep s = true) :
    1 < (split sep s).length := by
  have hmem : sep ∈ s.toList := List.mem_of_mem_head? (beq_iff_eq.mp h)
  rw [length_split]
  exact Nat.succ_lt_succ (List.count_pos_iff.mpr hmem)

/-- `s.replace(pat, new)` for a one-character pattern. -/
def replace (pat : Char) (new : String) (s : String) : String :=
  String.ofList (s.toList.flatMap fun c => if c = pat then new.toList else [c])

/-- Removing the separator from a joined text whose pieces do not hold it leaves the
pieces, one after the other. -/
lemma toList_replace_join {sep : Char} {parts : List String}
    (hsep : ∀ p ∈ parts, sep ∉ p.toList) :
    (replace sep "" (join sep parts)).toList = parts.flatMap String.toList := by
  have hkeep : ∀ l : List Char, sep ∉ l →
      (l.flatMap fun c => if c = sep then "".toList else [c]) = l := by
    intro l hl
    induction l with
    | nil => rfl
    | cons c l ih =>
        have hc : c ≠ sep := fun h => hl (h ▸ List.mem_cons_self)
        rw [List.flatMap_cons, if_neg hc, ih fun h => hl (List.mem_cons_of_mem c h)]
        rfl
  rw [replace, String.toList_ofList, join, String.toList_intercalate, String.toList_singleton]
  induction parts with
  | nil => rfl
  | cons p parts ih =>
      have hp := hkeep p.toList (hsep p List.mem_cons_self)
      have hrest := ih fun q hq => hsep q (List.mem_cons_of_mem p hq)
      cases parts with
      | nil => simpa using hp
      | cons q parts =>
          rw [List.flatMap_cons, ← hrest, List.map_cons, List.map_cons,
            List.intercalate_cons_cons, List.flatMap_append, List.flatMap_append, hp]
          simp

/-! ### Decimal integers -/

/-- The value of a nonempty run of ASCII digits, `none` for any other text. -/
def digitsValue (ds : List Char) : Option ℕ :=
  if ds ≠ [] ∧ ∀ c ∈ ds, c.isDigit then some (Nat.ofDigitChars 10 ds 0) else none

/-- `z` if it lies between the bounds of the integer type, `none` on overflow. -/
def inRange (lo hi z : ℤ) : Option ℤ :=
  if lo ≤ z ∧ z ≤ hi then some z else none

/-- `str::parse` at a signed integer type with bounds `lo` and `hi`: an optional
sign, then one or more ASCII digits, with no overflow. -/
def parseInt (lo hi : ℤ) : List Char → Option ℤ
  | '-' :: ds => (digitsValue ds).bind fun n => inRange lo hi (-n)
  | '+' :: ds => (digitsValue ds).bind fun n => inRange lo hi n
  | ds => (digitsValue ds).bind fun n => inRange lo hi n

/-- The texts of decimal integers: an optional sign and one or more ASCII digits. -/
inductive IntText : List Char → ℤ → Prop
  | unsigned {ds : List Char} (ne : ds ≠ []) (digits : ∀ c ∈ ds, c.isDigit) :
      IntText ds (Nat.ofDigitChars 10 ds 0)
  | plus {ds : List Char} (ne : ds ≠ []) (digits : ∀ c ∈ ds, c.isDigit) :
      IntText ('+' :: ds) (Nat.ofDigitChars 10 ds 0)
  | minus {ds : List Char} (ne : ds ≠ []) (digits : ∀ c ∈ ds, c.isDigit) :
      IntText ('-' :: ds) (-Nat.ofDigitChars 10 ds 0)

/-- The decimal digits of a natural number are ASCII digits. -/
lemma isDigit_toDigits (n : ℕ) : ∀ c ∈ Nat.toDigits 10 n, c.isDigit := fun _ hc =>
  Nat.isDigit_of_mem_toDigits (by decide) (by decide) hc

lemma digitsValue_toDigits (n : ℕ) : digitsValue (Nat.toDigits 10 n) = some n := by
  rw [digitsValue, if_pos ⟨Nat.toDigits_ne_nil, isDigit_toDigits n⟩,
    Nat.ofDigitChars_ten_toDigits]

lemma inRange_of_le {lo hi z : ℤ} (hlo : lo ≤ z) (hhi : z ≤ hi) :
    inRange lo hi z = some z := if_pos ⟨hlo, hhi⟩

lemma digitsValue_eq_some {ds : List Char} {n : ℕ} :
    digitsValue ds = some n
      ↔ ds ≠ [] ∧ (∀ c ∈ ds, c.isDigit) ∧ n = Nat.ofDigitChars 10 ds 0 := by
  rw [digitsValue]
  split_ifs with h
  · rw [Option.some.injEq, eq_comm]
    exact ⟨fun hn => ⟨h.1, h.2, hn⟩, fun hn => hn.2.2⟩
  · constructor
    · intro hn
      exact absurd hn (by simp)
    · rintro ⟨hne, hdigits, -⟩
      exact absurd ⟨hne, hdigits⟩ h

lemma inRange_eq_some {lo hi z z' : ℤ} :
    inRange lo hi z = some z' ↔ z = z' ∧ lo ≤ z' ∧ z' ≤ hi := by
  rw [inRange]
  split_ifs with h
  · rw [Option.some.injEq]
    constructor
    · rintro rfl
      exact ⟨rfl, h⟩
    · exact fun hz => hz.1
  · constructor
    · intro hz
      exact absurd hz (by simp)
    · rintro ⟨rfl, hz⟩
      exact absurd hz h

/-- A text that starts with a digit has no sign to read. -/
lemma parseInt_unsigned {lo hi : ℤ} {ds : List Char} (hdigits : ∀ c ∈ ds, c.isDigit) :
    parseInt lo hi ds = (digitsValue ds).bind fun n => inRange lo hi n := by
  unfold parseInt
  split
  · exact absurd (hdigits '-' List.mem_cons_self) (by decide)
  · exact absurd (hdigits '+' List.mem_cons_self) (by decide)
  · rfl

/-- **What is parsed**: exactly the texts of the integers between the bounds. -/
theorem parseInt_eq_some {lo hi z : ℤ} {cs : List Char} :
    parseInt lo hi cs = some z ↔ IntText cs z ∧ lo ≤ z ∧ z ≤ hi := by
  constructor
  · intro h
    unfold parseInt at h
    split at h
    · obtain ⟨n, hn, hz⟩ := Option.bind_eq_some_iff.mp h
      obtain ⟨hne, hdigits, rfl⟩ := digitsValue_eq_some.mp hn
      obtain ⟨rfl, hrange⟩ := inRange_eq_some.mp hz
      exact ⟨.minus hne hdigits, hrange⟩
    · obtain ⟨n, hn, hz⟩ := Option.bind_eq_some_iff.mp h
      obtain ⟨hne, hdigits, rfl⟩ := digitsValue_eq_some.mp hn
      obtain ⟨rfl, hrange⟩ := inRange_eq_some.mp hz
      exact ⟨.plus hne hdigits, hrange⟩
    · obtain ⟨n, hn, hz⟩ := Option.bind_eq_some_iff.mp h
      obtain ⟨hne, hdigits, rfl⟩ := digitsValue_eq_some.mp hn
      obtain ⟨rfl, hrange⟩ := inRange_eq_some.mp hz
      exact ⟨.unsigned hne hdigits, hrange⟩
  · rintro ⟨htext, hrange⟩
    cases htext with
    | unsigned ne digits =>
        rw [parseInt_unsigned digits, digitsValue_eq_some.mpr ⟨ne, digits, rfl⟩]
        exact inRange_eq_some.mpr ⟨rfl, hrange⟩
    | plus ne digits =>
        rw [parseInt, digitsValue_eq_some.mpr ⟨ne, digits, rfl⟩]
        exact inRange_eq_some.mpr ⟨rfl, hrange⟩
    | minus ne digits =>
        rw [parseInt, digitsValue_eq_some.mpr ⟨ne, digits, rfl⟩]
        exact inRange_eq_some.mpr ⟨rfl, hrange⟩

lemma parseInt_toDigits (lo hi : ℤ) (n : ℕ) :
    parseInt lo hi (Nat.toDigits 10 n) = inRange lo hi n := by
  rw [parseInt_unsigned (isDigit_toDigits n), digitsValue_toDigits]
  rfl

/-- The text of a negative integer is `-` and the digits of its absolute value. -/
lemma toList_toString_negSucc (n : ℕ) :
    (toString (Int.negSucc n)).toList = '-' :: Nat.toDigits 10 (n + 1) := by
  rw [Int.toString_eq_repr]
  simp [Int.repr]

lemma toList_toString_ofNat (n : ℕ) :
    (toString (Int.ofNat n)).toList = Nat.toDigits 10 n := by
  rw [Int.toString_eq_repr]
  simp [Int.repr]

/-- **Parsing a printed integer** gives the integer back, the asymmetric minimum
of a signed type included. -/
theorem parseInt_toString {lo hi z : ℤ} (hlo : lo ≤ z) (hhi : z ≤ hi) :
    parseInt lo hi (toString z).toList = some z := by
  cases z with
  | ofNat n =>
      rw [toList_toString_ofNat, parseInt_toDigits]
      exact inRange_of_le hlo hhi
  | negSucc n =>
      rw [toList_toString_negSucc, parseInt, digitsValue_toDigits]
      exact inRange_of_le hlo hhi

/-- A printed nonnegative integer holds digits only. -/
lemma isDigit_of_mem_toString {z : ℤ} (hz : 0 ≤ z) {c : Char} (hc : c ∈ (toString z).toList) :
    c.isDigit := by
  obtain ⟨n, rfl⟩ := Int.eq_ofNat_of_zero_le hz
  rw [show (n : ℤ) = Int.ofNat n from rfl, toList_toString_ofNat] at hc
  exact isDigit_toDigits n c hc

/-- `str::parse::<i32>().ok()`. -/
def parseI32 (s : String) : Option Int32 :=
  (parseInt (-2 ^ 31) (2 ^ 31 - 1) s.toList).map Int32.ofInt

/-- `i32` prints and parses as the identity. -/
theorem parseI32_toString (n : Int32) : parseI32 (toString n) = some n := by
  have hlo : -2 ^ 31 ≤ n.toInt := n.le_toInt
  have hhi : n.toInt ≤ 2 ^ 31 - 1 := Int.le_sub_one_of_lt n.toInt_lt
  rw [parseI32, show toString n = toString n.toInt from rfl, parseInt_toString hlo hhi]
  simp

/-- `str::parse::<i64>().ok()`. -/
def parseI64 (s : String) : Option Int64 :=
  (parseInt (-2 ^ 63) (2 ^ 63 - 1) s.toList).map Int64.ofInt

/-- `i64` prints and parses as the identity. -/
theorem parseI64_toString (n : Int64) : parseI64 (toString n) = some n := by
  have hlo : -2 ^ 63 ≤ n.toInt := n.le_toInt
  have hhi : n.toInt ≤ 2 ^ 63 - 1 := Int.le_sub_one_of_lt n.toInt_lt
  rw [parseI64, show toString n = toString n.toInt from rfl, parseInt_toString hlo hhi]
  simp

/-- The texts read as an `i32` are those of the integers between its bounds. -/
theorem parseI32_eq_some {s : String} {n : Int32} :
    parseI32 s = some n ↔ IntText s.toList n.toInt := by
  rw [parseI32, Option.map_eq_some_iff]
  constructor
  · rintro ⟨z, hz, rfl⟩
    obtain ⟨htext, hlo, hhi⟩ := parseInt_eq_some.mp hz
    rwa [Int32.toInt_ofInt_of_le hlo (by omega)]
  · intro h
    refine ⟨n.toInt, parseInt_eq_some.mpr ⟨h, n.le_toInt, ?_⟩, Int32.ofInt_toInt n⟩
    exact Int.le_sub_one_of_lt n.toInt_lt

/-- The texts read as an `i64` are those of the integers between its bounds. -/
theorem parseI64_eq_some {s : String} {n : Int64} :
    parseI64 s = some n ↔ IntText s.toList n.toInt := by
  rw [parseI64, Option.map_eq_some_iff]
  constructor
  · rintro ⟨z, hz, rfl⟩
    obtain ⟨htext, hlo, hhi⟩ := parseInt_eq_some.mp hz
    rwa [Int64.toInt_ofInt_of_le hlo (by omega)]
  · intro h
    refine ⟨n.toInt, parseInt_eq_some.mpr ⟨h, n.le_toInt, ?_⟩, Int64.ofInt_toInt n⟩
    exact Int.le_sub_one_of_lt n.toInt_lt

/-- The text of an integer holds digits and signs only. -/
lemma IntText.mem {cs : List Char} {z : ℤ} (h : IntText cs z) {c : Char} (hc : c ∈ cs) :
    c.isDigit ∨ c = '+' ∨ c = '-' := by
  cases h with
  | unsigned ne digits => exact Or.inl (digits c hc)
  | plus ne digits =>
      rcases List.mem_cons.mp hc with rfl | hc
      · exact Or.inr (Or.inl rfl)
      · exact Or.inl (digits c hc)
  | minus ne digits =>
      rcases List.mem_cons.mp hc with rfl | hc
      · exact Or.inr (Or.inr rfl)
      · exact Or.inl (digits c hc)

/-- A character that is neither a digit nor a sign is in no text of an integer. -/
lemma IntText.notMem {cs : List Char} {z : ℤ} (h : IntText cs z) {c : Char}
    (hdigit : ¬ c.isDigit) (hplus : c ≠ '+') (hminus : c ≠ '-') : c ∉ cs := by
  intro hc
  rcases h.mem hc with hc | hc | hc
  · exact hdigit hc
  · exact hplus hc
  · exact hminus hc

/-! ### UTF-8 -/

/-- `str::as_bytes`. -/
def asBytes (s : String) : ByteArray := s.toUTF8

/-- `String::from_utf8(bytes).ok()`. -/
def fromUtf8 (bytes : ByteArray) : Option String := String.fromUTF8? bytes

/-- The bytes of a text decode to the text. -/
@[simp] theorem fromUtf8_asBytes (s : String) : fromUtf8 (asBytes s) = some s := by
  rw [fromUtf8, asBytes, String.toUTF8_eq_toByteArray, String.fromUTF8?,
    dif_pos s.isValidUTF8]
  rfl

end RustStd
