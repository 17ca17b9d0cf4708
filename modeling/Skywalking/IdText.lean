import Skywalking.Core.Id

/-!
The text of an identifier between its writer, `ID::to_string`, and its reader, `ID::from`.

* `fromString_eq_ok`: what `from` accepts, and what it makes of it.
* `id_text_codec`: **the codec of identifiers**. Three numbers are read back as they were
  printed, and a text is accepted exactly if it consists of the texts of three numbers.
-/

namespace Skywalking

open RustStd

/-- The texts of the `i64` values: an optional sign and one or more ASCII digits, of a
value between the bounds. -/
def I64Text (s : String) : Prop := ∃ z, IntText s.toList z ∧ -2 ^ 63 ≤ z ∧ z ≤ 2 ^ 63 - 1

lemma exists_parseI64_iff {s : String} : (∃ n, parseI64 s = some n) ↔ I64Text s := by
  constructor
  · rintro ⟨n, hn⟩
    exact ⟨n.toInt, parseI64_eq_some.mp hn, n.le_toInt, Int.le_sub_one_of_lt n.toInt_lt⟩
  · rintro ⟨z, htext, hlo, hhi⟩
    refine ⟨Int64.ofInt z, parseI64_eq_some.mpr ?_⟩
    rwa [Int64.toInt_ofInt_of_le hlo (by omega)]

/-- The text of a number holds no dot. -/
lemma I64Text.dot_notMem {s : String} (h : I64Text s) : '.' ∉ s.toList := by
  obtain ⟨z, htext, -⟩ := h
  exact htext.notMem (by decide) (by decide) (by decide)

/-- A text of three pieces is read piece by piece. -/
lemma fromString_of_split {s s₁ s₂ s₃ : String} (hs : split '.' s = [s₁, s₂, s₃]) {id : ID} :
    ID.fromString s = .ok id ↔ ∃ a b c, parseI64 s₁ = some a ∧ parseI64 s₂ = some b
      ∧ parseI64 s₃ = some c ∧ id = ID.new a b c := by
  rw [ID.fromString, hs]
  cases h₁ : parseI64 s₁ with
  | none => simp [h₁]
  | some a =>
      cases h₂ : parseI64 s₂ with
      | none => simp [h₁, h₂]
      | some b =>
          cases h₃ : parseI64 s₃ with
          | none => simp [h₁, h₂, h₃]
          | some c => simp [h₁, h₂, h₃, eq_comm]

/-- **What `from` accepts**: exactly three texts of numbers with dots between them. -/
theorem fromString_eq_ok {s : String} {id : ID} :
    ID.fromString s = .ok id ↔ ∃ s₁ s₂ s₃ a b c, s = join '.' [s₁, s₂, s₃]
      ∧ parseI64 s₁ = some a ∧ parseI64 s₂ = some b ∧ parseI64 s₃ = some c
      ∧ id = ID.new a b c := by
  constructor
  · intro h
    have hok := h
    rw [ID.fromString] at h
    split at h
    · next s₁ s₂ s₃ hs =>
        obtain ⟨a, b, c, h₁, h₂, h₃, hid⟩ := (fromString_of_split hs).mp hok
        refine ⟨s₁, s₂, s₃, a, b, c, ?_, h₁, h₂, h₃, hid⟩
        rw [← hs, join_split]
    · exact absurd h (by simp)
  · rintro ⟨s₁, s₂, s₃, a, b, c, rfl, h₁, h₂, h₃, rfl⟩
    have hdots : ∀ p ∈ [s₁, s₂, s₃], '.' ∉ p.toList := by
      intro p hp
      simp only [List.mem_cons, List.not_mem_nil, or_false] at hp
      rcases hp with rfl | rfl | rfl
      · exact (exists_parseI64_iff.mp ⟨a, h₁⟩).dot_notMem
      · exact (exists_parseI64_iff.mp ⟨b, h₂⟩).dot_notMem
      · exact (exists_parseI64_iff.mp ⟨c, h₃⟩).dot_notMem
    have hsplit := split_join (List.cons_ne_nil s₁ [s₂, s₃]) hdots
    exact (fromString_of_split hsplit).mpr ⟨a, b, c, h₁, h₂, h₃, rfl⟩

/-- A printed identifier is read back. -/
lemma fromString_toString (a b c : Int64) :
    ID.fromString (ID.new a b c).toString = .ok (ID.new a b c) :=
  fromString_eq_ok.mpr ⟨toString a, toString b, toString c, a, b, c, rfl, parseI64_toString a,
    parseI64_toString b, parseI64_toString c, rfl⟩

/-- **The codec of identifiers**: an identifier made of three numbers is read back from its
text, so two of them with one text are the same. A text is accepted exactly if it consists of
three texts of numbers with dots between them, and the identifier read from it is again
read back from its own text. -/
theorem id_text_codec :
    (∀ a b c : Int64, ID.fromString (ID.new a b c).toString = .ok (ID.new a b c))
      ∧ (∀ a b c a' b' c' : Int64, (ID.new a b c).toString = (ID.new a' b' c').toString →
        a = a' ∧ b = b' ∧ c = c')
      ∧ (∀ s, (∃ id, ID.fromString s = .ok id) ↔ ∃ s₁ s₂ s₃, s = join '.' [s₁, s₂, s₃]
        ∧ I64Text s₁ ∧ I64Text s₂ ∧ I64Text s₃)
      ∧ ∀ s id, ID.fromString s = .ok id → ID.fromString id.toString = .ok id := by
  refine ⟨fromString_toString, ?_, ?_, ?_⟩
  · intro a b c a' b' c' h
    have heq : (Except.ok (ID.new a b c) : Except String ID) = .ok (ID.new a' b' c') := by
      calc .ok (ID.new a b c)
          = ID.fromString (ID.new a b c).toString := (fromString_toString a b c).symm
        _ = ID.fromString (ID.new a' b' c').toString := by rw [h]
        _ = .ok (ID.new a' b' c') := fromString_toString a' b' c'
    simpa [ID.new] using heq
  · intro s
    constructor
    · rintro ⟨id, h⟩
      obtain ⟨s₁, s₂, s₃, a, b, c, hs, h₁, h₂, h₃, -⟩ := fromString_eq_ok.mp h
      exact ⟨s₁, s₂, s₃, hs, exists_parseI64_iff.mp ⟨a, h₁⟩, exists_parseI64_iff.mp ⟨b, h₂⟩,
        exists_parseI64_iff.mp ⟨c, h₃⟩⟩
    · rintro ⟨s₁, s₂, s₃, hs, h₁, h₂, h₃⟩
      obtain ⟨a, ha⟩ := exists_parseI64_iff.mpr h₁
      obtain ⟨b, hb⟩ := exists_parseI64_iff.mpr h₂
      obtain ⟨c, hc⟩ := exists_parseI64_iff.mpr h₃
      exact ⟨ID.new a b c, fromString_eq_ok.mpr ⟨s₁, s₂, s₃, a, b, c, hs, ha, hb, hc, rfl⟩⟩
  · intro s id h
    obtain ⟨s₁, s₂, s₃, a, b, c, -, -, -, -, rfl⟩ := fromString_eq_ok.mp h
    exact fromString_toString a b c

end Skywalking
