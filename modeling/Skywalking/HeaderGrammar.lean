import Skywalking.Remote

/-!
Which texts `SegmentReference::from_text` accepts, and what it reads from them.

* `SpanIdText`: the texts of the span id. The sign of a negative one would be a dash, and
  dashes separate the pieces.
* `SegmentReference.ReadFrom`: what the pieces of a header hold, one by one.
* `fromText_eq_some`: a text is read as a reference exactly if it has eight pieces that
  hold the reference.
* `header_grammar`: **the grammar of the header**.
-/

namespace Skywalking

open RustStd

/-- The texts of the span id: an optional `+` and one or more ASCII digits, of a value
that an `i32` can hold. -/
def SpanIdText (s : String) (n : ℕ) : Prop :=
  ∃ ds, (s.toList = ds ∨ s.toList = '+' :: ds) ∧ ds ≠ [] ∧ (∀ c ∈ ds, c.isDigit)
    ∧ n = Nat.ofDigitChars 10 ds 0 ∧ n ≤ 2147483647

namespace SegmentReference

variable (b64 : Base64)

/-- A piece is the base64 text of the UTF-8 bytes of `t`. -/
def Decodes (s t : String) : Prop := ∃ bytes, b64.decode s = some bytes ∧ fromUtf8 bytes = some t

/-- What the pieces of a header hold; the first one is not looked at. -/
structure ReadFrom (pieces : List String) (r : SegmentReference) : Prop where
  refType : r.refType = 1
  traceId : ∃ s, pieces[1]? = some s ∧ Decodes b64 s r.traceId
  parentTraceSegmentId : ∃ s, pieces[2]? = some s ∧ Decodes b64 s r.parentTraceSegmentId
  parentSpanId : ∃ (s : String) (n : ℕ), pieces[3]? = some s ∧ SpanIdText s n
    ∧ r.parentSpanId.toInt = n
  parentService : ∃ s, pieces[4]? = some s ∧ Decodes b64 s r.parentService
  parentServiceInstance : ∃ s, pieces[5]? = some s ∧ Decodes b64 s r.parentServiceInstance
  parentEndpoint : ∃ s, pieces[6]? = some s ∧ Decodes b64 s r.parentEndpoint
  networkAddressUsedAtPeer : ∃ s, pieces[7]? = some s
    ∧ Decodes b64 s r.networkAddressUsedAtPeer

variable {b64}

lemma stringToId_eq_some {s t : String} : stringToId b64 s = some t ↔ Decodes b64 s t := by
  rw [stringToId, Option.bind_eq_some_iff, Decodes]

lemma decodeBase64ToString_eq_some {s t : String} :
    decodeBase64ToString b64 s = some t ↔ Decodes b64 s t := by
  rw [decodeBase64ToString, Option.bind_eq_some_iff, Decodes]

/-- A piece is read as a span id exactly if it is the text of one. -/
lemma parseI32_piece {s : String} (hdash : '-' ∉ s.toList) {n : Int32} :
    parseI32 s = some n ↔ ∃ k : ℕ, SpanIdText s k ∧ n.toInt = k := by
  rw [parseI32_eq_some]
  constructor
  · intro h
    have hmax := Int.le_sub_one_of_lt n.toInt_lt
    generalize hcs : s.toList = cs at h hdash
    generalize n.toInt = z at h hmax
    cases h with
    | unsigned ne digits => exact ⟨_, ⟨cs, Or.inl hcs, ne, digits, rfl, by omega⟩, rfl⟩
    | @plus ds ne digits => exact ⟨_, ⟨ds, Or.inr hcs, ne, digits, rfl, by omega⟩, rfl⟩
    | minus ne digits => exact absurd List.mem_cons_self hdash
  · rintro ⟨k, ⟨ds, hcs, ne, digits, rfl, -⟩, hn⟩
    rw [hn]
    rcases hcs with hcs | hcs
    · rw [hcs]
      exact .unsigned ne digits
    · rw [hcs]
      exact .plus ne digits

/-- A text with eight pieces is read piece by piece. -/
lemma fromText_of_split {v s₀ s₁ s₂ s₃ s₄ s₅ s₆ s₇ : String}
    (hv : split '-' v = [s₀, s₁, s₂, s₃, s₄, s₅, s₆, s₇]) {r : SegmentReference} :
    fromText b64 v = some r ↔ ReadFrom b64 (split '-' v) r := by
  have hmem : s₃ ∈ split '-' v := by simp [hv]
  have hdash : '-' ∉ s₃.toList := notMem_of_mem_split hmem
  rw [fromText, hv]
  constructor
  · intro h
    simp only [Option.bind_eq_bind, Option.bind_eq_some_iff, stringToId_eq_some,
      decodeBase64ToString_eq_some, parseI32_piece hdash] at h
    obtain ⟨t₁, h₁, t₂, h₂, n, ⟨k, hk, hn⟩, t₄, h₄, t₅, h₅, t₆, h₆, t₇, h₇, hr⟩ := h
    obtain rfl := Option.some.inj hr
    exact ⟨rfl, ⟨s₁, rfl, h₁⟩, ⟨s₂, rfl, h₂⟩, ⟨s₃, k, rfl, hk, hn⟩, ⟨s₄, rfl, h₄⟩,
      ⟨s₅, rfl, h₅⟩, ⟨s₆, rfl, h₆⟩, ⟨s₇, rfl, h₇⟩⟩
  · intro h
    obtain ⟨_, hs₁, h₁⟩ := h.traceId
    obtain ⟨_, hs₂, h₂⟩ := h.parentTraceSegmentId
    obtain ⟨_, k, hs₃, hk, hn⟩ := h.parentSpanId
    obtain ⟨_, hs₄, h₄⟩ := h.parentService
    obtain ⟨_, hs₅, h₅⟩ := h.parentServiceInstance
    obtain ⟨_, hs₆, h₆⟩ := h.parentEndpoint
    obtain ⟨_, hs₇, h₇⟩ := h.networkAddressUsedAtPeer
    obtain rfl := Option.some.inj hs₁
    obtain rfl := Option.some.inj hs₂
    obtain rfl := Option.some.inj hs₃
    obtain rfl := Option.some.inj hs₄
    obtain rfl := Option.some.inj hs₅
    obtain rfl := Option.some.inj hs₆
    obtain rfl := Option.some.inj hs₇
    simp only [stringToId_eq_some.mpr h₁, stringToId_eq_some.mpr h₂,
      (parseI32_piece hdash).mpr ⟨k, hk, hn⟩, decodeBase64ToString_eq_some.mpr h₄,
      decodeBase64ToString_eq_some.mpr h₅, decodeBase64ToString_eq_some.mpr h₆,
      decodeBase64ToString_eq_some.mpr h₇, Option.bind_eq_bind, Option.bind_some]
    rw [← h.refType]
    rfl

lemma exists_pieces {pieces : List String} (hlen : pieces.length = 8) :
    ∃ s₀ s₁ s₂ s₃ s₄ s₅ s₆ s₇, pieces = [s₀, s₁, s₂, s₃, s₄, s₅, s₆, s₇] := by
  match pieces, hlen with
  | [s₀, s₁, s₂, s₃, s₄, s₅, s₆, s₇], _ => exact ⟨s₀, s₁, s₂, s₃, s₄, s₅, s₆, s₇, rfl⟩

/-- **What `from_text` reads**: a text is read as a reference exactly if it has eight
pieces that hold the reference. -/
theorem fromText_eq_some {v : String} {r : SegmentReference} :
    fromText b64 v = some r ↔ (split '-' v).length = 8 ∧ ReadFrom b64 (split '-' v) r := by
  constructor
  · intro h
    have hread := h
    rw [fromText] at h
    split at h
    · next s₀ s₁ s₂ s₃ s₄ s₅ s₆ s₇ hv =>
        exact ⟨by rw [hv]; rfl, (fromText_of_split hv).mp hread⟩
    · exact absurd h (by simp)
  · rintro ⟨hlen, hread⟩
    obtain ⟨s₀, s₁, s₂, s₃, s₄, s₅, s₆, s₇, hv⟩ := exists_pieces hlen
    exact (fromText_of_split hv).mpr hread

/-- A text of eight pieces is accepted exactly if every piece that is looked at is. -/
lemma isSome_fromText_iff {v : String} :
    (fromText b64 v).isSome ↔ (split '-' v).length = 8
      ∧ (∀ i ∈ [1, 2, 4, 5, 6, 7], ∃ s t, (split '-' v)[i]? = some s ∧ Decodes b64 s t)
      ∧ ∃ s n, (split '-' v)[3]? = some s ∧ SpanIdText s n := by
  rw [Option.isSome_iff_exists]
  constructor
  · rintro ⟨r, hr⟩
    obtain ⟨hlen, hread⟩ := fromText_eq_some.mp hr
    refine ⟨hlen, ?_, ?_⟩
    · intro i hi
      simp only [List.mem_cons, List.not_mem_nil, or_false] at hi
      rcases hi with rfl | rfl | rfl | rfl | rfl | rfl
      · exact hread.traceId.imp fun s h => ⟨_, h⟩
      · exact hread.parentTraceSegmentId.imp fun s h => ⟨_, h⟩
      · exact hread.parentService.imp fun s h => ⟨_, h⟩
      · exact hread.parentServiceInstance.imp fun s h => ⟨_, h⟩
      · exact hread.parentEndpoint.imp fun s h => ⟨_, h⟩
      · exact hread.networkAddressUsedAtPeer.imp fun s h => ⟨_, h⟩
    · obtain ⟨s, n, hs, hn, -⟩ := hread.parentSpanId
      exact ⟨s, n, hs, hn⟩
  · rintro ⟨hlen, htexts, s₃, n, hs₃, hn⟩
    obtain ⟨s₁, t₁, h₁⟩ := htexts 1 (by simp)
    obtain ⟨s₂, t₂, h₂⟩ := htexts 2 (by simp)
    obtain ⟨s₄, t₄, h₄⟩ := htexts 4 (by simp)
    obtain ⟨s₅, t₅, h₅⟩ := htexts 5 (by simp)
    obtain ⟨s₆, t₆, h₆⟩ := htexts 6 (by simp)
    obtain ⟨s₇, t₇, h₇⟩ := htexts 7 (by simp)
    have hmax : (n : ℤ) ≤ 2147483647 := by
      obtain ⟨ds, -, -, -, -, hle⟩ := hn
      exact_mod_cast hle
    have hid : (Int32.ofInt n).toInt = n :=
      Int32.toInt_ofInt_of_le (by omega) (by omega)
    exact ⟨⟨1, t₁, t₂, Int32.ofInt n, t₄, t₅, t₆, t₇⟩, fromText_eq_some.mpr
      ⟨hlen, rfl, ⟨s₁, h₁⟩, ⟨s₂, h₂⟩, ⟨s₃, n, hs₃, hn, hid⟩, ⟨s₄, h₄⟩, ⟨s₅, h₅⟩, ⟨s₆, h₆⟩,
        ⟨s₇, h₇⟩⟩⟩

/-- The pieces after the first one determine what is read. -/
lemma fromText_eq_of_tail {v v' : String} (hlen : (split '-' v).length = 8)
    (hlen' : (split '-' v').length = 8) (htail : (split '-' v).tail = (split '-' v').tail) :
    fromText b64 v = fromText b64 v' := by
  obtain ⟨s₀, s₁, s₂, s₃, s₄, s₅, s₆, s₇, hv⟩ := exists_pieces hlen
  obtain ⟨s₀', s₁', s₂', s₃', s₄', s₅', s₆', s₇', hv'⟩ := exists_pieces hlen'
  rw [hv, hv', List.tail_cons, List.tail_cons] at htail
  simp only [List.cons.injEq, and_true] at htail
  obtain ⟨rfl, rfl, rfl, rfl, rfl, rfl, rfl⟩ := htail
  rw [fromText, fromText, hv, hv']

end SegmentReference

/-- **The grammar of the header**: a text is accepted exactly if it holds seven dashes,
the pieces 1, 2, 4, 5, 6 and 7 between them are base64 of UTF-8 texts, and the piece 3 is
the text of a span id. The reference read from it holds these texts in order, its span id
is not negative, and the piece 0 has no say in it. -/
theorem header_grammar (b64 : Base64) (v : String) :
    ((SegmentReference.fromText b64 v).isSome ↔ v.toList.count '-' = 7
        ∧ (∀ i ∈ [1, 2, 4, 5, 6, 7], ∃ s t, (split '-' v)[i]? = some s
          ∧ SegmentReference.Decodes b64 s t)
        ∧ ∃ s n, (split '-' v)[3]? = some s ∧ SpanIdText s n)
      ∧ (∀ r, SegmentReference.fromText b64 v = some r →
        SegmentReference.ReadFrom b64 (split '-' v) r ∧ 0 ≤ r.parentSpanId.toInt)
      ∧ ∀ v' r r', SegmentReference.fromText b64 v = some r →
        SegmentReference.fromText b64 v' = some r' →
        (split '-' v).tail = (split '-' v').tail → r = r' := by
  have hcount : (split '-' v).length = 8 ↔ v.toList.count '-' = 7 := by
    rw [length_split]
    omega
  refine ⟨?_, ?_, ?_⟩
  · rw [SegmentReference.isSome_fromText_iff, hcount]
  · intro r hr
    have hread := (SegmentReference.fromText_eq_some.mp hr).2
    obtain ⟨s, n, -, -, hn⟩ := hread.parentSpanId
    refine ⟨hread, ?_⟩
    rw [hn]
    exact Int.natCast_nonneg n
  · intro v' r r' hr hr' htail
    have hlen := (SegmentReference.fromText_eq_some.mp hr).1
    have hlen' := (SegmentReference.fromText_eq_some.mp hr').1
    rw [SegmentReference.fromText_eq_of_tail hlen hlen' htail, hr'] at hr
    exact (Option.some.inj hr).symm

end Skywalking
