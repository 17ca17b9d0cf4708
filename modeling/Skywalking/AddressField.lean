import Skywalking.Core.SegmentRef

/-!
The field of a reference that holds an address or an endpoint by its text or by its id,
between its writer, `SegmentRef::string_or_id_to_encode_base64`, and its reader,
`SegmentRef::decode_base64_to_string_or_id`.

A text is marked by a `#` before it. The reader takes the piece between this sign and the
next one, so what stands behind a `#` of the text itself is lost.

* `decode_encode`: what is read from a field that was written.
* `address_or_id_codec_iff`: **when the field is read back**.
-/

namespace Skywalking

open RustStd

namespace SegmentRef

/-- What a field stands for: a text, with the id 0, or an id. -/
def fieldValue (text : Option String) (id : Int32) : Option String × Int32 :=
  match text with
  | none => (none, id)
  | some t => (some t, 0)

/-! ### What is read -/

/-- A text behind a `#` is read up to its own first `#`. -/
lemma decode_text {b64 : Base64} {field t : String}
    (hfield : (b64.decode field).bind fromUtf8 = some ("#" ++ t)) :
    decodeBase64ToStringOrId b64 field = some (some (before '#' t), 0) := by
  obtain ⟨value, hvalue, hstr⟩ := Option.bind_eq_some_iff.mp hfield
  have hsplit : split '#' ("#" ++ t) = "" :: split '#' t := split_cons '#' t
  have hsecond : (split '#' ("#" ++ t))[1]? = some (before '#' t) := by
    rw [hsplit, List.getElem?_cons_succ, ← List.head?_eq_getElem?, head?_split]
  have hmarked : startsWith '#' ("#" ++ t) = true := startsWith_iff.mpr ⟨t, rfl⟩
  obtain ⟨hlen, hget⟩ := List.getElem?_eq_some_iff.mp hsecond
  rw [decodeBase64ToStringOrId, hvalue, Option.bind_eq_bind, Option.bind_some, hstr,
    Option.bind_eq_bind, Option.bind_some, dif_pos hmarked]
  exact congrArg (fun text => some (some text, 0)) hget

/-- A text that is not marked is read as a number. -/
lemma decode_id {b64 : Base64} {field str : String}
    (hfield : (b64.decode field).bind fromUtf8 = some str) (hmark : startsWith '#' str = false) :
    decodeBase64ToStringOrId b64 field = (parseI32 str).map fun id => (none, id) := by
  obtain ⟨value, hvalue, hstr⟩ := Option.bind_eq_some_iff.mp hfield
  rw [decodeBase64ToStringOrId, hvalue, Option.bind_eq_bind, Option.bind_some, hstr,
    Option.bind_eq_bind, Option.bind_some, dif_neg (by simp [hmark])]
  cases parseI32 str <;> rfl

/-- The text of a number is not marked. -/
lemma startsWith_of_parseI32 {str : String} {id : Int32} (h : parseI32 str = some id) :
    startsWith '#' str = false := by
  by_contra hmark
  obtain ⟨t, rfl⟩ := startsWith_iff.mp (Bool.not_eq_false _ ▸ hmark)
  have hmem : '#' ∈ (String.singleton '#' ++ t).toList := by simp
  exact (parseI32_eq_some.mp h).notMem (by decide) (by decide) (by decide) hmem

/-- **What the reader accepts**: base64 of a UTF-8 text that is marked, of which it takes
what stands between the mark and the next `#`, or that is the text of a number. -/
theorem decodeBase64ToStringOrId_eq_some {b64 : Base64} {field : String} {text : Option String}
    {id : Int32} :
    decodeBase64ToStringOrId b64 field = some (text, id)
      ↔ ∃ str, (b64.decode field).bind fromUtf8 = some str
        ∧ ((∃ t, str = "#" ++ t ∧ text = some (before '#' t) ∧ id = 0)
          ∨ (text = none ∧ parseI32 str = some id)) := by
  constructor
  · intro h
    have hread := h
    rw [decodeBase64ToStringOrId] at h
    obtain ⟨value, hvalue, hrest⟩ := Option.bind_eq_some_iff.mp h
    obtain ⟨str, hstr, -⟩ := Option.bind_eq_some_iff.mp hrest
    have hfield := Option.bind_eq_some_iff.mpr ⟨value, hvalue, hstr⟩
    refine ⟨str, hfield, ?_⟩
    cases hmark : startsWith '#' str with
    | true =>
        obtain ⟨t, rfl⟩ := startsWith_iff.mp hmark
        rw [decode_text hfield] at hread
        obtain ⟨rfl, rfl⟩ := Prod.mk.inj (Option.some.inj hread)
        exact Or.inl ⟨t, rfl, rfl, rfl⟩
    | false =>
        rw [decode_id hfield hmark] at hread
        obtain ⟨n, hn, heq⟩ := Option.map_eq_some_iff.mp hread
        obtain ⟨rfl, rfl⟩ := Prod.mk.inj heq
        exact Or.inr ⟨rfl, hn⟩
  · rintro ⟨str, hfield, ⟨t, rfl, rfl, rfl⟩ | ⟨rfl, hn⟩⟩
    · exact decode_text hfield
    · rw [decode_id hfield (startsWith_of_parseI32 hn), hn]
      rfl

/-! ### What was written -/

section Codec

variable {b64 : Base64} (hdecode : ∀ bytes, b64.decode (b64.encode bytes) = some bytes)

include hdecode

/-- **What is read from a field that was written**: an id, or the text up to its first `#`. -/
theorem decode_encode (text : Option String) (id : Int32) :
    decodeBase64ToStringOrId b64 (stringOrIdToEncodeBase64 b64 text id)
      = some (fieldValue (text.map (before '#')) id) := by
  cases text with
  | none =>
      exact decodeBase64ToStringOrId_eq_some.mpr
        ⟨toString id, decode_encode_asBytes hdecode _, Or.inr ⟨rfl, parseI32_toString id⟩⟩
  | some t =>
      exact decodeBase64ToStringOrId_eq_some.mpr
        ⟨"#" ++ t, decode_encode_asBytes hdecode _, Or.inl ⟨t, rfl, rfl, rfl⟩⟩

/-- **When a field is read back**: an id always is, and a text exactly if it holds no `#`. -/
theorem address_or_id_codec_iff (text : Option String) (id : Int32) :
    decodeBase64ToStringOrId b64 (stringOrIdToEncodeBase64 b64 text id)
        = some (fieldValue text id)
      ↔ ∀ t, text = some t → '#' ∉ t.toList := by
  rw [decode_encode hdecode, Option.some.injEq]
  cases text with
  | none => exact iff_of_true rfl fun t ht => (by cases ht)
  | some t =>
      calc fieldValue (some (before '#' t)) id = fieldValue (some t) id
          ↔ before '#' t = t := by simp [fieldValue]
        _ ↔ '#' ∉ t.toList := before_eq_iff
        _ ↔ ∀ t', some t = some t' → '#' ∉ t'.toList := by simp

end Codec

/-- An address and an id are read back. -/
theorem address_or_id_codec_demo :
    decodeBase64ToStringOrId .standard
        (stringOrIdToEncodeBase64 .standard (some "127.0.0.1:8080") 7)
      = some (some "127.0.0.1:8080", 0)
    ∧ decodeBase64ToStringOrId .standard (stringOrIdToEncodeBase64 .standard none (-2147483648))
      = some (none, -2147483648) := by
  constructor
  · refine (address_or_id_codec_iff Base64.standard_lawful.decode_encode _ 7).mpr fun t ht => ?_
    obtain rfl := Option.some.inj ht
    decide
  · refine (address_or_id_codec_iff Base64.standard_lawful.decode_encode none _).mpr ?_
    intro t ht
    cases ht

/-- Of an endpoint with a `#` in it, the part behind this sign is lost. -/
theorem fragment_lost :
    decodeBase64ToStringOrId .standard
        (stringOrIdToEncodeBase64 .standard (some "/portal#login") 0)
      = some (some "/portal", 0)
    ∧ decodeBase64ToStringOrId .standard
        (stringOrIdToEncodeBase64 .standard (some "/portal#login") 0)
      ≠ some (some "/portal#login", 0) := by
  have hread : decodeBase64ToStringOrId .standard
      (stringOrIdToEncodeBase64 .standard (some "/portal#login") 0)
        = some (some "/portal", 0) := by
    rw [decode_encode Base64.standard_lawful.decode_encode]
    decide
  refine ⟨hread, ?_⟩
  rw [hread]
  decide

end SegmentRef

end Skywalking
