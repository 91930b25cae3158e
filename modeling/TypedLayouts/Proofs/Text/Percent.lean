import TypedLayouts.Json.Reading
import TypedLayouts.Text.Percent

/-!
# Reading percent-encoded texts

A percent-encoded text stands for bytes: two hexadecimal digits behind a `%` for one byte, any other
character for the bytes of its UTF-8 form. Where the bytes are those of a text, that text is the
meaning. Every text is the meaning of its segment, so two texts never share a segment, and no slash
stands in one.
-/

namespace TypedLayouts.Text

open Json.Reading (hexValue)

/-- The bytes that a percent-encoded text stands for. -/
def percentBytes : List Char → Option (List UInt8)
  | [] => some []
  | '%' :: high :: low :: rest => do
    let high ← hexValue high
    let low ← hexValue low
    let bytes ← percentBytes rest
    some (UInt8.ofNat (16 * high + low) :: bytes)
  | c :: rest =>
    if c = '%' then none else (percentBytes rest).map (String.utf8EncodeChar c ++ ·)

/-- The text that a percent-encoded text stands for. -/
def percentDecode (cs : List Char) : Option String := do
  let bytes ← percentBytes cs
  String.fromUTF8? bytes.toByteArray

/-! ## Digits -/

theorem hexValue_upperHexDigit {n : Nat} (h : n < 16) : hexValue (upperHexDigit n) = some n := by
  have hall : ∀ n < 16, hexValue (upperHexDigit n) = some n := by decide
  exact hall n h

theorem slash_ne_upperHexDigit {n : Nat} (h : n < 16) : '/' ≠ upperHexDigit n := by
  have hall : ∀ n < 16, '/' ≠ upperHexDigit n := by decide
  exact hall n h

/-! ## Bytes -/

theorem percentBytes_percentByte (b : UInt8) (rest : List Char) :
    percentBytes (percentByte b ++ rest) = (percentBytes rest).map (b :: ·) := by
  have hb := b.toNat_lt
  have hhigh : b.toNat / 16 < 16 := by omega
  have hlow : b.toNat % 16 < 16 := by omega
  have hvalue : UInt8.ofNat (16 * (b.toNat / 16) + b.toNat % 16) = b := by
    rw [Nat.div_add_mod, UInt8.ofNat_toNat]
  unfold percentByte
  simp only [List.cons_append, List.nil_append, percentBytes]
  rw [hexValue_upperHexDigit hhigh, hexValue_upperHexDigit hlow]
  cases percentBytes rest with
  | none => rfl
  | some bytes => exact congrArg (fun b => some (b :: bytes)) hvalue

theorem percentBytes_of_bytes (bytes : List UInt8) (rest : List Char) :
    percentBytes (bytes.flatMap percentByte ++ rest) = (percentBytes rest).map (bytes ++ ·) := by
  induction bytes with
  | nil => simp
  | cons b bytes ih =>
    rw [List.flatMap_cons, List.append_assoc, percentBytes_percentByte, ih, Option.map_map]
    rfl

theorem percentBytes_cons {c : Char} (hc : c ≠ '%') (rest : List Char) :
    percentBytes (c :: rest) = (percentBytes rest).map (String.utf8EncodeChar c ++ ·) := by
  rw [percentBytes, if_neg hc]
  rintro _ _ _ rfl
  exact absurd rfl hc

/-- A character stands in its segment for its own bytes. -/
theorem percentBytes_percentChar (c : Char) (rest : List Char) :
    percentBytes (percentChar c ++ rest) =
      (percentBytes rest).map (String.utf8EncodeChar c ++ ·) := by
  unfold percentChar
  by_cases hc : isUnreserved c = true
  · rw [if_pos hc, List.singleton_append]
    refine percentBytes_cons ?_ rest
    rintro rfl
    exact absurd hc (by decide)
  · rw [if_neg hc, percentBytes_of_bytes]

theorem percentBytes_flatMap (cs : List Char) :
    percentBytes (cs.flatMap percentChar) = some (cs.flatMap String.utf8EncodeChar) := by
  induction cs with
  | nil => rfl
  | cons c cs ih =>
    rw [List.flatMap_cons, percentBytes_percentChar, ih]
    rfl

/-! ## Texts -/

theorem percentDecode_percentEncode (s : String) :
    percentDecode (percentEncode s).toList = some s := by
  have hbytes : (s.toList.flatMap String.utf8EncodeChar).toByteArray = s.toByteArray :=
    String.utf8Encode_toList
  unfold percentDecode percentEncode
  rw [String.toList_ofList, percentBytes_flatMap, Option.bind_eq_bind, Option.bind_some, hbytes]
  unfold String.fromUTF8?
  rw [dif_pos s.isValidUTF8]
  rfl

theorem slash_not_mem_percentEncode (s : String) : '/' ∉ (percentEncode s).toList := by
  intro hmem
  unfold percentEncode at hmem
  rw [String.toList_ofList] at hmem
  obtain ⟨c, -, hc⟩ := List.mem_flatMap.mp hmem
  unfold percentChar at hc
  by_cases hunreserved : isUnreserved c = true
  · rw [if_pos hunreserved, List.mem_singleton] at hc
    subst hc
    exact absurd hunreserved (by decide)
  · rw [if_neg hunreserved] at hc
    obtain ⟨b, -, hb⟩ := List.mem_flatMap.mp hc
    have hlt := b.toNat_lt
    unfold percentByte at hb
    simp only [List.mem_cons, List.not_mem_nil, or_false] at hb
    rcases hb with hpercent | hhigh | hlow
    · exact absurd hpercent (by decide)
    · exact slash_ne_upperHexDigit (by omega) hhigh
    · exact slash_ne_upperHexDigit (by omega) hlow

end TypedLayouts.Text
