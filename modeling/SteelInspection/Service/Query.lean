import SteelInspection.Foundations.Text

/-! # Decoding of queries

The percent decoders of the image service, of the inspection service and of its database layer,
and the encoder of the database layer, on the bytes of a text. The decoders walk bytes but cut the
two digits out of the text, and a cut inside a character panics.
-/

namespace SteelInspection.Requests

open Foundations

/-- `str::is_char_boundary` at the start of the remaining bytes. -/
def isCharBoundary : List Nat → Bool
  | [] => true
  | byte :: _ => byte < 128 || 192 ≤ byte

def toDigit (byte : Nat) : Option Nat :=
  if 48 ≤ byte ∧ byte ≤ 57 then some (byte - 48)
  else if 65 ≤ byte ∧ byte ≤ 70 then some (byte - 55)
  else if 97 ≤ byte ∧ byte ≤ 102 then some (byte - 87)
  else none

/-- `u8::from_str_radix(pair, 16)`, which also takes a plus sign and one digit. -/
def fromStrRadix (first second : Nat) : Option Nat :=
  if first = 43 then toDigit second
  else (toDigit first).bind fun high => (toDigit second).map (16 * high + ·)

/-- The loop of the decoders; `none` is the panic. The database layer keeps `+` as it is. -/
def decodeBytes (plusIsBlank : Bool) : List Nat → Option (List Nat)
  | [] => some []
  | byte :: rest =>
    if byte = 43 ∧ plusIsBlank then (decodeBytes plusIsBlank rest).map (32 :: ·)
    else if byte = 37 then
      match rest with
      | first :: second :: after =>
        if isCharBoundary (first :: second :: after) && isCharBoundary after then
          match fromStrRadix first second with
          | some value => (decodeBytes plusIsBlank after).map (value :: ·)
          | none => (decodeBytes plusIsBlank (first :: second :: after)).map (byte :: ·)
        else none
      | short => (decodeBytes plusIsBlank short).map (byte :: ·)
    else (decodeBytes plusIsBlank rest).map (byte :: ·)

variable (fromUtf8Lossy : List Nat → List Nat) {plus : Bool} {text rest : List Nat}
  {byte first second value : Nat}

def percentDecode (value : List Nat) : Option (List Nat) :=
  (decodeBytes true value).map fromUtf8Lossy

def decodeQueryValue (value : List Nat) : Option (List Nat) :=
  (decodeBytes true value).map fromUtf8Lossy

def percentDecodeUrlComponent (value : List Nat) : Option (List Nat) :=
  (decodeBytes false value).map fromUtf8Lossy

def decoders : List (List Nat → Option (List Nat)) :=
  [percentDecode fromUtf8Lossy, decodeQueryValue fromUtf8Lossy,
    percentDecodeUrlComponent fromUtf8Lossy]

def upperHex (digit : Nat) : Nat := if digit < 10 then 48 + digit else 55 + digit

/-- `format!("%{byte:02X}")`. -/
def escaped (byte : Nat) : List Nat := [37, upperHex (byte / 16), upperHex (byte % 16)]

def percentEncodeUrlComponent (value : List Nat) : List Nat :=
  value.flatMap fun byte =>
    if Text.isAsciiAlphanumeric (Char.ofNat byte) || [45, 46, 95, 126].contains byte then [byte]
    else escaped byte

/-- Where two bytes follow a percent sign, they are not a part of a longer character. -/
def Aligned (text : List Nat) : Prop :=
  ∀ rest, 37 :: rest <:+ text → 2 ≤ rest.length →
    isCharBoundary rest ∧ isCharBoundary (rest.drop 2)

theorem aligned_cons : Aligned (byte :: rest) ↔ Aligned rest ∧
    (byte = 37 → 2 ≤ rest.length → isCharBoundary rest ∧ isCharBoundary (rest.drop 2)) := by
  simp only [Aligned, List.suffix_cons_iff, List.cons.injEq]
  grind

-- No byte of a pair that is read is a percent sign, so the loop skips none of them.
theorem decodeBytes_isSome : (decodeBytes plus text).isSome ↔ Aligned text := by
  fun_induction decodeBytes plus text with
  | case1 => simp [Aligned]
  | case6 =>
    rename_i short few _ ih
    match short with
    | [] | [_] => simp_all [aligned_cons]
    | first :: second :: after => exact (few first second after rfl).elim
  | _ => grind [aligned_cons, fromStrRadix, toDigit]

-- Over the 256 values of a byte.
theorem encoded_cases : ∀ byte < 256,
    (percentEncodeUrlComponent [byte] = [byte] ∧ byte ≠ 43 ∧ byte ≠ 37 ∧ byte < 128) ∨
    (percentEncodeUrlComponent [byte] = escaped byte ∧ upperHex (byte / 16) < 128 ∧
      fromStrRadix (upperHex (byte / 16)) (upperHex (byte % 16)) = some byte) := by
  decide +kernel

theorem decodeBytes_percentEncode (small : ∀ byte ∈ text, byte < 256) :
    isCharBoundary (percentEncodeUrlComponent text) ∧
      decodeBytes plus (percentEncodeUrlComponent text) = some text := by
  induction text with
  | nil => exact ⟨rfl, rfl⟩
  | cons byte rest ih =>
    obtain ⟨boundary, decoded⟩ := ih fun byte mem => small byte (.tail _ mem)
    rw [show percentEncodeUrlComponent (byte :: rest) =
      percentEncodeUrlComponent [byte] ++ percentEncodeUrlComponent rest by
        simp [percentEncodeUrlComponent]]
    obtain ⟨same, ascii⟩ | ⟨same, ascii⟩ := encoded_cases byte (small byte List.mem_cons_self)
    · rw [same, List.singleton_append, decodeBytes.eq_def]
      simp [isCharBoundary, decoded, ascii]
    · rw [same]
      have start : isCharBoundary (upperHex (byte / 16) :: upperHex (byte % 16) ::
          percentEncodeUrlComponent rest) := by
        simp [isCharBoundary, ascii]
      exact ⟨rfl, by simp [escaped, decodeBytes, decoded, ascii, boundary, start]⟩

theorem decoders_safe_iff
    (kept : ∀ text : String, fromUtf8Lossy (Text.bytes text) = Text.bytes text) (text : String) :
    (∀ decoder ∈ decoders fromUtf8Lossy, (decoder (Text.bytes text)).isSome ∧
      decoder (percentEncodeUrlComponent (Text.bytes text)) = some (Text.bytes text)) ↔
    Aligned (Text.bytes text) := by
  have small : ∀ byte ∈ Text.bytes text, byte < 256 := by
    simp only [Text.bytes, List.mem_map]
    rintro _ ⟨byte, -, rfl⟩
    exact byte.toNat_lt
  simp [decoders, percentDecode, decodeQueryValue, percentDecodeUrlComponent, decodeBytes_isSome,
    (decodeBytes_percentEncode small).2, kept]

theorem query_decoded : Aligned (Text.bytes "a+%20") :=
  (decoders_safe_iff id (fun _ => rfl) "a+%20").mp (by decide)

theorem cut_euro_sign_panics :
    ¬∀ text : String, ∀ decoder ∈ decoders id, (decoder (Text.bytes text)).isSome := by
  intro safe
  exact absurd (safe "%€" _ List.mem_cons_self) (by decide)

end SteelInspection.Requests
