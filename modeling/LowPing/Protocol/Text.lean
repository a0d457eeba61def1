import LowPing.Common.Net

/-!
# Text encodings

Keys and tokens reach the client as text in its configuration: hexadecimal for public keys,
unpadded URL-safe base64 for licence tokens. Both codecs are other crates' and so are parameters of
the model; `standardText` computes them as documented, for runs that start from configuration text.
-/

namespace LowPing

/-- The text encodings of the `hex` and `base64` crates. -/
structure TextCodec where
  /-- `hex::decode`. -/
  hexDecode : String → Option Bytes
  /-- `URL_SAFE_NO_PAD.encode`. -/
  base64Encode : Bytes → String
  /-- `URL_SAFE_NO_PAD.decode`. -/
  base64Decode : String → Option Bytes

/-- The value of a hexadecimal digit of either case. -/
def hexDigit (c : Char) : Option Nat :=
  if '0' ≤ c ∧ c ≤ '9' then some (c.toNat - 48)
  else if 'a' ≤ c ∧ c ≤ 'f' then some (c.toNat - 87)
  else if 'A' ≤ c ∧ c ≤ 'F' then some (c.toNat - 55)
  else none

/-- Two digits a byte; an odd digit is an error. -/
def hexDigits : List Char → Option Bytes
  | [] => some []
  | [_] => none
  | high :: low :: rest => do
    let high ← hexDigit high
    let low ← hexDigit low
    let bytes ← hexDigits rest
    some (UInt8.ofNat (high * 16 + low) :: bytes)

/-- The URL-safe alphabet. -/
def base64Char (value : Nat) : Char :=
  if value < 26 then Char.ofNat (65 + value)
  else if value < 52 then Char.ofNat (71 + value)
  else if value < 62 then Char.ofNat (value - 4)
  else if value = 62 then '-' else '_'

/-- The value of a character of the URL-safe alphabet. -/
def base64Value (c : Char) : Option Nat :=
  if 'A' ≤ c ∧ c ≤ 'Z' then some (c.toNat - 65)
  else if 'a' ≤ c ∧ c ≤ 'z' then some (c.toNat - 71)
  else if '0' ≤ c ∧ c ≤ '9' then some (c.toNat + 4)
  else if c = '-' then some 62 else if c = '_' then some 63 else none

/-- Three bytes as four characters, without padding. -/
def base64Chars : Bytes → List Char
  | [] => []
  | [a] => [base64Char (a.toNat / 4), base64Char (a.toNat % 4 * 16)]
  | [a, b] => [base64Char (a.toNat / 4), base64Char (a.toNat % 4 * 16 + b.toNat / 16),
      base64Char (b.toNat % 16 * 4)]
  | a :: b :: c :: rest =>
      base64Char (a.toNat / 4) :: base64Char (a.toNat % 4 * 16 + b.toNat / 16) ::
        base64Char (b.toNat % 16 * 4 + c.toNat / 64) :: base64Char (c.toNat % 64) ::
          base64Chars rest

/-- Four characters as three bytes; a lone character and set trailing bits are errors. -/
def base64Bytes : List Nat → Option Bytes
  | [] => some []
  | [_] => none
  | [a, b] => if b % 16 = 0 then some [UInt8.ofNat (a * 4 + b / 16)] else none
  | [a, b, c] =>
    if c % 4 = 0 then some [UInt8.ofNat (a * 4 + b / 16), UInt8.ofNat (b % 16 * 16 + c / 4)]
    else none
  | a :: b :: c :: d :: rest => do
    let bytes ← base64Bytes rest
    some (UInt8.ofNat (a * 4 + b / 16) :: UInt8.ofNat (b % 16 * 16 + c / 4) ::
      UInt8.ofNat (c % 4 * 64 + d) :: bytes)

/-- Both codecs as documented. -/
def standardText : TextCodec where
  hexDecode s := hexDigits s.toList
  base64Encode bytes := String.ofList (base64Chars bytes)
  base64Decode s := (s.toList.mapM base64Value).bind base64Bytes

/-- Decoding inverts encoding, as both crates document. -/
structure TextLaws (text : TextCodec) : Prop where
  /-- Base64 text of any bytes decodes to them. -/
  base64 : ∀ bytes, text.base64Decode (text.base64Encode bytes) = some bytes

/-- A character of the alphabet has the value it was made from. -/
theorem base64Value_base64Char (value : Nat) (digit : value < 64) :
    base64Value (base64Char value) = some value := by
  revert value
  decide

/-- A byte is put together again from its six-bit parts. -/
theorem ofNat_parts {byte : UInt8} {value : Nat} (same : value = byte.toNat) :
    UInt8.ofNat value = byte := by
  rw [same, UInt8.ofNat_toNat]

/-- The characters of some bytes have values that decode to them. -/
theorem base64Bytes_base64Chars (bytes : Bytes) :
    ((base64Chars bytes).mapM base64Value).bind base64Bytes = some bytes := by
  induction bytes using base64Chars.induct with
  | case1 => rfl
  | case2 a =>
    have bound := a.toNat_lt
    have high := base64Value_base64Char (a.toNat / 4) (by omega)
    have low := base64Value_base64Char (a.toNat % 4 * 16) (by omega)
    have trailing : a.toNat % 4 * 16 % 16 = 0 := by omega
    have whole : UInt8.ofNat (a.toNat / 4 * 4 + a.toNat % 4 * 16 / 16) = a :=
      ofNat_parts (by omega)
    simp only [base64Chars, List.mapM_cons, List.mapM_nil, high, low, Option.pure_def,
      Option.bind_eq_bind, Option.bind_some, base64Bytes, trailing, ↓reduceIte, whole]
  | case3 a b =>
    have boundA := a.toNat_lt
    have boundB := b.toNat_lt
    have first := base64Value_base64Char (a.toNat / 4) (by omega)
    have second := base64Value_base64Char (a.toNat % 4 * 16 + b.toNat / 16) (by omega)
    have third := base64Value_base64Char (b.toNat % 16 * 4) (by omega)
    have trailing : b.toNat % 16 * 4 % 4 = 0 := by omega
    have wholeA : UInt8.ofNat (a.toNat / 4 * 4 + (a.toNat % 4 * 16 + b.toNat / 16) / 16) = a :=
      ofNat_parts (by omega)
    have wholeB : UInt8.ofNat ((a.toNat % 4 * 16 + b.toNat / 16) % 16 * 16 +
        b.toNat % 16 * 4 / 4) = b := ofNat_parts (by omega)
    simp only [base64Chars, List.mapM_cons, List.mapM_nil, first, second, third, Option.pure_def,
      Option.bind_eq_bind, Option.bind_some, base64Bytes, trailing, ↓reduceIte, wholeA, wholeB]
  | case4 a b c rest ih =>
    have boundA := a.toNat_lt
    have boundB := b.toNat_lt
    have boundC := c.toNat_lt
    have first := base64Value_base64Char (a.toNat / 4) (by omega)
    have second := base64Value_base64Char (a.toNat % 4 * 16 + b.toNat / 16) (by omega)
    have third := base64Value_base64Char (b.toNat % 16 * 4 + c.toNat / 64) (by omega)
    have fourth := base64Value_base64Char (c.toNat % 64) (by omega)
    have wholeA : UInt8.ofNat (a.toNat / 4 * 4 + (a.toNat % 4 * 16 + b.toNat / 16) / 16) = a :=
      ofNat_parts (by omega)
    have wholeB : UInt8.ofNat ((a.toNat % 4 * 16 + b.toNat / 16) % 16 * 16 +
        (b.toNat % 16 * 4 + c.toNat / 64) / 4) = b := ofNat_parts (by omega)
    have wholeC : UInt8.ofNat ((b.toNat % 16 * 4 + c.toNat / 64) % 4 * 64 + c.toNat % 64) = c :=
      ofNat_parts (by omega)
    obtain ⟨values, read, decoded⟩ := Option.bind_eq_some_iff.mp ih
    simp only [base64Chars, List.mapM_cons, first, second, third, fourth, read, Option.pure_def,
      Option.bind_eq_bind, Option.bind_some, base64Bytes, decoded, wholeA, wholeB, wholeC]

/-- The codecs as documented are lawful. -/
theorem standardText_laws : TextLaws standardText where
  base64 bytes := by
    simp only [standardText, String.toList_ofList]
    exact base64Bytes_base64Chars bytes

end LowPing
