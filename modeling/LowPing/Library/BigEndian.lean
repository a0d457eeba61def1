import Mathlib.Algebra.Group.Nat.Defs

/-!
# Big-endian words

Fixed-width numbers as byte lists, most significant byte first. A width of `w` bytes holds the
numbers below `256 ^ w`; encoding reduces a larger number modulo that bound. Encoding and decoding
are inverse in both directions, so an encoding of fixed width determines its number.
-/

namespace LowPing.Library.BigEndian

/-- The `width` low bytes of a number, most significant first. -/
def encode : Nat → Nat → List UInt8
  | 0, _ => []
  | width + 1, value => UInt8.ofNat (value / 256 ^ width) :: encode width value

/-- The number a byte list denotes, first byte most significant. -/
def decode : List UInt8 → Nat
  | [] => 0
  | byte :: rest => byte.toNat * 256 ^ rest.length + decode rest

/-- An encoding has its declared width. -/
@[simp] theorem length_encode (width value : Nat) : (encode width value).length = width := by
  induction width with
  | zero => rfl
  | succ width ih => simp [encode, ih]

/-- A byte list of a given length denotes a number of that width. -/
theorem decode_lt (bytes : List UInt8) : decode bytes < 256 ^ bytes.length := by
  induction bytes with
  | nil => simp [decode]
  | cons byte rest ih =>
    have digit : (byte.toNat + 1) * 256 ^ rest.length ≤ 256 * 256 ^ rest.length :=
      Nat.mul_le_mul_right _ byte.toNat_lt
    rw [Nat.succ_mul] at digit
    simp only [decode, List.length_cons, Nat.pow_succ']
    omega

/-- Decoding an encoding returns the number modulo the width's bound. -/
theorem decode_encode (width value : Nat) : decode (encode width value) = value % 256 ^ width := by
  induction width with
  | zero => simp [encode, decode, Nat.mod_one]
  | succ width ih =>
    have digit : (UInt8.ofNat (value / 256 ^ width)).toNat = value / 256 ^ width % 256 := by simp
    simp only [encode, decode, length_encode, ih, digit]
    rw [Nat.pow_succ, Nat.mod_mul, Nat.mul_comm (256 ^ width), Nat.add_comm]

/-- Below the width's bound, decoding inverts encoding. -/
theorem decode_encode_of_lt {width value : Nat} (fits : value < 256 ^ width) :
    decode (encode width value) = value := by
  rw [decode_encode, Nat.mod_eq_of_lt fits]

/-- Only the value modulo the bound is encoded. -/
theorem encode_add_mul (width high value : Nat) :
    encode width (high * 256 ^ width + value) = encode width value := by
  induction width generalizing high with
  | zero => rfl
  | succ width ih =>
    have split : high * 256 ^ (width + 1) + value = high * 256 * 256 ^ width + value := by
      rw [Nat.pow_succ']; simp only [Nat.mul_assoc]
    have quotient : (high * 256 * 256 ^ width + value) / 256 ^ width =
        value / 256 ^ width + high * 256 := by
      rw [Nat.add_comm, Nat.add_mul_div_right _ _ (Nat.pow_pos (by decide))]
    simp only [encode, split, quotient, ih]
    congr 1
    apply UInt8.toNat_inj.mp
    simp [UInt8.toNat_ofNat']

/-- Encoding inverts decoding at the byte list's own width. -/
theorem encode_decode (bytes : List UInt8) : encode bytes.length (decode bytes) = bytes := by
  induction bytes with
  | nil => rfl
  | cons byte rest ih =>
    have bound := decode_lt rest
    have quotient : (byte.toNat * 256 ^ rest.length + decode rest) / 256 ^ rest.length =
        byte.toNat := by
      rw [Nat.add_comm, Nat.add_mul_div_right _ _ (Nat.pow_pos (by decide)),
        Nat.div_eq_of_lt bound, Nat.zero_add]
    simp only [List.length_cons, encode, decode, quotient, encode_add_mul, ih]
    congr 1
    apply UInt8.toNat_inj.mp
    simp

/-- Two numbers of one width with one encoding are equal. -/
theorem encode_injective {width left right : Nat} (leftFits : left < 256 ^ width)
    (rightFits : right < 256 ^ width) (same : encode width left = encode width right) :
    left = right := by
  have decoded := congrArg decode same
  rwa [decode_encode_of_lt leftFits, decode_encode_of_lt rightFits] at decoded

end LowPing.Library.BigEndian
