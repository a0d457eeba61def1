import Mathlib.Data.List.Infix

/-!
# Exact decoders

An encoder writes a value as a string of symbols, and a decoder that may fail reads strings back.
The decoder is exact when it accepts the encodings of the valid values and no other string, and
exact on prefixes when it also ignores what follows an encoding. Either way the string read is
determined by the value. A string that starts with a part of fixed length is decoded by splitting
it there.
-/

namespace LowPing.Library.Codec

variable {α β σ ε δ : Type*}

/-- The decoder accepts the encodings of the valid values and no other string. -/
structure Exact (valid : α → Prop) (encode : α → List σ) (decode : List σ → Except ε α) :
    Prop where
  /-- A valid value is read back. -/
  decode_encode : ∀ value, valid value → decode (encode value) = .ok value
  /-- Only encodings of valid values are read. -/
  canonical : ∀ wire value, decode wire = .ok value → valid value ∧ wire = encode value

/-- The decoder accepts the strings that start with the encoding of a valid value and no other. -/
structure ExactPrefix (valid : α → Prop) (encode : α → List σ) (decode : List σ → Except ε α) :
    Prop where
  /-- A valid value is read back, whatever follows. -/
  decode_append : ∀ value suffix, valid value → decode (encode value ++ suffix) = .ok value
  /-- Only strings that start with an encoding of a valid value are read. -/
  canonical : ∀ wire value, decode wire = .ok value → valid value ∧ encode value <+: wire

section

variable {valid : α → Prop} {encode : α → List σ} {decode : List σ → Except ε α}

/-- Two strings read as one value are equal. -/
theorem Exact.wire_eq (exact : Exact valid encode decode) {wire other : List σ} {value : α}
    (read : decode wire = .ok value) (readOther : decode other = .ok value) : wire = other := by
  rw [(exact.canonical wire value read).2, (exact.canonical other value readOther).2]

/-- The front of a string read, where the encoding starts with a front of fixed length, is that of
the value. -/
theorem Exact.take_eq (exact : Exact valid encode decode) (front : α → List σ) {length : Nat}
    (starts : ∀ value, front value <+: encode value)
    (sized : ∀ value, (front value).length = length) {wire : List σ} {value : α}
    (read : decode wire = .ok value) : wire.take length = front value := by
  rw [(exact.canonical wire value read).2, ← sized value]
  exact (List.prefix_iff_eq_take.mp (starts value)).symm

/-- Strings with different fronts are read as values with different fronts. -/
theorem Exact.front_ne (exact : Exact valid encode decode) (front : α → List σ) {length : Nat}
    (starts : ∀ value, front value <+: encode value)
    (sized : ∀ value, (front value).length = length) {wire other : List σ} {value second : α}
    (altered : other.take length ≠ wire.take length) (read : decode wire = .ok value)
    (readOther : decode other = .ok second) : front second ≠ front value := by
  rw [exact.take_eq front starts sized read, exact.take_eq front starts sized readOther] at altered
  exact altered

/-- A string read has the value's encoding as its first symbols. -/
theorem ExactPrefix.take_eq (exact : ExactPrefix valid encode decode) {wire : List σ} {value : α}
    (read : decode wire = .ok value) : wire.take (encode value).length = encode value :=
  (List.prefix_iff_eq_take.mp (exact.canonical wire value read).2).symm

end

section

variable {valid : α → Prop} {encode : α → List σ} {decode : List σ → Except ε α}
  {validRest : β → Prop} {encodeRest : β → List σ} {decodeRest : List σ → Except δ β}
  {length : Nat}

/-- Two values written one after the other are read back by splitting at the first one's length. -/
theorem split_append (exact : Exact valid encode decode)
    (exactRest : ExactPrefix validRest encodeRest decodeRest)
    (sized : ∀ value, (encode value).length = length) {value : α} {rest : β} (first : valid value)
    (second : validRest rest) (suffix : List σ) :
    decode ((encode value ++ encodeRest rest ++ suffix).take length) = .ok value ∧
      decodeRest ((encode value ++ encodeRest rest ++ suffix).drop length) = .ok rest := by
  rw [List.append_assoc, List.take_left' (sized value), List.drop_left' (sized value)]
  exact ⟨exact.decode_encode value first, exactRest.decode_append rest suffix second⟩

/-- Whatever is read by splitting starts with both encodings. -/
theorem split_canonical (exact : Exact valid encode decode)
    (exactRest : ExactPrefix validRest encodeRest decodeRest)
    (sized : ∀ value, (encode value).length = length) {wire : List σ} {value : α} {rest : β}
    (read : decode (wire.take length) = .ok value)
    (readRest : decodeRest (wire.drop length) = .ok rest) :
    encode value ++ encodeRest rest = wire.take (length + (encodeRest rest).length) := by
  have front := (exact.canonical _ value read).2
  have back := exactRest.take_eq readRest
  have long : length ≤ wire.length := by
    have taken : (wire.take length).length = length := by rw [front, sized]
    rw [List.length_take] at taken
    omega
  rw [List.take_add, back, front]

end

end LowPing.Library.Codec
