import Mathlib.Data.Vector.Defs
import LowPing.Library.BigEndian

/-!
# Bytes, words and socket addresses

The standard-library data the program is written over. A byte slice is a list, a `[u8; n]` array
is a list carrying its length, and a machine word is Lean's word of that width with Rust's
`to_be_bytes` and `from_be_bytes`. Socket addresses keep the address family; the flow label and
scope of an IPv6 socket address are never set by this program and are left out.
-/

namespace LowPing

open Library (BigEndian.encode BigEndian.decode BigEndian.length_encode)

/-- A byte slice or `Vec<u8>`. -/
abbrev Bytes := List UInt8

/-- A `[u8; n]` array. -/
abbrev Block (n : Nat) := List.Vector UInt8 n

/-- `u16::to_be_bytes`. -/
def beBytes16 (word : UInt16) : Bytes := BigEndian.encode 2 word.toNat
/-- `u32::to_be_bytes`. -/
def beBytes32 (word : UInt32) : Bytes := BigEndian.encode 4 word.toNat
/-- `u64::to_be_bytes`. -/
def beBytes64 (word : UInt64) : Bytes := BigEndian.encode 8 word.toNat
/-- `i64::to_be_bytes`, the two's-complement word. -/
def beBytesI64 (word : Int64) : Bytes := beBytes64 word.toUInt64

/-- `u16::from_be_bytes`. -/
def ofBeBytes16 (bytes : Bytes) : UInt16 := UInt16.ofNat (BigEndian.decode bytes)
/-- `u32::from_be_bytes`. -/
def ofBeBytes32 (bytes : Bytes) : UInt32 := UInt32.ofNat (BigEndian.decode bytes)
/-- `u64::from_be_bytes`. -/
def ofBeBytes64 (bytes : Bytes) : UInt64 := UInt64.ofNat (BigEndian.decode bytes)
/-- `i64::from_be_bytes`. -/
def ofBeBytesI64 (bytes : Bytes) : Int64 := (ofBeBytes64 bytes).toInt64

@[simp] theorem length_beBytes16 (word : UInt16) : (beBytes16 word).length = 2 := by
  simp [beBytes16]

@[simp] theorem length_beBytes32 (word : UInt32) : (beBytes32 word).length = 4 := by
  simp [beBytes32]

@[simp] theorem length_beBytes64 (word : UInt64) : (beBytes64 word).length = 8 := by
  simp [beBytes64]

@[simp] theorem length_beBytesI64 (word : Int64) : (beBytesI64 word).length = 8 := by
  simp [beBytesI64]

/-- A 16-bit word is read back from its bytes. -/
@[simp] theorem ofBeBytes16_beBytes16 (word : UInt16) : ofBeBytes16 (beBytes16 word) = word := by
  have fits : word.toNat < 256 ^ 2 := word.toNat_lt
  simp [ofBeBytes16, beBytes16, Library.BigEndian.decode_encode_of_lt fits]

/-- A 32-bit word is read back from its bytes. -/
@[simp] theorem ofBeBytes32_beBytes32 (word : UInt32) : ofBeBytes32 (beBytes32 word) = word := by
  have fits : word.toNat < 256 ^ 4 := word.toNat_lt
  simp [ofBeBytes32, beBytes32, Library.BigEndian.decode_encode_of_lt fits]

/-- A 64-bit word is read back from its bytes. -/
@[simp] theorem ofBeBytes64_beBytes64 (word : UInt64) : ofBeBytes64 (beBytes64 word) = word := by
  have fits : word.toNat < 256 ^ 8 := word.toNat_lt
  simp [ofBeBytes64, beBytes64, Library.BigEndian.decode_encode_of_lt fits]

/-- A signed 64-bit word is read back from its bytes. -/
@[simp] theorem ofBeBytesI64_beBytesI64 (word : Int64) :
    ofBeBytesI64 (beBytesI64 word) = word := by
  simp [ofBeBytesI64, beBytesI64]

/-- Two bytes are those of the word they are read as. -/
theorem beBytes16_ofBeBytes16 {bytes : Bytes} (sized : bytes.length = 2) :
    beBytes16 (ofBeBytes16 bytes) = bytes := by
  have bound := Library.BigEndian.decode_lt bytes
  rw [sized] at bound
  rw [beBytes16, ofBeBytes16, UInt16.toNat_ofNat_of_lt' bound, ← sized,
    Library.BigEndian.encode_decode]

/-- Four bytes are those of the word they are read as. -/
theorem beBytes32_ofBeBytes32 {bytes : Bytes} (sized : bytes.length = 4) :
    beBytes32 (ofBeBytes32 bytes) = bytes := by
  have bound := Library.BigEndian.decode_lt bytes
  rw [sized] at bound
  rw [beBytes32, ofBeBytes32, UInt32.toNat_ofNat_of_lt' bound, ← sized,
    Library.BigEndian.encode_decode]

/-- Eight bytes are those of the word they are read as. -/
theorem beBytes64_ofBeBytes64 {bytes : Bytes} (sized : bytes.length = 8) :
    beBytes64 (ofBeBytes64 bytes) = bytes := by
  have bound := Library.BigEndian.decode_lt bytes
  rw [sized] at bound
  rw [beBytes64, ofBeBytes64, UInt64.toNat_ofNat_of_lt' bound, ← sized,
    Library.BigEndian.encode_decode]

/-- Eight bytes are those of the signed word they are read as. -/
theorem beBytesI64_ofBeBytesI64 {bytes : Bytes} (sized : bytes.length = 8) :
    beBytesI64 (ofBeBytesI64 bytes) = bytes := by
  rw [beBytesI64, ofBeBytesI64, UInt64.toUInt64_toInt64, beBytes64_ofBeBytes64 sized]

/-- Four octets, first octet most significant. -/
structure Ipv4Addr where
  /-- `Ipv4Addr::octets`. -/
  octets : Block 4
  deriving DecidableEq

/-- Sixteen octets. -/
structure Ipv6Addr where
  /-- `Ipv6Addr::octets`. -/
  octets : Block 16
  deriving DecidableEq

/-- An address of either family. -/
inductive IpAddr where
  | v4 (addr : Ipv4Addr)
  | v6 (addr : Ipv6Addr)
  deriving DecidableEq

/-- An address and a port. -/
structure SocketAddr where
  /-- Either family. -/
  ip : IpAddr
  /-- Host-order port. -/
  port : UInt16
  deriving DecidableEq

/-- `Ipv4Addr::new`. -/
def Ipv4Addr.new (a b c d : UInt8) : Ipv4Addr := ⟨⟨[a, b, c, d], rfl⟩⟩

/-- `SocketAddr::is_ipv4`. -/
def SocketAddr.isIpv4 (addr : SocketAddr) : Bool :=
  match addr.ip with
  | .v4 _ => true
  | .v6 _ => false

end LowPing
