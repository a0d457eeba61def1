import LowPing.Common.LongestPrefix
import LowPing.Library.Checked

/-!
# Containment in a prefix

`parse_cidr` clears the bits of an address that follow the prefix, and the loop of `region_for` adds
the length of the prefix to the result. The two shift by the same number of bits in opposite ways;
together they test the bits of the prefix itself. Neither shift is by a whole word, and the last
address of a prefix is an address.
-/

namespace LowPing

open Library (AlignedBlock Checked)
open Library.Checked (sub shiftLeft)

/-! ## Arithmetic with its checks -/

/-- The mask of a prefix length. -/
def networkMaskChecked (maskLen : UInt8) : Checked UInt32 :=
  if maskLen = 0 then pure 0
  else do
    let mask ← shiftLeft 32 0xFFFFFFFF (← sub 32 maskLen.toNat)
    pure (UInt32.ofNat mask)

/-- `parse_cidr`, with the pair it returns. -/
def parseCidrChecked (s : String) : Checked (Option (UInt32 × UInt8)) :=
  match splitOnce '/' s.toList with
  | none => pure none
  | some (ip, mask) =>
    match parseU8 mask with
    | none => pure none
    | some maskLen =>
      if maskLen.toNat > 32 then pure none
      else
        match parseIpv4 ip with
        | none => pure none
        | some ip => do
          let network := ip.toU32 &&& (← networkMaskChecked maskLen)
          pure (some (network, maskLen))

/-- `net_size`. -/
def CompiledPrefix.netSizeChecked (entry : CompiledPrefix) : Checked UInt32 := do
  let hostBits ← sub 32 entry.maskLen.toNat
  if hostBits = 32 then pure 0xFFFFFFFF
  else
    let size ← sub (← shiftLeft 32 1 hostBits) 1
    pure (UInt32.ofNat size)

/-- One turn of the walk at an entry. -/
def CompiledPrefix.walkChecked (v4 : UInt32) (best : Best) (p : CompiledPrefix) : Checked Best :=
  if p.network > v4 then pure best
  else do
    let netSize ← p.netSizeChecked
    if v4 ≤ saturatingAdd p.network netSize then
      if best.all fun held => decide (p.maskLen > held.1) then
        pure (some (p.maskLen, p.regionIdx))
      else pure best
    else pure best

/-- The mask is computed. -/
theorem networkMaskChecked_eq {maskLen : UInt8} (fits : maskLen.toNat ≤ 32) :
    networkMaskChecked maskLen = .ok (networkMask maskLen) := by
  unfold networkMaskChecked
  by_cases zero : maskLen = 0
  · rw [if_pos zero, networkMask, if_pos zero]
    rfl
  · have positive : 0 < maskLen.toNat :=
      UInt8.lt_iff_toNat_lt.mp (UInt8.pos_iff_ne_zero.mpr zero)
    have amount : 32 - maskLen.toNat < 32 := by omega
    simp only [if_neg zero, Checked.sub_eq fits, Checked.shiftLeft_eq amount, bind, Except.bind,
      pure, Except.pure]
    rw [← toNat_networkMask fits zero, UInt32.ofNat_toNat]

/-- The parser passes its checks. -/
theorem parseCidrChecked_eq (s : String) : parseCidrChecked s =
    .ok ((parseCidr s).map fun cidr => (cidr.network, cidr.maskLen)) := by
  unfold parseCidrChecked parseCidr
  cases splitOnce '/' s.toList with
  | none => rfl
  | some parts =>
    obtain ⟨ip, mask⟩ := parts
    dsimp only [bind, Option.bind]
    cases parseU8 mask with
    | none => rfl
    | some maskLen =>
      dsimp only
      by_cases fits : maskLen.toNat ≤ 32
      · rw [if_neg (Nat.not_lt.mpr fits), dif_pos fits]
        cases parseIpv4 ip with
        | none => rfl
        | some ip =>
          simp only [networkMaskChecked_eq fits]
          rfl
      · rw [if_pos (Nat.lt_of_not_le fits), dif_neg fits]
        rfl

/-- The length of a prefix is computed. -/
theorem netSizeChecked_eq (entry : CompiledPrefix) :
    entry.netSizeChecked = .ok entry.netSize := by
  have size := netSize_toNat entry
  unfold CompiledPrefix.netSizeChecked
  simp only [Checked.sub_eq entry.fits, bind, Except.bind, pure, Except.pure]
  by_cases whole : 32 - entry.maskLen.toNat = 32
  · rw [if_pos whole, CompiledPrefix.netSize, if_pos whole]
  · have amount : 32 - entry.maskLen.toNat < 32 := by omega
    have power : 2 ^ (32 - entry.maskLen.toNat) < 2 ^ 32 := Nat.pow_lt_pow_right (by decide) amount
    have bit : 1 <<< (32 - entry.maskLen.toNat) % 2 ^ 32 = entry.netSize.toNat + 1 := by
      rw [Nat.one_shiftLeft, Nat.mod_eq_of_lt power, size]
    have positive : 1 ≤ entry.netSize.toNat + 1 := Nat.le_add_left _ _
    simp only [if_neg whole, Checked.shiftLeft_eq amount, bit, Checked.sub_eq positive]
    rw [Nat.add_sub_cancel, UInt32.ofNat_toNat]

/-- A turn of the walk passes its checks. -/
theorem walkChecked_eq (v4 : UInt32) (best : Best) (entry : CompiledPrefix) :
    entry.walkChecked v4 best = .ok (entry.walk v4 best) := by
  unfold CompiledPrefix.walkChecked CompiledPrefix.walk
  simp only [netSizeChecked_eq, bind, Except.bind, pure, Except.pure]
  split_ifs with before within longer
  · rfl
  · rfl
  · rfl
  · rfl

/-! ## The bits of a prefix -/

/-- Two addresses agree in their first bits. -/
def SameLeading (count : Nat) (left right : UInt32) : Prop :=
  ∀ i < count, left.toBitVec.getMsbD i = right.toBitVec.getMsbD i

instance (count : Nat) (left right : UInt32) : Decidable (SameLeading count left right) :=
  inferInstanceAs (Decidable (∀ i < count, _))

/-- The first bits are the high ones. -/
theorem sameLeading_iff {count : Nat} {left right : UInt32} (fits : count ≤ 32) :
    SameLeading count left right ↔ ∀ position, 32 - count ≤ position →
      left.toNat.testBit position = right.toNat.testBit position := by
  have leading (word : UInt32) {i : Nat} (inside : i < 32) :
      word.toBitVec.getMsbD i = word.toNat.testBit (31 - i) := by
    rw [BitVec.getMsbD_eq_getLsbD, decide_eq_true inside, Bool.true_and]
    rfl
  constructor
  · intro same position high
    by_cases inside : position < 32
    · have bit := same (31 - position) (by omega)
      rw [leading left (by omega), leading right (by omega)] at bit
      rwa [Nat.sub_sub_self (by omega)] at bit
    · -- Neither word has a bit there.
      have above (word : UInt32) : word.toNat < 2 ^ position :=
        Nat.lt_of_lt_of_le word.toNat_lt (Nat.pow_le_pow_right (by decide) (by omega))
      rw [Nat.testBit_lt_two_pow (above left), Nat.testBit_lt_two_pow (above right)]
  · intro same i inside
    rw [leading left (by omega), leading right (by omega)]
    exact same (31 - i) (by omega)

/-- A mask has the bits of the prefix. -/
theorem testBit_networkMask {maskLen : UInt8} (fits : maskLen.toNat ≤ 32) (position : Nat) :
    (networkMask maskLen).toNat.testBit position =
      decide (32 - maskLen.toNat ≤ position ∧ position < 32) := by
  by_cases zero : maskLen = 0
  · subst zero
    have none : ¬ (32 - (0 : UInt8).toNat ≤ position ∧ position < 32) := by
      rintro ⟨above, below⟩
      exact Nat.not_le.mpr below above
    rw [decide_eq_false none]
    exact Nat.zero_testBit position
  · have ones : 0xFFFFFFFF = 2 ^ 32 - 1 := by decide
    rw [toNat_networkMask fits zero, Nat.testBit_mod_two_pow, Nat.testBit_shiftLeft, ones,
      Nat.testBit_two_pow_sub_one, Bool.eq_iff_iff]
    simp only [Bool.and_eq_true, decide_eq_true_eq]
    omega

/-- Masking keeps the bits of the prefix. -/
theorem testBit_and_networkMask (ip : UInt32) {maskLen : UInt8} (fits : maskLen.toNat ≤ 32)
    {position : Nat} (high : 32 - maskLen.toNat ≤ position) :
    (ip &&& networkMask maskLen).toNat.testBit position = ip.toNat.testBit position := by
  rw [UInt32.toNat_and, Nat.testBit_and, testBit_networkMask fits]
  by_cases inside : position < 32
  · rw [decide_eq_true ⟨high, inside⟩, Bool.and_true]
  · have above : ip.toNat < 2 ^ position :=
      Nat.lt_of_lt_of_le ip.toNat_lt (Nat.pow_le_pow_right (by decide) (by omega))
    rw [Nat.testBit_lt_two_pow above, Bool.false_and]

/-! ## The test -/

/-- The address a CIDR text is written with. -/
def writtenAddress (s : String) : Option Ipv4Addr :=
  (splitOnce '/' s.toList).bind fun parts => parseIpv4 parts.1

/-- What the loop does at an entry, for the address that the prefix was written with. -/
structure CompiledPrefix.Tests (entry : CompiledPrefix) (ip : UInt32) : Prop where
  /-- The test passes for the addresses that begin with the same bits. -/
  contains : ∀ v4, entry.network ≤ v4 ∧ v4 ≤ saturatingAdd entry.network entry.netSize ↔
    SameLeading entry.maskLen.toNat v4 ip
  /-- No check fails. -/
  checked : ∀ v4 best, entry.walkChecked v4 best = .ok (entry.walk v4 best)
  /-- The sum is an address. -/
  unsaturated : entry.network.toNat + entry.netSize.toNat < 2 ^ 32

/-- An accepted text is an address and a mask. -/
theorem parseCidr_eq_some {s : String} {cidr : Cidr} (parsed : parseCidr s = some cidr) :
    ∃ ip, writtenAddress s = some ip ∧ cidr.network = ip.toU32 &&& networkMask cidr.maskLen := by
  unfold parseCidr at parsed
  unfold writtenAddress
  cases split : splitOnce '/' s.toList with
  | none => simp [split] at parsed
  | some parts =>
    obtain ⟨text, mask⟩ := parts
    simp only [split, bind, Option.bind] at parsed
    cases read : parseU8 mask with
    | none => simp [read] at parsed
    | some maskLen =>
      simp only [read] at parsed
      split at parsed
      · cases address : parseIpv4 text with
        | none => simp [address] at parsed
        | some ip =>
          simp only [address, Option.some.injEq] at parsed
          subst parsed
          exact ⟨ip, address, rfl⟩
      · contradiction

/-- A prefix ends within the address space. -/
theorem unsaturated (entry : CompiledPrefix) :
    entry.network.toNat + entry.netSize.toNat < 2 ^ 32 := by
  have size := netSize_toNat entry
  have bound := entry.network.toNat_lt
  obtain ⟨count, multiple⟩ := entry.aligned
  obtain ⟨whole, divided⟩ : 2 ^ (32 - entry.maskLen.toNat) ∣ 2 ^ 32 :=
    Nat.pow_dvd_pow 2 (Nat.sub_le _ _)
  rw [multiple, divided] at bound
  have room : 2 ^ (32 - entry.maskLen.toNat) * (count + 1) ≤
      2 ^ (32 - entry.maskLen.toNat) * whole :=
    Nat.mul_le_mul_left _ (Nat.lt_of_mul_lt_mul_left bound)
  rw [← divided, Nat.mul_succ, ← multiple] at room
  omega

/-- For every text that parses, the loop's test is that the address begins with the bits of the
prefix as it was written; no shift is too long, and no sum saturates. -/
theorem containment_exact (s : String) :
    parseCidrChecked s = .ok ((parseCidr s).map fun cidr => (cidr.network, cidr.maskLen)) ∧
      ∀ cidr, parseCidr s = some cidr → ∃ ip, writtenAddress s = some ip ∧
        ∀ regionIdx, CompiledPrefix.Tests ⟨cidr, regionIdx⟩ ip.toU32 := by
  refine ⟨parseCidrChecked_eq s, fun cidr parsed => ?_⟩
  obtain ⟨ip, written, masked⟩ := parseCidr_eq_some parsed
  refine ⟨ip, written, fun regionIdx => ⟨fun v4 => ?_, ?_, unsaturated _⟩⟩
  · have tested := walk_contains ⟨cidr, regionIdx⟩ v4
    rw [gt_iff_lt, UInt32.not_lt] at tested
    rw [tested, CompiledPrefix.Contains, AlignedBlock.contains_iff_testBit,
      sameLeading_iff cidr.fits]
    refine forall₂_congr fun position high => ?_
    have kept : cidr.network.toNat.testBit position = ip.toU32.toNat.testBit position := by
      rw [masked, testBit_and_networkMask ip.toU32 cidr.fits high]
    show _ = cidr.network.toNat.testBit position ↔ _
    rw [kept]
  · exact fun v4 best => walkChecked_eq v4 best ⟨cidr, regionIdx⟩

/-- A prefix written with an address inside it. -/
def hostPrefix : Cidr := ⟨0x0A000000, 8, by decide, by decide⟩

/-- The test of the host prefix passes exactly for the addresses that begin like its address. -/
theorem hostPrefix_tests : parseCidr "10.1.2.3/8" = some hostPrefix ∧
    ∃ ip, writtenAddress "10.1.2.3/8" = some ip ∧
      ∀ regionIdx, CompiledPrefix.Tests ⟨hostPrefix, regionIdx⟩ ip.toU32 := by
  have parsed : parseCidr "10.1.2.3/8" = some hostPrefix := by decide +kernel
  exact ⟨parsed, (containment_exact "10.1.2.3/8").2 hostPrefix parsed⟩

end LowPing
