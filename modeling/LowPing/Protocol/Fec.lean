import LowPing.Library.Erasure
import LowPing.Common.Net

/-!
# Forward error correction

A block of data shards is sent with parity shards computed from it. The Reed-Solomon code itself is
a crate and not part of the repository: it is a parameter, and what it is documented to do is a
hypothesis. `Encoder` and `Decoder` check the shape of a block, order its shards and count them;
with the code they recover a block from any loss of no more shards than there are parity shards,
and refuse any greater one.
-/

namespace LowPing

open Library.Erasure

/-- `reed_solomon_erasure::galois_8`; errors are their texts. -/
structure ReedSolomonCrate where
  /-- `ReedSolomon`. -/
  ReedSolomon : Type
  /-- `ReedSolomon::new` for a number of data shards and one of parity shards. -/
  new : Nat → Nat → Except String ReedSolomon
  /-- `encode`: the shards after it. -/
  encode : ReedSolomon → List Bytes → Except String (List Bytes)
  /-- `reconstruct_data`: its result, and the slots after it. -/
  reconstructData : ReedSolomon → List (Option Bytes) → Except String Unit × List (Option Bytes)

/-- `FecError`. -/
inductive FecError where
  /-- A block of another shape, or of none. -/
  | invalidConfig (data parity : Nat)
  /-- An error of the library. -/
  | reedSolomon (text : String)
  /-- Too many shards are missing. -/
  | insufficientShards (present need : Nat)
  /-- Shards of different lengths. -/
  | inconsistentShardSize (expected got : Nat)
  deriving DecidableEq

/-- The text of an error. -/
def FecError.text : FecError → String
  | .invalidConfig data parity => "invalid block configuration: data=" ++ data.repr ++ " parity=" ++
      parity.repr ++ " (need data >= 1 and parity >= 1)"
  | .reedSolomon text => "reed-solomon library error: " ++ text
  | .insufficientShards present need => "not enough shards to reconstruct: have " ++
      present.repr ++ ", need " ++ need.repr
  | .inconsistentShardSize expected got => "inconsistent shard size: expected " ++ expected.repr ++
      ", got " ++ got.repr

/-- `Encoder`. -/
structure Encoder (crate : ReedSolomonCrate) where
  /-- The code. -/
  rs : crate.ReedSolomon
  /-- Data shards of a block. -/
  dataShards : Nat
  /-- Parity shards of a block. -/
  parityShards : Nat

/-- `Decoder`. -/
structure Decoder (crate : ReedSolomonCrate) where
  /-- The code. -/
  rs : crate.ReedSolomon
  /-- Data shards of a block. -/
  dataShards : Nat
  /-- Parity shards of a block. -/
  parityShards : Nat

section

variable {crate : ReedSolomonCrate}

/-- `Encoder::new`. -/
def Encoder.new (crate : ReedSolomonCrate) (dataShards parityShards : Nat) :
    Except FecError (Encoder crate) :=
  if dataShards = 0 ∨ parityShards = 0 then .error (.invalidConfig dataShards parityShards)
  else match crate.new dataShards parityShards with
    | .error text => .error (.reedSolomon text)
    | .ok rs => .ok { rs, dataShards, parityShards }

/-- `Encoder::encode`; `none` is the panic on the first shard of an empty block. -/
def Encoder.encode (encoder : Encoder crate) (data : List Bytes) :
    Option (Except FecError (List Bytes)) :=
  if data.length ≠ encoder.dataShards then
    some (.error (.invalidConfig data.length encoder.parityShards))
  else do
    let first ← data[0]?
    let shardLen := first.length
    match data.find? fun shard => shard.length ≠ shardLen with
    | some shard => some (.error (.inconsistentShardSize shardLen shard.length))
    | none =>
      let shards := data ++ List.replicate encoder.parityShards (List.replicate shardLen 0)
      match crate.encode encoder.rs shards with
      | .error text => some (.error (.reedSolomon text))
      | .ok shards => some (.ok (shards.drop encoder.dataShards))

/-- `Decoder::new`. -/
def Decoder.new (crate : ReedSolomonCrate) (dataShards parityShards : Nat) :
    Except FecError (Decoder crate) :=
  match crate.new dataShards parityShards with
  | .error text => .error (.reedSolomon text)
  | .ok rs => .ok { rs, dataShards, parityShards }

/-- `Decoder::reconstruct_data`: its result, and the slots after it. -/
def Decoder.reconstructData (decoder : Decoder crate) (shards : List (Option Bytes)) :
    Except FecError Unit × List (Option Bytes) :=
  let total := decoder.dataShards + decoder.parityShards
  if shards.length ≠ total then (.error (.invalidConfig shards.length 0), shards)
  else
    let count := present shards
    if count < decoder.dataShards then
      (.error (.insufficientShards count decoder.dataShards), shards)
    else match crate.reconstructData decoder.rs shards with
      | (.error text, after) => (.error (.reedSolomon text), after)
      | (.ok (), after) => (.ok (), after)

/-- The codewords of a code for shards of one length. -/
def ReedSolomonCrate.Codeword (crate : ReedSolomonCrate) (rs : crate.ReedSolomon)
    (total shardLen : Nat) (word : List Bytes) : Prop :=
  ∃ shards : List Bytes, shards.length = total ∧ (∀ shard ∈ shards, shard.length = shardLen) ∧
    crate.encode rs shards = .ok word

/-- What the library is documented to do. -/
structure ReedSolomonCrate.Documented (crate : ReedSolomonCrate) : Prop where
  /-- Shards of one length are encoded: the data shards stay, and so do the number of shards. -/
  encodes : ∀ dataShards parityShards rs shards shardLen,
    crate.new dataShards parityShards = .ok rs → shards.length = dataShards + parityShards →
    0 < shardLen → (∀ shard ∈ shards, shard.length = shardLen) → ∃ word,
      crate.encode rs shards = .ok word ∧ word.length = dataShards + parityShards ∧
        word.take dataShards = shards.take dataShards
  /-- Two codewords differ in more shards than there are parity shards. -/
  separated : ∀ dataShards parityShards rs shardLen,
    crate.new dataShards parityShards = .ok rs → 0 < shardLen →
    Separated parityShards (crate.Codeword rs (dataShards + parityShards) shardLen)
  /-- From as many shards of a codeword as it has data shards, the data shards of a codeword with
  these shards are reconstructed. -/
  reconstructs : ∀ dataShards parityShards rs shardLen word slots,
    crate.new dataShards parityShards = .ok rs → 0 < shardLen →
    crate.Codeword rs (dataShards + parityShards) shardLen word → Agrees slots word →
    dataShards ≤ present slots → ∃ after found, crate.reconstructData rs slots = (.ok (), after) ∧
      crate.Codeword rs (dataShards + parityShards) shardLen found ∧ Agrees slots found ∧
      after.take dataShards = (found.take dataShards).map some

/-- What `Encoder::new` accepts, the library does, and it is not empty. -/
theorem Encoder.new_ok {dataShards parityShards : Nat} {encoder : Encoder crate}
    (accepted : Encoder.new crate dataShards parityShards = .ok encoder) :
    0 < dataShards ∧ 0 < parityShards ∧ crate.new dataShards parityShards = .ok encoder.rs ∧
      encoder.dataShards = dataShards ∧ encoder.parityShards = parityShards := by
  unfold Encoder.new at accepted
  split at accepted
  · contradiction
  · rename_i positive
    split at accepted
    · contradiction
    · rename_i rs made
      obtain rfl := Except.ok.inj accepted
      exact ⟨by omega, by omega, made, rfl, rfl⟩

/-- A block of equal shards is encoded to its parity, which completes it to a codeword. -/
theorem Encoder.encode_ok (documented : crate.Documented) {encoder : Encoder crate}
    (made : crate.new encoder.dataShards encoder.parityShards = .ok encoder.rs)
    (positive : 0 < encoder.dataShards) {data : List Bytes} {shardLen : Nat}
    (nonempty : 0 < shardLen) (shaped : data.length = encoder.dataShards)
    (sized : ∀ shard ∈ data, shard.length = shardLen) :
    ∃ parity, encoder.encode data = some (.ok parity) ∧ parity.length = encoder.parityShards ∧
      crate.Codeword encoder.rs (encoder.dataShards + encoder.parityShards) shardLen
        (data ++ parity) := by
  obtain ⟨first, rest, rfl⟩ := List.exists_cons_of_length_pos (shaped ▸ positive)
  have firstSized : first.length = shardLen := sized first List.mem_cons_self
  have allSized : (first :: rest).find? (fun shard => shard.length ≠ first.length) = none := by
    rw [List.find?_eq_none]
    intro shard listed
    simp [sized shard listed, firstSized]
  let shards := (first :: rest) ++
    List.replicate encoder.parityShards (List.replicate first.length 0)
  have total : shards.length = encoder.dataShards + encoder.parityShards := by
    rw [List.length_append, List.length_replicate, shaped]
  have equal : ∀ shard ∈ shards, shard.length = shardLen := by
    intro shard listed
    rcases List.mem_append.mp listed with inData | inParity
    · exact sized shard inData
    · rw [(List.mem_replicate.mp inParity).2, List.length_replicate, firstSized]
  obtain ⟨word, encoded, whole, kept⟩ := documented.encodes encoder.dataShards
    encoder.parityShards encoder.rs shards shardLen made total nonempty equal
  have front : word.take encoder.dataShards = first :: rest := by
    rw [kept, ← shaped, List.take_left]
  refine ⟨word.drop encoder.dataShards, ?_, ?_, shards, total, equal, ?_⟩
  · unfold Encoder.encode
    rw [if_neg (by simpa using shaped)]
    dsimp only [List.getElem?_cons_zero, Option.bind_eq_bind, Option.bind_some]
    rw [allSized]
    dsimp only
    rw [encoded]
  · rw [List.length_drop, whole, Nat.add_sub_cancel_left]
  · rw [encoded, ← front, List.take_append_drop]

/-- The decoder refuses slots from which too many shards are missing. -/
theorem Decoder.reconstructData_insufficient {decoder : Decoder crate} {slots : List (Option Bytes)}
    (shaped : slots.length = decoder.dataShards + decoder.parityShards)
    (few : present slots < decoder.dataShards) : decoder.reconstructData slots =
      (.error (.insufficientShards (present slots) decoder.dataShards), slots) := by
  unfold Decoder.reconstructData
  rw [if_neg (by simpa using shaped), if_pos few]

/-- From enough shards of a codeword the decoder restores its data shards. -/
theorem Decoder.reconstructData_ok (documented : crate.Documented) (decoder : Decoder crate)
    (made : crate.new decoder.dataShards decoder.parityShards = .ok decoder.rs) {shardLen : Nat}
    (nonempty : 0 < shardLen) {word : List Bytes} {slots : List (Option Bytes)}
    (codeword : crate.Codeword decoder.rs (decoder.dataShards + decoder.parityShards) shardLen word)
    (shaped : slots.length = decoder.dataShards + decoder.parityShards)
    (agrees : Agrees slots word) (enough : decoder.dataShards ≤ present slots) :
    ∃ after, decoder.reconstructData slots = (.ok (), after) ∧
      after.take decoder.dataShards = (word.take decoder.dataShards).map some := by
  obtain ⟨after, found, reconstructed, foundCodeword, foundAgrees, restored⟩ :=
    documented.reconstructs decoder.dataShards decoder.parityShards decoder.rs shardLen word slots
      made nonempty codeword agrees enough
  have separated := documented.separated decoder.dataShards decoder.parityShards decoder.rs
    shardLen made nonempty
  have same : word = found := separated.unique (by omega) codeword agrees foundCodeword foundAgrees
  refine ⟨after, ?_, by rw [restored, same]⟩
  unfold Decoder.reconstructData
  rw [if_neg (by simpa using shaped)]
  dsimp only
  rw [if_neg (by omega), reconstructed]

end

/-- Whatever block an encoder is made for, a decoder is made for it too. After the loss of any
shards of a block of nonempty shards of one length and its parity, the decoder restores all data
shards if no more are lost than there are parity shards; otherwise it reports that the shards are
insufficient and leaves the slots as they are. -/
theorem block_recovered (crate : ReedSolomonCrate) (documented : crate.Documented)
    (dataShards parityShards : Nat) (encoder : Encoder crate)
    (accepted : Encoder.new crate dataShards parityShards = .ok encoder) (data : List Bytes)
    (shardLen : Nat) (nonempty : 0 < shardLen) (shaped : data.length = dataShards)
    (sized : ∀ shard ∈ data, shard.length = shardLen) (lost : Finset ℕ)
    (within : ∀ position ∈ lost, position < dataShards + parityShards) :
    ∃ decoder parity, Decoder.new crate dataShards parityShards = .ok decoder ∧
      encoder.encode data = some (.ok parity) ∧ parity.length = parityShards ∧
      let slots := erase (fun position => position ∈ lost) (data ++ parity)
      (lost.card ≤ parityShards → ∃ after, decoder.reconstructData slots = (.ok (), after) ∧
        after.take dataShards = data.map some) ∧
      (parityShards < lost.card → decoder.reconstructData slots = (.error
        (.insufficientShards (dataShards + parityShards - lost.card) dataShards), slots)) := by
  obtain ⟨positive, _, made, rfl, rfl⟩ := Encoder.new_ok accepted
  obtain ⟨parity, encoded, counted, codeword⟩ :=
    Encoder.encode_ok documented made positive nonempty shaped sized
  have whole : (data ++ parity).length = encoder.dataShards + encoder.parityShards := by
    rw [List.length_append, shaped, counted]
  have left := present_erase (fun position => position ∈ lost) (data ++ parity)
  rw [whole, count_mem within] at left
  have total := (length_erase (fun position => position ∈ lost) (data ++ parity)).trans whole
  refine ⟨⟨encoder.rs, encoder.dataShards, encoder.parityShards⟩, parity, ?_, encoded, counted,
    fun few => ?_, fun many => ?_⟩
  · rw [Decoder.new, made]
  · obtain ⟨after, reconstructed, restored⟩ := Decoder.reconstructData_ok documented
      ⟨encoder.rs, encoder.dataShards, encoder.parityShards⟩ made nonempty codeword total
      (agrees_erase _ _) (by dsimp only; omega)
    refine ⟨after, reconstructed, ?_⟩
    rw [restored, ← shaped, List.take_left]
  · rw [Decoder.reconstructData_insufficient total (by dsimp only; omega)]
    dsimp only
    congr 3
    omega

/-! ## Two data shards -/

/-- The product in the field with 256 elements and the polynomial of the library. -/
def galoisMul (left right : UInt8) : UInt8 :=
  ([7, 6, 5, 4, 3, 2, 1, 0] : List UInt8).foldl (fun product bit =>
    (product <<< 1) ^^^ (if product < 128 then 0 else 0x1D) ^^^
      (if (right >>> bit) &&& 1 = 1 then left else 0)) 0

/-- The code with two data shards and one parity shard, whose bytes are three times those of the
first and twice those of the second. -/
def pairParity (first second : UInt8) : UInt8 := galoisMul 3 first ^^^ galoisMul 2 second

/-- The first byte, from the second and the parity: a third of what the second leaves of it. -/
def pairFirst (second parity : UInt8) : UInt8 := galoisMul 0xF4 (parity ^^^ galoisMul 2 second)

/-- The second, from the first and the parity: a half. -/
def pairSecond (first parity : UInt8) : UInt8 := galoisMul 0x8E (parity ^^^ galoisMul 3 first)

/-- The crate for this shape alone. -/
def pairCrate : ReedSolomonCrate where
  ReedSolomon := Unit
  new dataShards parityShards :=
    if dataShards = 2 ∧ parityShards = 1 then .ok () else .error "unsupported shape"
  encode _ shards :=
    match shards with
    | [first, second, _] => .ok [first, second, first.zipWith pairParity second]
    | _ => .error "wrong number of shards"
  reconstructData _ slots :=
    match slots with
    | [some first, some second, parity] => (.ok (), [some first, some second, parity])
    | [none, some second, some parity] =>
      (.ok (), [some (second.zipWith pairFirst parity), some second, some parity])
    | [some first, none, some parity] =>
      (.ok (), [some first, some (first.zipWith pairSecond parity), some parity])
    | _ => (.error "too few shards present", slots)

/-- Thirds and halves of bytes. -/
theorem galoisMul_inverse (byte : UInt8) :
    galoisMul 0xF4 (galoisMul 3 byte) = byte ∧ galoisMul 0x8E (galoisMul 2 byte) = byte := by
  have all : ∀ n : Fin 256,
      galoisMul 0xF4 (galoisMul 3 (.ofFin n)) = .ofFin n ∧
        galoisMul 0x8E (galoisMul 2 (.ofFin n)) = .ofFin n := by
    decide +kernel
  exact all byte.toFin

/-- The first byte is found again. -/
theorem pairFirst_parity (first second : UInt8) :
    pairFirst second (pairParity first second) = first := by
  rw [pairFirst, pairParity, UInt8.xor_assoc, UInt8.xor_self, UInt8.xor_zero]
  exact (galoisMul_inverse first).1

/-- The second byte is found again. -/
theorem pairSecond_parity (first second : UInt8) :
    pairSecond first (pairParity first second) = second := by
  rw [pairSecond, pairParity, UInt8.xor_comm (galoisMul 3 first), UInt8.xor_assoc, UInt8.xor_self,
    UInt8.xor_zero]
  exact (galoisMul_inverse second).2

/-- What is found byte by byte is found of a shard. -/
theorem zipWith_solve {combine solve : UInt8 → UInt8 → UInt8}
    (solves : ∀ left right, solve right (combine left right) = left) {left right : Bytes}
    (sized : left.length = right.length) :
    right.zipWith solve (left.zipWith combine right) = left := by
  induction left generalizing right with
  | nil =>
    rw [List.length_eq_zero_iff.mp sized.symm]
    rfl
  | cons byte left ih =>
    cases right with
    | nil => contradiction
    | cons other right =>
      rw [List.zipWith_cons_cons, List.zipWith_cons_cons, solves,
        ih (Nat.succ.inj sized)]

/-- A codeword is two shards of one length and their parity. -/
theorem pairCrate_codeword {total shardLen : Nat} {word : List Bytes}
    (codeword : pairCrate.Codeword () total shardLen word) :
    ∃ first second : Bytes, first.length = second.length ∧
      word = [first, second, first.zipWith pairParity second] := by
  obtain ⟨shards, counted, sized, encoded⟩ := codeword
  match shards, encoded with
  | [first, second, _], encoded =>
    obtain rfl := Except.ok.inj encoded
    exact ⟨first, second, (sized first (by simp)).trans (sized second (by simp)).symm, rfl⟩

/-- The crate makes the code of its shape. -/
theorem pairCrate_new {dataShards parityShards : Nat} {rs : pairCrate.ReedSolomon}
    (made : pairCrate.new dataShards parityShards = .ok rs) :
    dataShards = 2 ∧ parityShards = 1 := by
  have made : (if dataShards = 2 ∧ parityShards = 1 then Except.ok () else
      Except.error "unsupported shape") = Except.ok rs := made
  split at made
  · assumption
  · contradiction

/-- The first shard is found again. -/
theorem first_of_parity {first second : Bytes} (sized : first.length = second.length) :
    second.zipWith pairFirst (first.zipWith pairParity second) = first :=
  zipWith_solve pairFirst_parity sized

/-- The second shard is found again. -/
theorem second_of_parity {first second : Bytes} (sized : first.length = second.length) :
    first.zipWith pairSecond (first.zipWith pairParity second) = second := by
  have swapped : first.zipWith pairParity second =
      second.zipWith (fun right left => pairParity left right) first := List.zipWith_comm
  rw [swapped]
  exact zipWith_solve (fun left right => pairSecond_parity right left) sized.symm

/-- Two codewords differ in more than one shard. -/
theorem pairCrate_separated (total shardLen : Nat) :
    Separated 1 (pairCrate.Codeword () total shardLen) := by
  intro left right inCode otherInCode different
  obtain ⟨first, second, sized, rfl⟩ := pairCrate_codeword inCode
  obtain ⟨first', second', sized', rfl⟩ := pairCrate_codeword otherInCode
  rw [distance_cons, distance_cons, distance_cons]
  by_cases sameFirst : first = first'
  · subst sameFirst
    have apart : second ≠ second' := fun same => different (by rw [same])
    have parity : first.zipWith pairParity second ≠ first.zipWith pairParity second' := by
      intro same
      exact apart ((second_of_parity sized).symm.trans (same ▸ second_of_parity sized'))
    rw [if_neg apart, if_neg parity]
    omega
  · by_cases sameSecond : second = second'
    · subst sameSecond
      have parity : first.zipWith pairParity second ≠ first'.zipWith pairParity second := by
        intro same
        exact sameFirst ((first_of_parity sized).symm.trans (same ▸ first_of_parity sized'))
      rw [if_neg sameFirst, if_neg parity]
      omega
    · rw [if_neg sameFirst, if_neg sameSecond]
      omega

/-- The data shards of a codeword of which one shard is missing are found. -/
theorem pairCrate_reconstructs {first second : Bytes} (sized : first.length = second.length)
    {slots : List (Option Bytes)}
    (agrees : Agrees slots [first, second, first.zipWith pairParity second])
    (enough : 2 ≤ present slots) : ∃ after, pairCrate.reconstructData () slots = (.ok (), after) ∧
      after.take 2 = [some first, some second] := by
  match slots, agrees with
  | [_, _, _], .cons one (.cons two (.cons three .nil)) =>
    -- Fewer than two shards are too few.
    rcases one with rfl | rfl
    · rcases two with rfl | rfl
      · rcases three with rfl | rfl <;> simp [present] at enough
      · rcases three with rfl | rfl
        · simp [present] at enough
        · refine ⟨_, rfl, ?_⟩
          rw [first_of_parity sized]
          rfl
    · rcases two with rfl | rfl
      · rcases three with rfl | rfl
        · simp [present] at enough
        · refine ⟨_, rfl, ?_⟩
          rw [second_of_parity sized]
          rfl
      · exact ⟨_, rfl, rfl⟩

/-- The crate is as documented. -/
theorem pairCrate_documented : pairCrate.Documented where
  encodes dataShards parityShards rs shards shardLen made counted _ _ := by
    obtain ⟨rfl, rfl⟩ := pairCrate_new made
    match shards, counted with
    | [first, second, _], _ => exact ⟨_, rfl, rfl, rfl⟩
  separated dataShards parityShards rs shardLen made _ := by
    obtain ⟨rfl, rfl⟩ := pairCrate_new made
    exact pairCrate_separated _ shardLen
  reconstructs dataShards parityShards rs shardLen word slots made _ codeword agrees enough := by
    obtain ⟨rfl, rfl⟩ := pairCrate_new made
    obtain ⟨first, second, sized, rfl⟩ := pairCrate_codeword codeword
    obtain ⟨after, reconstructed, restored⟩ := pairCrate_reconstructs sized agrees enough
    exact ⟨after, _, reconstructed, codeword, agrees, restored⟩

/-- The encoder of this shape. -/
def pairEncoder : Encoder pairCrate :=
  { rs := (), dataShards := 2, parityShards := 1 }

/-- The first data shard is lost; the second and the parity restore it. -/
theorem pair_block_recovered : ∃ encoder, Encoder.new pairCrate 2 1 = .ok encoder ∧
    ∃ decoder parity, Decoder.new pairCrate 2 1 = .ok decoder ∧
      encoder.encode [[7, 8], [9, 200]] = some (.ok parity) ∧ ∃ after,
        decoder.reconstructData (erase (fun position => position ∈ ({0} : Finset ℕ))
          ([[7, 8], [9, 200]] ++ parity)) = (.ok (), after) ∧
        after.take 2 = [some [7, 8], some [9, 200]] := by
  obtain ⟨decoder, parity, made, encoded, _, recovers, _⟩ := block_recovered pairCrate
    pairCrate_documented 2 1 pairEncoder rfl [[7, 8], [9, 200]] 2 (by decide) rfl (by decide) {0}
    (by decide)
  exact ⟨pairEncoder, rfl, decoder, parity, made, encoded, recovers (by decide)⟩

end LowPing
