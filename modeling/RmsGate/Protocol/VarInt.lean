import Mathlib.Tactic.Ring

/-!
# VarInts of the status ping

`MCPingConn` frames its packets with the protocol's VarInt: seven bits a byte, lowest group
first, with the high bit set on every byte but the last.  `writeVarInt` takes an `int32` and
shifts it right arithmetically, so a negative value keeps its sign bit and never reaches 0;
`readVarInt` ORs each group into an `int32` at `shift` and gives up once `shift` reaches 35,
silently dropping the bits of a fifth byte that do not fit.
An `int32` is a `BitVec 32` here and a byte a `BitVec 8`.  `writeVarInt` loops until its value
is 0, so it takes the number of turns it may run as `fuel`; `readVarInt` reads from the
bytes still to come and returns those after the VarInt.
-/

namespace RmsGate.Protocol

/-- `writeVarInt`, with at most `fuel` turns of its loop: the bytes written, or `none` when the
loop has not ended by then. -/
def writeVarInt : Nat → BitVec 32 → Option (List (BitVec 8))
  | 0, _ => none
  | fuel + 1, value =>
      let b := (value &&& 0x7F#32).setWidth 8
      let value := value.sshiftRight 7
      let b := if value ≠ 0 then b ||| 0x80#8 else b
      if value = 0 then some [b] else (writeVarInt fuel value).map (b :: ·)

/-- The loop of `readVarInt` from `result` and `shift` on: the `int32` and the bytes after it,
or the error of the read. -/
def readVarIntLoop (result : BitVec 32) (shift : Nat) :
    List (BitVec 8) → Except String (BitVec 32 × List (BitVec 8))
  | [] => .error "EOF"
  | b :: rest =>
      let result := result ||| (b &&& 0x7F#8).setWidth 32 <<< shift
      if b &&& 0x80#8 = 0 then .ok (result, rest)
      else if 32 ≤ shift + 7 then .error "VarInt too big"
      else readVarIntLoop result (shift + 7) rest

def readVarInt (stream : List (BitVec 8)) : Except String (BitVec 32 × List (BitVec 8)) :=
  readVarIntLoop 0 0 stream

/-! ## The standard encoding -/

def varIntGroups : Nat → Nat → List (BitVec 8)
  | 0, _ => []
  | groups + 1, n =>
      if n < 128 then [BitVec.ofNat 8 n]
      else BitVec.ofNat 8 (n % 128 + 128) :: varIntGroups groups (n / 128)

/-- The protocol's VarInt of an `int32`: the standard encoding of its 32-bit pattern, five bytes
for a negative value. -/
def varInt (v : BitVec 32) : List (BitVec 8) := varIntGroups 5 v.toNat

theorem length_varIntGroups_le (groups n : Nat) : (varIntGroups groups n).length ≤ groups := by
  induction groups generalizing n with
  | zero => rfl
  | succ groups ih =>
      unfold varIntGroups
      split
      · simp
      · simpa using ih (n / 128)

theorem length_varInt_le (v : BitVec 32) : (varInt v).length ≤ 5 := length_varIntGroups_le 5 _

example : varInt 767#32 = [0xFF#8, 0x05#8] := by decide
example : varInt (-1#32) = [0xFF#8, 0xFF#8, 0xFF#8, 0xFF#8, 0x0F#8] := by decide

/-! ## Bytes and groups -/

theorem byte_and_mask (b : BitVec 8) : (b &&& 0x7F#8).toNat = b.toNat % 128 := by
  simpa using Nat.and_pow_two_sub_one_eq_mod b.toNat 7

theorem byte_continues_iff (b : BitVec 8) : b &&& 0x80#8 = 0 ↔ b.toNat < 128 := by
  have high : b.toNat.testBit 7 = decide (b.toNat / 2 ^ 7 % 2 = 1) := Nat.testBit_to_div_mod
  have := b.isLt
  rw [BitVec.toNat_eq, BitVec.toNat_and, show (0x80#8).toNat = 2 ^ 7 from rfl,
    show (0 : BitVec 8).toNat = 0 from rfl]
  constructor
  · intro zero
    have := congrArg (Nat.testBit · 7) zero
    simp only [Nat.testBit_and, Nat.testBit_two_pow_self, Bool.and_true, high,
      Nat.zero_testBit, decide_eq_false_iff_not] at this
    omega
  · intro lt
    apply Nat.eq_of_testBit_eq
    intro i
    rw [Nat.testBit_and, Nat.testBit_two_pow, Nat.zero_testBit]
    by_cases seven : i = 7
    · subst seven; simp [high]; omega
    · simp [Ne.symm seven]

theorem ofNat_byte_toNat {n : Nat} (lt : n < 256) : (BitVec.ofNat 8 n).toNat = n :=
  Nat.mod_eq_of_lt lt

theorem toNat_or_shiftLeft {r x : BitVec 32} {shift : Nat} (low : r.toNat < 2 ^ shift)
    (shift_le : shift ≤ 32) :
    (r ||| x <<< shift).toNat = (r.toNat + x.toNat * 2 ^ shift) % 2 ^ 32 := by
  obtain ⟨t, total⟩ : ∃ t, shift + t = 32 := ⟨32 - shift, by omega⟩
  have modulus : (2 : Nat) ^ 32 = 2 ^ shift * 2 ^ t := by rw [← Nat.pow_add, total]
  have split_x := Nat.mod_add_div x.toNat (2 ^ t)
  have bound : r.toNat + 2 ^ shift * (x.toNat % 2 ^ t) < 2 ^ shift * 2 ^ t := by
    have := Nat.mul_le_mul_left (2 ^ shift) (Nat.mod_lt x.toNat (Nat.two_pow_pos t))
    rw [Nat.mul_succ] at this
    omega
  rw [BitVec.toNat_or, BitVec.toNat_shiftLeft, Nat.shiftLeft_eq, modulus, Nat.mul_comm,
    Nat.mul_mod_mul_left, Nat.or_comm, ← Nat.mul_add_lt_is_or low, Nat.add_comm]
  conv_rhs => rw [← split_x, Nat.mul_add, ← Nat.add_assoc, ← Nat.mul_assoc,
    Nat.add_mul_mod_self_left, Nat.mod_eq_of_lt bound]

theorem toNat_lowGroup (value : BitVec 32) :
    ((value &&& 0x7F#32).setWidth 8).toNat = value.toNat % 128 := by
  rw [BitVec.toNat_setWidth, BitVec.toNat_and, show (0x7F#32).toNat = 2 ^ 7 - 1 from rfl,
    Nat.and_pow_two_sub_one_eq_mod]
  omega

theorem toNat_or_continuation {b : BitVec 8} (lt : b.toNat < 128) :
    (b ||| 0x80#8).toNat = b.toNat + 128 := by
  rw [BitVec.toNat_or, show (0x80#8).toNat = 2 ^ 7 * 1 from rfl, Nat.or_comm,
    ← Nat.mul_add_lt_is_or lt]
  omega

theorem toNat_accumulate {result : BitVec 32} {shift : Nat} (low : result.toNat < 2 ^ shift)
    (shift_le : shift ≤ 32) (b : BitVec 8) :
    (result ||| (b &&& 0x7F#8).setWidth 32 <<< shift).toNat =
      (result.toNat + b.toNat % 128 * 2 ^ shift) % 2 ^ 32 := by
  rw [toNat_or_shiftLeft low shift_le, BitVec.toNat_setWidth, byte_and_mask,
    Nat.mod_eq_of_lt (by omega : b.toNat % 128 < 2 ^ 32)]

/-! ## The writer -/

theorem toNat_sshiftRight_seven {value : BitVec 32} (nonneg : value.msb = false) :
    (value.sshiftRight 7).toNat = value.toNat / 128 := by
  rw [BitVec.sshiftRight_eq_of_msb_false nonneg, BitVec.toNat_ushiftRight,
    Nat.shiftRight_eq_div_pow]

theorem writeVarInt_succ {value : BitVec 32} (nonneg : value.msb = false) (fuel : Nat) :
    writeVarInt (fuel + 1) value =
      if value.toNat < 128 then some [BitVec.ofNat 8 value.toNat]
      else (writeVarInt fuel (value.sshiftRight 7)).map
        (BitVec.ofNat 8 (value.toNat % 128 + 128) :: ·) := by
  have shifted := toNat_sshiftRight_seven nonneg
  have zero_iff : value.sshiftRight 7 = 0#32 ↔ value.toNat < 128 := by
    rw [BitVec.toNat_eq, shifted, BitVec.toNat_ofNat]
    omega
  have low : (value &&& 0x7F#32).setWidth 8 = BitVec.ofNat 8 (value.toNat % 128) := by
    rw [BitVec.toNat_eq, toNat_lowGroup, BitVec.toNat_ofNat]
    omega
  simp only [writeVarInt, low]
  by_cases small : value.toNat < 128
  · simp [zero_iff.mpr small, small, Nat.mod_eq_of_lt small]
  · have continued : BitVec.ofNat 8 (value.toNat % 128) ||| 0x80#8 =
        BitVec.ofNat 8 (value.toNat % 128 + 128) := by
      rw [BitVec.toNat_eq, toNat_or_continuation (by rw [ofNat_byte_toNat (by omega)]; omega),
        ofNat_byte_toNat (by omega), ofNat_byte_toNat (by omega)]
    simp [mt zero_iff.mp small, small, continued]

/-- On a non-negative value below `128 ^ (k + 1)`, `writeVarInt` ends within `k + 1` turns and
writes the standard encoding. -/
theorem writeVarInt_of_msb_false (k : Nat) :
    ∀ {value : BitVec 32} {fuel : Nat}, value.msb = false → value.toNat < 128 ^ (k + 1) →
      k < fuel → writeVarInt fuel value = some (varIntGroups (k + 1) value.toNat) := by
  induction k with
  | zero =>
      intro value fuel nonneg small enough
      obtain ⟨fuel, rfl⟩ : ∃ f, fuel = f + 1 := ⟨fuel - 1, by omega⟩
      have small : value.toNat < 128 := by simpa using small
      rw [writeVarInt_succ nonneg, if_pos small, varIntGroups, if_pos small]
  | succ k ih =>
      intro value fuel nonneg small enough
      obtain ⟨fuel, rfl⟩ : ∃ f, fuel = f + 1 := ⟨fuel - 1, by omega⟩
      have shifted := toNat_sshiftRight_seven nonneg
      rw [writeVarInt_succ nonneg, varIntGroups]
      split
      · rfl
      · rw [ih (by rw [BitVec.msb_sshiftRight, nonneg])
          (by rw [shifted, Nat.div_lt_iff_lt_mul (by decide), ← Nat.pow_succ]; exact small)
          (by omega), shifted]
        rfl

/-- A negative value keeps its sign bit under the arithmetic shift, so it never reaches 0. -/
theorem writeVarInt_of_msb_true {v : BitVec 32} (negative : v.msb = true) (fuel : Nat) :
    writeVarInt fuel v = none := by
  induction fuel generalizing v with
  | zero => rfl
  | succ fuel ih =>
      have sign : (v.sshiftRight 7).msb = true := by rw [BitVec.msb_sshiftRight, negative]
      have nonzero : v.sshiftRight 7 ≠ 0#32 := fun zero => by simp [zero] at sign
      simp [writeVarInt, nonzero, ih sign]

/-- On a negative `int32` the loop of `writeVarInt` never ends, however long it runs. -/
theorem writeVarInt_never_ends_of_negative (v : BitVec 32) (negative : v.msb = true) :
    ∀ fuel, writeVarInt fuel v = none :=
  writeVarInt_of_msb_true negative

theorem writeVarInt_minus_one_never_ends :
    (-1#32).msb = true ∧ ∀ fuel, writeVarInt fuel (-1#32) = none :=
  ⟨by decide, writeVarInt_never_ends_of_negative (-1#32) (by decide)⟩

/-! ## The reader -/

theorem readVarIntLoop_cons (result : BitVec 32) (shift : Nat) (b : BitVec 8)
    (rest : List (BitVec 8)) :
    readVarIntLoop result shift (b :: rest) =
      if b.toNat < 128 then .ok (result ||| (b &&& 0x7F#8).setWidth 32 <<< shift, rest)
      else if 32 ≤ shift + 7 then .error "VarInt too big"
      else readVarIntLoop (result ||| (b &&& 0x7F#8).setWidth 32 <<< shift) (shift + 7) rest := by
  simp only [readVarIntLoop, byte_continues_iff]

theorem readVarIntLoop_last {n : Nat} (small : n < 128) {result : BitVec 32} {shift : Nat}
    (low : result.toNat < 2 ^ shift) (shift_le : shift ≤ 32) (rest : List (BitVec 8)) :
    readVarIntLoop result shift (BitVec.ofNat 8 n :: rest) =
      .ok (BitVec.ofNat 32 (result.toNat + n * 2 ^ shift), rest) := by
  have byte := ofNat_byte_toNat (n := n) (by omega)
  have read : result ||| (BitVec.ofNat 8 n &&& 0x7F#8).setWidth 32 <<< shift =
      BitVec.ofNat 32 (result.toNat + n * 2 ^ shift) := by
    rw [BitVec.toNat_eq, toNat_accumulate low shift_le, byte, BitVec.toNat_ofNat,
      Nat.mod_eq_of_lt small]
  rw [readVarIntLoop_cons, byte, if_pos small, read]

theorem readVarIntLoop_varIntGroups (k : Nat) :
    ∀ (n : Nat) (result : BitVec 32) (shift : Nat) (rest : List (BitVec 8)),
      n < 128 ^ (k + 1) → shift + 7 * k ≤ 28 → result.toNat < 2 ^ shift →
      readVarIntLoop result shift (varIntGroups (k + 1) n ++ rest) =
        .ok (BitVec.ofNat 32 (result.toNat + n * 2 ^ shift), rest) := by
  induction k with
  | zero =>
      intro n result shift rest small fits low
      have small : n < 128 := by simpa using small
      rw [varIntGroups, if_pos small]
      exact readVarIntLoop_last small low (by omega) rest
  | succ k ih =>
      intro n result shift rest small fits low
      rw [varIntGroups]
      split
      · exact readVarIntLoop_last ‹_› low (by omega) rest
      · have byte := ofNat_byte_toNat (n := n % 128 + 128) (by omega)
        have group : n % 128 * 2 ^ shift ≤ 127 * 2 ^ shift :=
          Nat.mul_le_mul_right _ (by omega)
        have room : result.toNat + n % 128 * 2 ^ shift < 2 ^ (shift + 7) := by
          rw [Nat.pow_add]
          omega
        have within : 2 ^ (shift + 7) ≤ 2 ^ 32 := Nat.pow_le_pow_right (by decide) (by omega)
        have step : (result ||| (BitVec.ofNat 8 (n % 128 + 128) &&& 0x7F#8).setWidth 32 <<<
            shift).toNat = result.toNat + n % 128 * 2 ^ shift := by
          rw [toNat_accumulate low (by omega), byte, Nat.add_mod_right, Nat.mod_mod]
          exact Nat.mod_eq_of_lt (by omega)
        rw [List.cons_append, readVarIntLoop_cons, byte, if_neg (by omega), if_neg (by omega),
          ih (n / 128) _ (shift + 7) rest
            (by rw [Nat.div_lt_iff_lt_mul (by decide), ← Nat.pow_succ]; exact small)
            (by omega) (by rw [step]; exact room), step]
        have sum : result.toNat + n % 128 * 2 ^ shift + n / 128 * 2 ^ (shift + 7) =
            result.toNat + n * 2 ^ shift := by
          conv_rhs => rw [← Nat.mod_add_div n 128]
          ring
        rw [sum]

theorem readVarInt_varInt (v : BitVec 32) (rest : List (BitVec 8)) :
    readVarInt (varInt v ++ rest) = .ok (v, rest) := by
  have := readVarIntLoop_varIntGroups 4 v.toNat 0 0 rest (by have := v.isLt; omega)
    (by decide) (by decide)
  simpa [readVarInt, varInt] using this

/-- A run of the loop that may take at most `n + 1` more turns reads only the first `n + 1`
bytes of the stream: the rest is handed back untouched. -/
theorem readVarIntLoop_take (stream : List (BitVec 8)) :
    ∀ (result : BitVec 32) (shift n : Nat), 32 ≤ shift + 7 * (n + 1) →
      readVarIntLoop result shift stream =
        (readVarIntLoop result shift (stream.take (n + 1))).map
          fun read => (read.1, read.2 ++ stream.drop (n + 1)) := by
  induction stream with
  | nil => intros; rfl
  | cons b rest ih =>
      intro result shift n bound
      rw [List.take_succ_cons, List.drop_succ_cons, readVarIntLoop_cons, readVarIntLoop_cons]
      split_ifs with stop tooBig
      · simp [Except.map]
      · rfl
      · obtain ⟨m, rfl⟩ : ∃ m, n = m + 1 := ⟨n - 1, by omega⟩
        exact ih _ _ m (by omega)

/-! ## What the protocol relies on -/

/-- `readVarInt` decodes the standard VarInt of every `int32`, negative ones included, and stops
right after its at most five bytes. -/
theorem readVarInt_decodes_every_int32 (v : BitVec 32) (rest : List (BitVec 8)) :
    (varInt v).length ≤ 5 ∧ readVarInt (varInt v ++ rest) = .ok (v, rest) :=
  ⟨length_varInt_le v, readVarInt_varInt v rest⟩

theorem writeVarInt_of_nonneg {v : BitVec 32} (nonneg : v.msb = false) {fuel : Nat}
    (enough : 5 ≤ fuel) : writeVarInt fuel v = some (varInt v) :=
  writeVarInt_of_msb_false 4 nonneg (by have := v.isLt; omega) (by omega)

/-- On a non-negative `int32`, `writeVarInt` ends within five turns, having written the standard
encoding, which `readVarInt` reads back. -/
theorem varInt_round_trip_of_nonneg (v : BitVec 32) (nonneg : v.msb = false) (fuel : Nat)
    (enough : 5 ≤ fuel) :
    writeVarInt fuel v = some (varInt v) ∧ (varInt v).length ≤ 5 ∧
      ∀ rest, readVarInt (varInt v ++ rest) = .ok (v, rest) :=
  ⟨writeVarInt_of_nonneg nonneg enough, length_varInt_le v, readVarInt_varInt v⟩

theorem varInt_round_trip_protocol_version :
    (767#32).msb = false ∧ 5 ≤ 5 ∧
      (writeVarInt 5 767#32 = some (varInt 767#32) ∧ (varInt 767#32).length ≤ 5 ∧
        ∀ rest, readVarInt (varInt 767#32 ++ rest) = .ok (767#32, rest)) :=
  ⟨by decide, le_refl 5, varInt_round_trip_of_nonneg 767#32 (by decide) 5 (le_refl 5)⟩

/-- `readVarInt` reads at most five bytes of any stream before it returns or fails: its outcome
is that on the first five bytes, with the remaining bytes handed back. -/
theorem readVarInt_reads_at_most_five (stream : List (BitVec 8)) :
    readVarInt stream =
      (readVarInt (stream.take 5)).map fun read => (read.1, read.2 ++ stream.drop 5) :=
  readVarIntLoop_take stream 0#32 0 4 (by decide)

end RmsGate.Protocol
