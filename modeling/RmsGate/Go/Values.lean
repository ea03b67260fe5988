import Mathlib.Data.Rat.Floor

/-!
# Go machine values

The load balancer keeps its counters in `atomic.Int32`, its round-robin counter in an
`atomic.Uint64`, and computes scores in `float64`.  An `int32` is kept here as its
integer value: every conversion `int32(x)` and every atomic `Add` wraps it back into the
signed 32-bit range; an `int` likewise wraps into 64 bits, and dividing one by zero panics.
`int(x)` of a `float64` truncates toward zero; the rounding of `float64` arithmetic is the
module `Float`.
-/

namespace RmsGate.Go

/-- `int32(x)`, and the result of an `atomic.Int32` addition: two's-complement wrap. -/
def toInt32 (x : Int) : Int := Int.bmod x (2 ^ 32)

theorem toInt32_of_range {x : Int} (lower : -2 ^ 31 ≤ x) (upper : x < 2 ^ 31) :
    toInt32 x = x := by
  rw [toInt32, Int.bmod_def]
  split <;> omega

theorem toInt32_le_of_pos {x : Int} (pos : 0 < x) : toInt32 x ≤ x := by
  rw [toInt32, Int.bmod_def]
  split <;> omega

theorem toInt32_lt (x : Int) : toInt32 x < 2 ^ 31 := by
  have := Int.bmod_lt (x := x) (m := 2 ^ 32) (by decide)
  simpa [toInt32] using this

theorem le_toInt32 (x : Int) : -2 ^ 31 ≤ toInt32 x := by
  have := Int.le_bmod (x := x) (m := 2 ^ 32) (by decide)
  simpa [toInt32] using this

theorem toInt32_add_one {x : Int} (lower : -2 ^ 31 ≤ x) (upper : x + 1 < 2 ^ 31) :
    toInt32 (x + 1) = x + 1 :=
  toInt32_of_range (by omega) upper

/-- `int64(x)`, and the result of `int` arithmetic on a 64-bit platform: two's-complement
wrap. -/
def toInt64 (x : Int) : Int := Int.bmod x (2 ^ 64)

theorem toInt64_of_range {x : Int} (lower : -2 ^ 63 ≤ x) (upper : x < 2 ^ 63) :
    toInt64 x = x := by
  rw [toInt64, Int.bmod_def]
  split <;> omega

/-- Go's integer `/` on `int`: truncated toward zero, and a run-time panic when the divisor is
zero. -/
def intDiv (a b : Int) : Option Int := if b = 0 then none else some (toInt64 (a.tdiv b))

theorem intDiv_isSome_iff (a b : Int) : (intDiv a b).isSome ↔ b ≠ 0 := by
  unfold intDiv; split <;> simp_all

/-- `int(x)` of a `float64`: truncation toward zero. -/
def truncate (x : ℚ) : Int := x.num.tdiv x.den

theorem truncate_of_nonneg {x : ℚ} (nonneg : 0 ≤ x) : truncate x = ⌊x⌋ := by
  rw [truncate, Rat.floor_def, Int.tdiv_eq_ediv (Rat.num_nonneg.mpr nonneg) (by positivity)]

theorem le_truncate {x : ℚ} {n : Int} (nonneg : 0 ≤ n) (le : (n : ℚ) ≤ x) :
    n ≤ truncate x := by
  rw [truncate_of_nonneg (le_trans (by exact_mod_cast nonneg) le)]
  exact Int.le_floor.mpr le

theorem truncate_mono {x y : ℚ} (nonneg : 0 ≤ x) (le : x ≤ y) :
    truncate x ≤ truncate y := by
  rw [truncate_of_nonneg nonneg, truncate_of_nonneg (nonneg.trans le)]
  exact Int.floor_mono le

theorem truncate_nonneg {x : ℚ} (nonneg : 0 ≤ x) : 0 ≤ truncate x :=
  le_truncate le_rfl (by exact_mod_cast nonneg)

theorem truncate_eq_of_le_of_lt {x : ℚ} {n : Int} (nonneg : 0 ≤ n) (le : (n : ℚ) ≤ x)
    (lt : x < n + 1) : truncate x = n := by
  rw [truncate_of_nonneg (le_trans (by exact_mod_cast nonneg) le)]
  exact Int.floor_eq_iff.mpr ⟨le, lt⟩

@[simp] theorem truncate_intCast (n : Int) : truncate n = n := by
  simp [truncate]

/-- `time.Duration.Milliseconds`: nanoseconds divided by `10^6`, truncated toward zero. -/
def milliseconds (nanos : Int) : Int := nanos.tdiv 1000000

theorem milliseconds_nonneg {nanos : Int} (nonneg : 0 ≤ nanos) : 0 ≤ milliseconds nanos :=
  Int.tdiv_nonneg nonneg (by decide)

end RmsGate.Go
