import RmsGate.Go.Values
import Mathlib.Data.Int.Log

/-!
# float64 arithmetic

A `float64` is kept as its value.  Each operation of the scores is its exact result rounded to
the nearest `float64`, ties to the even significand: in the binade `[2^e, 2^(e+1))` the `float64`
values are the multiples of `2^(e-52)`, and below `2^-1022` those of `2^-1074`.  No value here
comes near `2^1024`, where `float64` overflows.
-/

namespace RmsGate.Go

def roundHalfEven (y : ℚ) : Int :=
  if y - ⌊y⌋ < 1 / 2 then ⌊y⌋
  else if 1 / 2 < y - ⌊y⌋ then ⌊y⌋ + 1
  else if ⌊y⌋ % 2 = 0 then ⌊y⌋ else ⌊y⌋ + 1

def roundTo (k : Int) (x : ℚ) : ℚ := roundHalfEven (x * 2 ^ k) / 2 ^ k

/-- The `float64` values around `x ≠ 0` are the multiples of `2^-(gridExp x)`. -/
def gridExp (x : ℚ) : Int := min (52 - Int.log 2 |x|) 1074

/-- `x` rounded to a `float64`. -/
def f64 (x : ℚ) : ℚ := if x = 0 then 0 else roundTo (gridExp x) x

/-! ## Rounding to one grid -/

theorem roundHalfEven_cases (y : ℚ) :
    (roundHalfEven y = ⌊y⌋ ∧ y - ⌊y⌋ ≤ 1 / 2 ∧ (y - ⌊y⌋ = 1 / 2 → ⌊y⌋ % 2 = 0)) ∨
      (roundHalfEven y = ⌊y⌋ + 1 ∧ 1 / 2 ≤ y - ⌊y⌋ ∧ (y - ⌊y⌋ = 1 / 2 → ⌊y⌋ % 2 ≠ 0)) := by
  unfold roundHalfEven
  split_ifs with below above even
  · exact .inl ⟨rfl, below.le, fun tie => absurd below (by rw [tie]; norm_num)⟩
  · exact .inr ⟨rfl, above.le, fun tie => absurd above (by rw [tie]; norm_num)⟩
  · exact .inl ⟨rfl, not_lt.mp above, fun _ => even⟩
  · exact .inr ⟨rfl, not_lt.mp below, fun _ => even⟩

theorem roundHalfEven_mono {y y' : ℚ} (le : y ≤ y') : roundHalfEven y ≤ roundHalfEven y' := by
  have floors : ⌊y⌋ ≤ ⌊y'⌋ := Int.floor_mono le
  rcases roundHalfEven_cases y with ⟨eq, -, -⟩ | ⟨eq, above, odd⟩ <;>
    rcases roundHalfEven_cases y' with ⟨eq', below', even'⟩ | ⟨eq', -, -⟩ <;> rw [eq, eq']
  · exact floors
  · omega
  · rcases floors.lt_or_eq with lt | same
    · omega
    · rw [← same] at below' even'
      have tie : y - ⌊y⌋ = 1 / 2 := le_antisymm (by linarith) above
      exact absurd (even' (le_antisymm below' (by linarith))) (odd tie)
  · omega

theorem roundHalfEven_intCast (m : Int) : roundHalfEven m = m := by
  simp [roundHalfEven]

theorem roundHalfEven_of_near {y : ℚ} {m : Int} (near : |y - m| < 1 / 2) : roundHalfEven y = m := by
  obtain ⟨lower, upper⟩ := abs_lt.mp near
  rcases le_or_lt (m : ℚ) y with above | below
  · have floor : ⌊y⌋ = m := Int.floor_eq_iff.mpr ⟨above, by linarith⟩
    simp only [roundHalfEven, floor]
    rw [if_pos (by linarith)]
  · have floor : ⌊y⌋ = m - 1 := Int.floor_eq_iff.mpr ⟨by push_cast; linarith, by push_cast; linarith⟩
    simp only [roundHalfEven, floor, Int.cast_sub, Int.cast_one]
    rw [if_neg (by linarith), if_pos (by linarith), sub_add_cancel]

theorem roundTo_mono (k : Int) {x y : ℚ} (le : x ≤ y) : roundTo k x ≤ roundTo k y := by
  have pos : (0 : ℚ) < 2 ^ k := zpow_pos (by norm_num) k
  exact div_le_div_of_nonneg_right
    (Int.cast_le.mpr (roundHalfEven_mono (mul_le_mul_of_nonneg_right le pos.le))) pos.le

theorem roundTo_of_mul {k : Int} {s : ℚ} {m : Int} (onGrid : s * 2 ^ k = m) : roundTo k s = s := by
  have pos : (0 : ℚ) < 2 ^ k := zpow_pos (by norm_num) k
  rw [roundTo, onGrid, roundHalfEven_intCast, ← onGrid, mul_div_cancel_right₀ _ pos.ne']

theorem roundTo_zero (k : Int) : roundTo k 0 = 0 := roundTo_of_mul (m := 0) (by simp)

theorem two_zpow_mul_of_nonneg {a b : Int} (nonneg : 0 ≤ a + b) :
    (2 : ℚ) ^ a * 2 ^ b = ((2 ^ (a + b).toNat : Nat) : Int) := by
  rw [← zpow_add₀ (by norm_num), ← Int.toNat_of_nonneg nonneg]
  push_cast
  rw [Int.toNat_of_nonneg nonneg, ← zpow_natCast, Int.toNat_of_nonneg nonneg]

/-! ## The grid of a value -/

theorem log_abs_bounds {x : ℚ} (nonzero : x ≠ 0) :
    (2 : ℚ) ^ Int.log 2 |x| ≤ |x| ∧ |x| < 2 ^ (Int.log 2 |x| + 1) := by
  have lower := Int.zpow_log_le_self (b := 2) (by norm_num) (abs_pos.mpr nonzero)
  have upper := Int.lt_zpow_succ_log_self (b := 2) (by norm_num) |x|
  push_cast at lower upper
  exact ⟨lower, upper⟩

theorem f64_of_ne {x : ℚ} (nonzero : x ≠ 0) : f64 x = roundTo (gridExp x) x := if_neg nonzero

@[simp] theorem f64_zero : f64 0 = 0 := if_pos rfl

theorem f64_nonneg {x : ℚ} (nonneg : 0 ≤ x) : 0 ≤ f64 x := by
  rcases nonneg.eq_or_lt with zero | pos
  · rw [← zero, f64_zero]
  · rw [f64_of_ne pos.ne', ← roundTo_zero (gridExp x)]
    exact roundTo_mono _ pos.le

theorem f64_nonpos {x : ℚ} (nonpos : x ≤ 0) : f64 x ≤ 0 := by
  rcases nonpos.eq_or_lt with zero | neg
  · rw [zero, f64_zero]
  · rw [f64_of_ne neg.ne, ← roundTo_zero (gridExp x)]
    exact roundTo_mono _ neg.le

/-- Two values of the same sign on different grids: the power of two that starts the binade of
the larger magnitude separates them, and it lies on both grids. -/
theorem roundTo_separated {x y s : ℚ} {kx ky : Int} (below : x ≤ s) (above : s ≤ y)
    {mx my : Int} (onX : s * 2 ^ kx = mx) (onY : s * 2 ^ ky = my) :
    roundTo kx x ≤ roundTo ky y :=
  calc roundTo kx x ≤ roundTo kx s := roundTo_mono kx below
    _ = roundTo ky s := by rw [roundTo_of_mul onX, roundTo_of_mul onY]
    _ ≤ roundTo ky y := roundTo_mono ky above

theorem grids_of_lt {x y : ℚ} (nonzero : x ≠ 0) (le : |x| ≤ |y|) (differ : gridExp x ≠ gridExp y) :
    |x| < 2 ^ Int.log 2 |y| ∧ 2 ^ Int.log 2 |y| ≤ |y| ∧
      0 ≤ Int.log 2 |y| + gridExp x ∧ 0 ≤ Int.log 2 |y| + gridExp y := by
  have logs : Int.log 2 |x| ≤ Int.log 2 |y| := Int.log_mono_right (abs_pos.mpr nonzero) le
  have yNonzero : y ≠ 0 := abs_pos.mp (lt_of_lt_of_le (abs_pos.mpr nonzero) le)
  have strict : Int.log 2 |x| < Int.log 2 |y| := by
    refine lt_of_le_of_ne logs fun same => differ ?_
    rw [gridExp, gridExp, same]
  have xBelow : |x| < 2 ^ Int.log 2 |y| :=
    lt_of_lt_of_le (log_abs_bounds nonzero).2 (zpow_le_zpow_right₀ (by norm_num) strict)
  refine ⟨xBelow, (log_abs_bounds yNonzero).1, ?_, ?_⟩ <;> unfold gridExp at differ ⊢ <;> omega

/-- **Rounding is monotone.** -/
theorem f64_mono {x y : ℚ} (le : x ≤ y) : f64 x ≤ f64 y := by
  rcases lt_trichotomy x 0 with xNeg | rfl | xPos
  · rcases lt_or_le y 0 with yNeg | yNonneg
    · rw [f64_of_ne xNeg.ne, f64_of_ne yNeg.ne]
      by_cases same : gridExp y = gridExp x
      · rw [same]
        exact roundTo_mono _ le
      · have absLe : |y| ≤ |x| := by rw [abs_of_neg xNeg, abs_of_neg yNeg]; linarith
        obtain ⟨yBelow, xAbove, onY, onX⟩ := grids_of_lt yNeg.ne absLe same
        have xAbs : |x| = -x := abs_of_neg xNeg
        have yAbs : |y| = -y := abs_of_neg yNeg
        refine @roundTo_separated _ _ (-2 ^ Int.log 2 |x|) _ _ (by linarith) (by linarith)
          (-((2 ^ (Int.log 2 |x| + gridExp x).toNat : Nat) : Int))
          (-((2 ^ (Int.log 2 |x| + gridExp y).toNat : Nat) : Int)) ?_ ?_
        · rw [neg_mul, two_zpow_mul_of_nonneg onX, Int.cast_neg]
        · rw [neg_mul, two_zpow_mul_of_nonneg onY, Int.cast_neg]
    · exact (f64_nonpos xNeg.le).trans (f64_nonneg yNonneg)
  · exact f64_zero ▸ f64_nonneg le
  · have yPos := lt_of_lt_of_le xPos le
    rw [f64_of_ne xPos.ne', f64_of_ne yPos.ne']
    by_cases same : gridExp x = gridExp y
    · rw [same]
      exact roundTo_mono _ le
    · have absLe : |x| ≤ |y| := by rw [abs_of_pos xPos, abs_of_pos yPos]; exact le
      obtain ⟨xBelow, yAbove, onX, onY⟩ := grids_of_lt xPos.ne' absLe same
      have xAbs : |x| = x := abs_of_pos xPos
      have yAbs : |y| = y := abs_of_pos yPos
      exact roundTo_separated (by linarith) (by linarith) (two_zpow_mul_of_nonneg onX)
        (two_zpow_mul_of_nonneg onY)

/-- **A `float64` is its own rounding**: a multiple of `2^-j` below `2^53` of them, for
`j ≤ 1074`. -/
theorem f64_of_mul {x : ℚ} {j m : Int} (onGrid : x * 2 ^ j = m) (small : |m| < 2 ^ 53)
    (fine : j ≤ 1074) : f64 x = x := by
  rcases eq_or_ne x 0 with zero | nonzero
  · rw [zero, f64_zero]
  have pos : (0 : ℚ) < 2 ^ j := zpow_pos (by norm_num) j
  have magnitude : |x| < 2 ^ (53 - j) := by
    have : |x| * 2 ^ j < 2 ^ 53 := by
      rw [← abs_of_pos pos, ← abs_mul, onGrid]
      exact_mod_cast small
    rw [zpow_sub₀ (by norm_num), lt_div_iff₀ pos]
    exact_mod_cast this
  have log : Int.log 2 |x| < 53 - j :=
    (Int.lt_zpow_iff_log_lt (b := 2) (by norm_num) (abs_pos.mpr nonzero)).mp (by exact_mod_cast magnitude)
  have finer : j ≤ gridExp x := by unfold gridExp; omega
  rw [f64_of_ne nonzero]
  refine roundTo_of_mul (m := m * ((2 ^ (gridExp x - j).toNat : Nat) : Int)) ?_
  have power : (((2 ^ (gridExp x - j).toNat : Nat) : Int) : ℚ) = 2 ^ (gridExp x - j) := by
    push_cast
    rw [← zpow_natCast, Int.toNat_of_nonneg (by omega)]
  rw [Int.cast_mul, power, ← onGrid, mul_assoc, ← zpow_add₀ (by norm_num), add_sub_cancel]

theorem f64_intCast {n : Int} (small : |n| < 2 ^ 53) : f64 n = n :=
  f64_of_mul (j := 0) (by simp) small (by norm_num)

theorem f64_natCast {n : Nat} (small : n < 2 ^ 53) : f64 n = n := by
  have := f64_intCast (n := n) (by rw [abs_of_nonneg (by positivity)]; exact_mod_cast small)
  exact_mod_cast this

@[simp] theorem f64_ofNat (n : Nat) [n.AtLeastTwo] (small : n < 2 ^ 53) :
    f64 (no_index (OfNat.ofNat n : ℚ)) = OfNat.ofNat n :=
  f64_natCast small

@[simp] theorem f64_one : f64 1 = 1 := by exact_mod_cast f64_natCast (n := 1) (by norm_num)

theorem f64_half : f64 (1 / 2) = 1 / 2 :=
  f64_of_mul (j := 1) (m := 1) (by norm_num) (by norm_num) (by norm_num)

theorem le_f64_of_le {lower x : ℚ} (fixed : f64 lower = lower) (le : lower ≤ x) :
    lower ≤ f64 x :=
  fixed ▸ f64_mono le

theorem f64_le_of_le {x upper : ℚ} (fixed : f64 upper = upper) (le : x ≤ upper) :
    f64 x ≤ upper :=
  fixed ▸ f64_mono le

/-- **The nearest `float64`** to `x` in the binade `[2^e, 2^(e+1))`, for `-1022 ≤ e`. -/
theorem f64_of_near {x : ℚ} {e m : Int} (lower : 2 ^ e ≤ x) (upper : x < 2 ^ (e + 1))
    (normal : -1022 ≤ e) (near : |x * 2 ^ (52 - e) - m| < 1 / 2) : f64 x = m / 2 ^ (52 - e) := by
  have pos : 0 < x := lt_of_lt_of_le (zpow_pos (by norm_num) e) lower
  have log : Int.log 2 |x| = e := by
    rw [abs_of_pos pos]
    refine le_antisymm ?_ ?_
    · have := (Int.lt_zpow_iff_log_lt (b := 2) (by norm_num) pos).mp (by exact_mod_cast upper)
      omega
    · exact (Int.zpow_le_iff_le_log (b := 2) (by norm_num) pos).mp (by exact_mod_cast lower)
  have grid : gridExp x = 52 - e := by unfold gridExp; omega
  rw [f64_of_ne pos.ne', roundTo, grid, roundHalfEven_of_near near]

/-! ## Square roots -/

/-- `math.Sqrt` of a non-negative value: the `float64` nearest to the square root, ties to
even, found from the integer square root on the grid of the root's binade. -/
def sqrt (x : ℚ) : ℚ :=
  if x ≤ 0 then 0
  else
    let k := min (52 - Int.log 2 x / 2) 1074
    let y := x * 4 ^ k
    let n := Nat.sqrt ⌊y⌋₊
    let half : ℚ := (n + 1 / 2) ^ 2
    let m := if y < half then n else if half < y then n + 1 else if n % 2 = 0 then n else n + 1
    m / 2 ^ k

theorem sqrt_nonneg (x : ℚ) : 0 ≤ sqrt x := by
  unfold sqrt
  split
  · exact le_rfl
  · exact div_nonneg (by positivity) (zpow_pos (by norm_num) _).le

end RmsGate.Go
