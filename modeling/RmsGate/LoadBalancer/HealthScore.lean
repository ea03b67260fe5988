import RmsGate.LoadBalancer.Strategy
import Mathlib.Algebra.Order.BigOperators.Group.List

/-!
# The health-score strategy

The score of a backend is relative to the best available peer: the backend with the least
positive average latency earns all 40 latency points.  With trust at least one half, it
scores at least 15 before the historical adjustment, which is at least -12, so the scan,
which starts from -1, always picks some backend.
-/

namespace RmsGate.LoadBalancer

open RmsGate.Go

/-! ## The reference values -/

theorem minPositiveStep_cases (least v : ℚ) :
    (0 < v ∧ (least < 0 ∨ v < least) ∧ minPositiveStep least v = v) ∨
      (¬(0 < v ∧ (least < 0 ∨ v < least)) ∧ minPositiveStep least v = least) := by
  unfold minPositiveStep
  by_cases taken : 0 < v ∧ (least < 0 ∨ v < least)
  · exact .inl ⟨taken.1, taken.2, if_pos taken⟩
  · exact .inr ⟨taken, if_neg taken⟩

theorem foldl_minPositiveStep_source :
    ∀ (values : List ℚ) (least : ℚ), values.foldl minPositiveStep least = least ∨
      (values.foldl minPositiveStep least ∈ values ∧ 0 < values.foldl minPositiveStep least)
  | [], _ => .inl rfl
  | v :: rest, least => by
      rw [List.foldl_cons]
      rcases foldl_minPositiveStep_source rest (minPositiveStep least v) with same | ⟨mem, pos⟩
      · rcases minPositiveStep_cases least v with ⟨pos, -, taken⟩ | ⟨-, kept⟩
        · rw [taken] at same ⊢
          exact .inr ⟨by rw [same]; exact List.mem_cons_self _ _, by rw [same]; exact pos⟩
        · exact .inl (same.trans kept)
      · exact .inr ⟨List.mem_cons_of_mem _ mem, pos⟩

theorem foldl_minPositiveStep_le_start :
    ∀ (values : List ℚ) {least : ℚ}, 0 < least →
      0 < values.foldl minPositiveStep least ∧ values.foldl minPositiveStep least ≤ least
  | [], _, pos => ⟨pos, le_rfl⟩
  | v :: rest, least, pos => by
      rw [List.foldl_cons]
      rcases minPositiveStep_cases least v with ⟨vPos, lt, taken⟩ | ⟨-, kept⟩
      · rw [taken]
        obtain ⟨restPos, restLe⟩ := foldl_minPositiveStep_le_start rest vPos
        refine ⟨restPos, restLe.trans ?_⟩
        rcases lt with neg | lt
        · linarith
        · exact lt.le
      · rw [kept]
        exact foldl_minPositiveStep_le_start rest pos

theorem foldl_minPositiveStep_le :
    ∀ (values : List ℚ) (least : ℚ), (least < 0 ∨ 0 < least) → ∀ w ∈ values, 0 < w →
      0 < values.foldl minPositiveStep least ∧ values.foldl minPositiveStep least ≤ w
  | [], _, _, w, mem, _ => by simp at mem
  | v :: rest, least, sign, w, mem, wPos => by
      rw [List.foldl_cons]
      have nextSign : minPositiveStep least v < 0 ∨ 0 < minPositiveStep least v := by
        rcases minPositiveStep_cases least v with ⟨vPos, -, taken⟩ | ⟨-, kept⟩
        · exact .inr (by rw [taken]; exact vPos)
        · rw [kept]; exact sign
      rcases List.mem_cons.mp mem with rfl | mem
      · rcases minPositiveStep_cases least w with ⟨-, -, taken⟩ | ⟨kept, same⟩
        · rw [taken]
          exact foldl_minPositiveStep_le_start rest wPos
        · have startPos : 0 < least := by
            rcases sign with neg | pos
            · exact absurd ⟨wPos, .inl neg⟩ kept
            · exact pos
          have startLe : least ≤ w := not_lt.mp fun lt => kept ⟨wPos, .inr lt⟩
          rw [same]
          obtain ⟨restPos, restLe⟩ := foldl_minPositiveStep_le_start rest startPos
          exact ⟨restPos, restLe.trans startLe⟩
      · exact foldl_minPositiveStep_le rest _ nextSign w mem wPos

/-- `minPositive` is `-1` when no value is positive, and otherwise the least positive value. -/
theorem minPositive_spec (values : List ℚ) :
    (minPositive values = -1 ∧ ∀ v ∈ values, v ≤ 0) ∨
      (0 < minPositive values ∧ minPositive values ∈ values ∧
        ∀ v ∈ values, 0 < v → minPositive values ≤ v) := by
  by_cases somePositive : ∃ v ∈ values, 0 < v
  · obtain ⟨v, mem, pos⟩ := somePositive
    have least := foldl_minPositiveStep_le values (-1) (.inl neg_one_lt_zero) v mem pos
    rcases foldl_minPositiveStep_source values (-1) with same | ⟨inValues, _⟩
    · exact absurd (same ▸ least.1) (lt_asymm neg_one_lt_zero)
    · exact .inr ⟨least.1, inValues,
        fun w wMem wPos =>
          (foldl_minPositiveStep_le values (-1) (.inl neg_one_lt_zero) w wMem wPos).2⟩
  · push_neg at somePositive
    rcases foldl_minPositiveStep_source values (-1) with same | ⟨inValues, pos⟩
    · exact .inl ⟨same, somePositive⟩
    · exact absurd (somePositive _ inValues) (not_le.mpr pos)

/-! ## The parts of the score -/

/-- A part of `RelativeHealthScore`: it leaves the score as it is, or adds to it one amount of at
least `lo`, whatever the score. -/
def AddsAtLeast (lo : ℚ) (f : ℚ → ℚ) : Prop :=
  (∀ s, f s = s) ∨ ∃ c, lo ≤ c ∧ ∀ s, f s = f64 (s + c)

theorem AddsAtLeast.monotone {lo : ℚ} {f : ℚ → ℚ} (adds : AddsAtLeast lo f) : Monotone f := by
  intro s t le
  rcases adds with same | ⟨c, -, add⟩
  · rw [same, same]
    exact le
  · rw [add, add]
    exact f64_mono (by linarith)

theorem AddsAtLeast.le_apply {lo lower s : ℚ} {f : ℚ → ℚ} (adds : AddsAtLeast lo f)
    (fixed : f64 lower = lower) (le : lower ≤ s) (leAdd : lower ≤ s + lo) : lower ≤ f s := by
  rcases adds with same | ⟨c, atLeast, add⟩
  · rw [same]
    exact le
  · rw [add]
    exact le_f64_of_le fixed (by linarith)

namespace Backend

theorem isAvailable_iff {b : Backend} :
    b.isAvailable = true ↔ b.disabled = false ∧ b.healthy = true ∧
      (0 < b.maxConnections → b.currentConns < toInt32 b.maxConnections) := by
  simp [isAvailable, and_assoc, imp_iff_not_or]

theorem avgLatency_nonneg {b : Backend} (nonneg : ∀ sample ∈ b.latencyWindow, 0 ≤ sample) :
    0 ≤ b.avgLatency := by
  unfold avgLatency windowSum
  split
  · exact le_rfl
  · have : (0 : ℚ) ≤ (b.latencyWindow.sum : ℚ) := by exact_mod_cast List.sum_nonneg nonneg
    exact f64_nonneg (div_nonneg (f64_nonneg this) (f64_nonneg (Nat.cast_nonneg _)))

theorem addLatencyScore_adds (b : Backend) (minLatency : ℚ) :
    AddsAtLeast 0 (b.addLatencyScore minLatency) := by
  unfold addLatencyScore
  by_cases positive : b.avgLatency > 0 ∧ minLatency > 0
  · exact .inr ⟨_, f64_nonneg (mul_nonneg (by norm_num)
      (f64_nonneg (div_pos positive.2 positive.1).le)), fun _ => if_pos positive⟩
  · by_cases zero : b.avgLatency = 0
    · exact .inr ⟨40, by norm_num, fun _ => by simp only [if_neg positive, if_pos zero]⟩
    · exact .inl fun _ => by simp only [if_neg positive, if_neg zero]

theorem addJitterScore_adds (b : Backend) (minJitter : ℚ) :
    AddsAtLeast 0 (b.addJitterScore minJitter) := by
  unfold addJitterScore
  by_cases positive : b.jitter > 0 ∧ minJitter > 0
  · exact .inr ⟨_, f64_nonneg (mul_nonneg (by norm_num)
      (f64_nonneg (div_pos positive.2 positive.1).le)), fun _ => if_pos positive⟩
  · by_cases zero : b.jitter = 0
    · exact .inr ⟨30, by norm_num, fun _ => by simp only [if_neg positive, if_pos zero]⟩
    · exact .inl fun _ => by simp only [if_neg positive, if_neg zero]

/-- An available bounded backend has a free slot, so its load ratio is at most one and its
capacity points are not negative. -/
theorem addConnectionScore_adds {b : Backend} (available : b.isAvailable = true) :
    AddsAtLeast 0 b.addConnectionScore := by
  obtain ⟨-, -, room⟩ := isAvailable_iff.mp available
  unfold addConnectionScore connectionRatio
  split
  · rename_i ratio found
    split at found
    · rename_i bounded
      cases found
      have below : (b.currentConns : ℚ) ≤ b.maxConnections := by
        exact_mod_cast (lt_of_lt_of_le (room bounded) (toInt32_le_of_pos bounded)).le
      have maxPos : (1 : ℚ) ≤ f64 b.maxConnections :=
        le_f64_of_le f64_one (by exact_mod_cast bounded)
      have atMostOne : f64 (f64 b.currentConns / f64 b.maxConnections) ≤ 1 :=
        f64_le_of_le f64_one ((div_le_one (by linarith)).mpr (f64_mono below))
      exact .inr ⟨_, f64_nonneg (mul_nonneg (by norm_num) (f64_nonneg (by linarith))), fun _ => rfl⟩
    · cases found
  · exact .inr ⟨20, by norm_num, fun _ => rfl⟩

theorem addStabilityScore_adds (b : Backend) : AddsAtLeast 0 b.addStabilityScore := by
  unfold addStabilityScore
  by_cases stable : b.failCount = 0
  · exact .inr ⟨10, by norm_num, fun _ => if_pos stable⟩
  · exact .inl fun _ => if_neg stable

theorem addTrendAdjustment_adds (trend : ℚ) : AddsAtLeast (-10) (addTrendAdjustment trend) := by
  unfold addTrendAdjustment
  by_cases flat : trendAdjustment trend = 0
  · exact .inl fun _ => if_pos flat
  · refine .inr ⟨_, ?_, fun _ => if_neg flat⟩
    unfold trendAdjustment
    split_ifs <;> norm_num

theorem trust_half_le {b : Backend} (trust : TrustValid b.trustCoeff) :
    1 / 2 ≤ f64 (f64 b.trustCoeff / 100) := by
  have fifty : (50 : ℚ) ≤ f64 b.trustCoeff :=
    le_f64_of_le (by simp) (by exact_mod_cast trust.1)
  exact le_f64_of_le f64_half (by linarith)

/-- An available backend with full latency points and trust at least one half scores at
least 15: each later part adds at least nothing, the trend takes at most 10 away, and every
bound on the way is a `float64`. -/
theorem relativeHealthScore_ge_fifteen {b : Backend} {minLatency minJitter : ℚ}
    (available : b.isAvailable = true) (trust : TrustValid b.trustCoeff)
    (full : b.addLatencyScore minLatency 0 = 40) :
    15 ≤ b.relativeHealthScore minLatency minJitter := by
  obtain ⟨enabled, healthy, -⟩ := isAvailable_iff.mp available
  have fixed : f64 40 = 40 := by simp
  have jitter : 40 ≤ b.addJitterScore minJitter 40 :=
    (b.addJitterScore_adds minJitter).le_apply fixed le_rfl (by norm_num)
  have connection : 40 ≤ b.addConnectionScore (b.addJitterScore minJitter 40) :=
    (addConnectionScore_adds available).le_apply fixed jitter (by linarith)
  have stability := (b.addStabilityScore_adds).le_apply fixed connection (by linarith)
  have trend : 30 ≤ addTrendAdjustment b.trend (b.addStabilityScore
      (b.addConnectionScore (b.addJitterScore minJitter 40))) :=
    (addTrendAdjustment_adds b.trend).le_apply (by simp) (by linarith) (by linarith)
  have scaled : 15 ≤ f64 (addTrendAdjustment b.trend (b.addStabilityScore
      (b.addConnectionScore (b.addJitterScore minJitter 40))) * f64 (f64 b.trustCoeff / 100)) :=
    le_f64_of_le (by simp) (by nlinarith [trust_half_le trust])
  simp only [relativeHealthScore, enabled, healthy, full, Bool.not_true, Bool.false_eq_true,
    ↓reduceIte]
  exact le_truncate (by norm_num) (le_min (le_max_of_le_left (by exact_mod_cast scaled))
    (by norm_num))

end Backend

theorem exists_full_latencyScore {available : List (Nat × Backend)} (nonempty : available ≠ [])
    (nonneg : ∀ entry ∈ available, 0 ≤ entry.2.avgLatency) :
    ∃ entry ∈ available, entry.2.addLatencyScore (referenceLatency available) 0 = 40 := by
  rcases minPositive_spec (available.map fun entry => entry.2.avgLatency) with
    ⟨-, allZero⟩ | ⟨pos, mem, -⟩
  · obtain ⟨entry, mem⟩ := List.exists_mem_of_ne_nil available nonempty
    have zero : entry.2.avgLatency = 0 :=
      le_antisymm (allZero _ (List.mem_map_of_mem _ mem)) (nonneg entry mem)
    exact ⟨entry, mem, by simp [Backend.addLatencyScore, zero]⟩
  · obtain ⟨entry, mem, eq⟩ := List.mem_map.mp mem
    refine ⟨entry, mem, ?_⟩
    have reference : referenceLatency available = entry.2.avgLatency := by
      rw [referenceLatency, orOne, if_neg (not_le.mpr pos), eq]
    rw [Backend.addLatencyScore, reference, eq, if_pos ⟨pos, pos⟩, div_self pos.ne']
    simp

/-! ## Health-score never leaves the choice empty -/

/-- On reachable backends some available backend has a non-negative combined score. -/
theorem exists_combinedScore_nonneg (env : SelectEnv) (history : Option HistoryManager)
    {backends : List Backend} (reachable : ∀ b ∈ backends, b.Reachable)
    (nonempty : filterAvailable backends ≠ []) :
    ∃ entry ∈ filterAvailable backends,
      0 ≤ combinedScore env history (referenceLatency (filterAvailable backends))
        (referenceJitter (filterAvailable backends)) entry := by
  have sound : ∀ entry ∈ filterAvailable backends, entry.2.Sound := fun entry mem =>
    (reachable _ (List.getElem?_mem (mem_filterAvailable.mp mem).1)).sound
  obtain ⟨entry, mem, full⟩ := exists_full_latencyScore nonempty
    fun entry mem => Backend.avgLatency_nonneg (sound entry mem).samplesNonneg
  refine ⟨entry, mem, ?_⟩
  have relative : 15 ≤ entry.2.relativeHealthScore (referenceLatency (filterAvailable backends))
      (referenceJitter (filterAvailable backends)) :=
    Backend.relativeHealthScore_ge_fifteen (mem_filterAvailable.mp mem).2
      (sound entry mem).trustValid full
  have adjustment : -12 ≤ historyAdjustment env history entry := by
    unfold historyAdjustment
    split
    · decide
    · exact (HistoryManager.historicalScore_bounds _ _ _ _ _).1
  unfold combinedScore
  omega

theorem healthScoreSelect_selectsAvailable (env : SelectEnv) (history : Option HistoryManager)
    {backends : List Backend} (reachable : ∀ b ∈ backends, b.Reachable) :
    SelectsAvailable backends (healthScoreSelect env history backends) := by
  unfold healthScoreSelect
  dsimp only
  split
  · rename_i empty
    simp [SelectsAvailable, List.length_eq_zero.mp empty]
  · rename_i nonempty
    have nonempty := List.length_eq_zero.not.mp nonempty
    obtain ⟨entry, mem, nonneg⟩ := exists_combinedScore_nonneg env history reachable nonempty
    obtain ⟨chosen, chosenMem, eq⟩ := foldl_bestScoreStep_some
      (combinedScore env history (referenceLatency (filterAvailable backends))
        (referenceJitter (filterAvailable backends)))
      (none, -1) ⟨entry, mem, by simp only; omega⟩
    rw [eq]
    exact ⟨⟨fun none => by simp at none, fun empty => absurd empty nonempty⟩,
      fun _ some => (Option.some.inj some) ▸ chosenMem⟩

/-! ## Ties between backends that differ only in latency -/

/-- Two backends that agree on everything the score reads except their latency. -/
structure AgreeButLatency (b other : Backend) : Prop where
  jitter : b.jitter = other.jitter
  ratio : b.connectionRatio = other.connectionRatio
  stable : b.failCount = 0 ↔ other.failCount = 0
  trend : Backend.trendAdjustment b.trend = Backend.trendAdjustment other.trend
  trust : b.trustCoeff = other.trustCoeff

namespace Backend

/-- With everything else equal, more latency points never give a lower score: every later part
and the scaling by trust are monotone. -/
theorem relativeHealthScore_mono {b other : Backend} {minLatency minJitter : ℚ}
    (agree : AgreeButLatency b other) (available : b.isAvailable = true)
    (otherAvailable : other.isAvailable = true) (trust : TrustValid b.trustCoeff)
    (le : b.addLatencyScore minLatency 0 ≤ other.addLatencyScore minLatency 0) :
    b.relativeHealthScore minLatency minJitter ≤ other.relativeHealthScore minLatency minJitter := by
  obtain ⟨enabled, healthy, -⟩ := isAvailable_iff.mp available
  obtain ⟨otherEnabled, otherHealthy, -⟩ := isAvailable_iff.mp otherAvailable
  have sameJitter : b.addJitterScore minJitter = other.addJitterScore minJitter := by
    funext s
    simp only [addJitterScore, agree.jitter]
  have sameConnection : b.addConnectionScore = other.addConnectionScore := by
    funext s
    simp only [addConnectionScore, agree.ratio]
  have sameStability : b.addStabilityScore = other.addStabilityScore := by
    funext s
    simp only [addStabilityScore, agree.stable]
  have raised := (addTrendAdjustment_adds b.trend).monotone
    ((b.addStabilityScore_adds).monotone ((addConnectionScore_adds available).monotone
      ((b.addJitterScore_adds minJitter).monotone le)))
  have trustNonneg : 0 ≤ f64 (f64 b.trustCoeff / 100) := (by norm_num : (0 : ℚ) ≤ 1 / 2).trans
    (trust_half_le trust)
  simp only [relativeHealthScore, enabled, healthy, otherEnabled, otherHealthy, Bool.not_true,
    Bool.false_eq_true, ↓reduceIte]
  rw [← agree.trust, ← sameJitter, ← sameConnection, ← sameStability,
    show addTrendAdjustment other.trend = addTrendAdjustment b.trend by
      funext s
      simp only [addTrendAdjustment, agree.trend]]
  refine truncate_mono (le_min (le_max_right _ _) (by norm_num)) ?_
  exact min_le_min_right _ (max_le_max_right _
    (f64_mono (mul_le_mul_of_nonneg_right raised trustNonneg)))

end Backend

theorem addLatencyScore_le_forty {available : List (Nat × Backend)} {entry : Nat × Backend}
    (mem : entry ∈ available) :
    entry.2.addLatencyScore (referenceLatency available) 0 ≤ 40 := by
  unfold Backend.addLatencyScore
  split_ifs with positive
  · have reference : referenceLatency available ≤ entry.2.avgLatency := by
      rcases minPositive_spec (available.map fun entry => entry.2.avgLatency) with
        ⟨-, allNonpos⟩ | ⟨pos, -, least⟩
      · exact absurd (allNonpos _ (List.mem_map_of_mem _ mem)) (not_le.mpr positive.1)
      · rw [referenceLatency, orOne, if_neg (not_le.mpr pos)]
        exact least _ (List.mem_map_of_mem _ mem) positive.1
    have ratio : f64 (referenceLatency available / entry.2.avgLatency) ≤ 1 :=
      f64_le_of_le f64_one ((div_le_one positive.1).mpr reference)
    rw [zero_add]
    exact f64_le_of_le (by simp) (f64_le_of_le (by simp) (by linarith))
  · simp
  · norm_num

theorem addLatencyScore_fastest {available : List (Nat × Backend)} {fastest : Nat × Backend}
    (mem : fastest ∈ available) (nonneg : 0 ≤ fastest.2.avgLatency)
    (isFastest : ∀ entry ∈ available, fastest.2.avgLatency ≤ entry.2.avgLatency) :
    fastest.2.addLatencyScore (referenceLatency available) 0 = 40 := by
  rcases nonneg.lt_or_eq with positive | zero
  · rcases minPositive_spec (available.map fun entry => entry.2.avgLatency) with
      ⟨-, allNonpos⟩ | ⟨pos, leastMem, least⟩
    · exact absurd (allNonpos _ (List.mem_map_of_mem _ mem)) (not_le.mpr positive)
    · obtain ⟨other, otherMem, eq⟩ := List.mem_map.mp leastMem
      have reference : referenceLatency available = fastest.2.avgLatency := by
        rw [referenceLatency, orOne, if_neg (not_le.mpr pos)]
        exact le_antisymm (least _ (List.mem_map_of_mem _ mem) positive)
          (eq ▸ isFastest other otherMem)
      rw [Backend.addLatencyScore, reference, if_pos ⟨positive, positive⟩, div_self positive.ne']
      simp
  · simp [Backend.addLatencyScore, ← zero]

theorem filterAvailable_of_forall {backends : List Backend}
    (available : ∀ b ∈ backends, b.isAvailable = true) :
    filterAvailable backends = backends.enum :=
  List.filter_eq_self.mpr fun _ mem => available _ (List.snd_mem_of_mem_enum mem)

/-- Among available reachable backends without usable history that differ only in latency,
a fastest backend has the top score, and `Select` returns the first backend in list order
with that score. -/
theorem healthScoreSelect_first_with_fastest_score (env : SelectEnv)
    (history : Option HistoryManager) {backends : List Backend}
    (reachable : ∀ b ∈ backends, b.Reachable) (available : ∀ b ∈ backends, b.isAvailable = true)
    (noHistory : ∀ entry ∈ backends.enum, historyAdjustment env history entry = 0)
    (agree : ∀ b ∈ backends, ∀ other ∈ backends, AgreeButLatency b other)
    {fastest : Nat × Backend} (fastestMem : fastest ∈ backends.enum)
    (isFastest : ∀ b ∈ backends, fastest.2.avgLatency ≤ b.avgLatency) :
    let score := combinedScore env history (referenceLatency backends.enum)
      (referenceJitter backends.enum)
    (∀ entry ∈ backends.enum, score entry ≤ score fastest) ∧
      healthScoreSelect env history backends =
        backends.enum.find? fun entry => score entry = score fastest := by
  intro score
  have inPool : ∀ entry ∈ backends.enum, entry.2 ∈ backends :=
    fun entry mem => List.snd_mem_of_mem_enum mem
  have sound : ∀ entry ∈ backends.enum, entry.2.Sound :=
    fun entry mem => (reachable _ (inPool entry mem)).sound
  have full : fastest.2.addLatencyScore (referenceLatency backends.enum) 0 = 40 :=
    addLatencyScore_fastest fastestMem
      (Backend.avgLatency_nonneg (sound _ fastestMem).samplesNonneg)
      fun entry mem => isFastest _ (inPool entry mem)
  have top : ∀ entry ∈ backends.enum, score entry ≤ score fastest := by
    intro entry mem
    simp only [score, combinedScore, noHistory entry mem, noHistory fastest fastestMem, add_zero]
    exact Backend.relativeHealthScore_mono (agree _ (inPool entry mem) _ (inPool fastest fastestMem))
      (available _ (inPool entry mem)) (available _ (inPool fastest fastestMem))
      (sound entry mem).trustValid (full ▸ addLatencyScore_le_forty mem)
  refine ⟨top, ?_⟩
  have fifteen : 15 ≤ score fastest := by
    simp only [score, combinedScore, noHistory fastest fastestMem, add_zero]
    exact Backend.relativeHealthScore_ge_fifteen (available _ (inPool fastest fastestMem))
      (sound _ fastestMem).trustValid full
  have nonempty : backends.enum.length ≠ 0 :=
    List.length_pos_of_mem fastestMem |>.ne'
  simp only [healthScoreSelect, filterAvailable_of_forall available, nonempty, ↓reduceIte]
  exact foldl_bestScoreStep_find score ⟨fastest, fastestMem, rfl⟩ top (by simp only; omega)

theorem healthScoreSelect_first_with_fastest_score_fresh :
    let first : Backend :=
      { addr := "192.168.1.10:25565", maxConnections := 50, currentConns := 0, failCount := 0,
        successCount := 0, healthy := true, disabled := false, latencyWindow := [20],
        windowSize := 20, lastCheckTime := 0, players := ∅, trustCoeff := 100 }
    let second : Backend :=
      { first with addr := "192.168.1.11:25565", latencyWindow := [10] }
    let env : SelectEnv := ⟨fun _ => 0, fun _ => none⟩
    let score := combinedScore env (some HistoryManager.new)
      (referenceLatency [first, second].enum) (referenceJitter [first, second].enum)
    (∀ entry ∈ [first, second].enum, score entry ≤ score (1, second)) ∧
      healthScoreSelect env (some HistoryManager.new) [first, second] =
        [first, second].enum.find? fun entry => score entry = score (1, second) := by
  intro first second env score
  have reachable : ∀ b ∈ [first, second], b.Reachable := by
    simp only [List.mem_cons, List.mem_singleton, List.not_mem_nil, or_false]
    rintro b (rfl | rfl)
    · exact .step (.init (show newBackend "192.168.1.10:25565" 50 20 = some _ from rfl))
        (.recordLatency (show (0 : Int) ≤ 20000000 by norm_num) rfl)
    · exact .step (.init (show newBackend "192.168.1.11:25565" 50 20 = some _ from rfl))
        (.recordLatency (show (0 : Int) ≤ 10000000 by norm_num) rfl)
  have latencies : first.avgLatency = 20 ∧ second.avgLatency = 10 := by
    simp [first, second, Backend.avgLatency, Backend.windowSum]
  have available : ∀ b ∈ [first, second], b.isAvailable = true := by decide
  have jitters : first.jitter = 0 ∧ second.jitter = 0 := by simp [Backend.jitter, first, second]
  have trends : first.trend = 0 ∧ second.trend = 0 := by simp [Backend.trend, first, second]
  have ratios : first.connectionRatio = second.connectionRatio := by
    simp only [Backend.connectionRatio, first, second]
  have agree : ∀ b ∈ [first, second], ∀ other ∈ [first, second], AgreeButLatency b other := by
    simp only [List.mem_cons, List.mem_singleton, List.not_mem_nil, or_false]
    rintro b (rfl | rfl) other (rfl | rfl) <;>
      exact ⟨by simp only [jitters], by simp only [ratios], Iff.rfl, by simp only [trends], rfl⟩
  have mem : (1, second) ∈ [first, second].enum :=
    List.mem_cons_of_mem _ (List.mem_singleton_self _)
  exact healthScoreSelect_first_with_fastest_score env (some HistoryManager.new) reachable
    available (fun _ _ => by simp [historyAdjustment]) agree mem (by norm_num [latencies])

/-- After a failed dial at trust 70, 101 ms and 100 ms: the faster one's 90 points times
`0.7` round to `62.99999999999999`, the slower one's 89.6 points give 62.7, both truncate to 62,
and the slower one, listed first, is chosen. -/
theorem healthScoreSelect_picks_slower_on_tie :
    let slower : Backend :=
      { addr := "192.168.1.10:25565", maxConnections := 0, currentConns := 0, failCount := 1,
        successCount := 0, healthy := true, disabled := false, latencyWindow := [101],
        windowSize := 20, lastCheckTime := 0, players := ∅, trustCoeff := 70 }
    let faster : Backend :=
      { slower with addr := "192.168.1.11:25565", latencyWindow := [100] }
    let env : SelectEnv := ⟨fun _ => 0, fun _ => none⟩
    (∀ b ∈ [slower, faster], b.Reachable ∧ b.isAvailable = true) ∧
      (∀ entry ∈ [slower, faster].enum, historyAdjustment env (some HistoryManager.new) entry = 0) ∧
      (∀ b ∈ [slower, faster], ∀ other ∈ [slower, faster], AgreeButLatency b other) ∧
      healthScoreSelect env (some HistoryManager.new) [slower, faster] = some (0, slower) ∧
      faster.avgLatency < slower.avgLatency := by
  intro slower faster env
  have reachable : slower.Reachable ∧ faster.Reachable :=
    ⟨.step (.step (.step (.step (.step
      (.init (show newBackend "192.168.1.10:25565" 0 20 = some _ from rfl))
      (.resetTrust _)) (.increaseTrust _)) (.increaseTrust _)) (.recordFailure _))
      (.recordLatency (show (0 : Int) ≤ 101000000 by norm_num) rfl),
    .step (.step (.step (.step (.step
      (.init (show newBackend "192.168.1.11:25565" 0 20 = some _ from rfl))
      (.resetTrust _)) (.increaseTrust _)) (.increaseTrust _)) (.recordFailure _))
      (.recordLatency (show (0 : Int) ≤ 100000000 by norm_num) rfl)⟩
  have available : ∀ b ∈ [slower, faster], b.isAvailable = true := by decide
  have noHistory : ∀ entry ∈ [slower, faster].enum,
      historyAdjustment env (some HistoryManager.new) entry = 0 := fun _ _ => by
    simp [historyAdjustment]
  have jitters : slower.jitter = 0 ∧ faster.jitter = 0 := by simp [Backend.jitter, slower, faster]
  have trends : slower.trend = 0 ∧ faster.trend = 0 := by simp [Backend.trend, slower, faster]
  have agree : ∀ b ∈ [slower, faster], ∀ other ∈ [slower, faster], AgreeButLatency b other := by
    simp only [List.mem_cons, List.mem_singleton, List.not_mem_nil, or_false]
    have ratios : slower.connectionRatio = faster.connectionRatio := by
      simp only [Backend.connectionRatio, slower, faster]
    rintro b (rfl | rfl) other (rfl | rfl) <;>
      exact ⟨by simp only [jitters], by simp only [ratios], Iff.rfl, by simp only [trends], rfl⟩
  have latencies : slower.avgLatency = 101 ∧ faster.avgLatency = 100 := by
    simp [slower, faster, Backend.avgLatency, Backend.windowSum]
  have reachableAvailable : ∀ b ∈ [slower, faster], b.Reachable ∧ b.isAvailable = true := by
    simp only [List.mem_cons, List.mem_singleton, List.not_mem_nil, or_false]
    rintro b (rfl | rfl)
    exacts [⟨reachable.1, rfl⟩, ⟨reachable.2, rfl⟩]
  refine ⟨reachableAvailable, noHistory, agree, ?_, by rw [latencies.1, latencies.2]; norm_num⟩
  have reference : referenceLatency [(0, slower), (1, faster)] = 100 := by
    simp only [referenceLatency, List.map_cons, List.map_nil, latencies.1, latencies.2]
    decide
  have jitterReference : referenceJitter [(0, slower), (1, faster)] = 1 := by
    simp only [referenceJitter, List.map_cons, List.map_nil, jitters.1, jitters.2]
    decide
  have trust : f64 (7 / 10) = 6305039478318694 / 2 ^ (53 : ℤ) :=
    (f64_of_near (e := -1) (m := 6305039478318694) (by norm_num) (by norm_num) (by norm_num)
      (by norm_num [abs_lt])).trans (by norm_num)
  have fasterLatency : faster.addLatencyScore 100 0 = 40 := by
    simp [Backend.addLatencyScore, latencies.2]
  -- 90 times 0.7 in float64 is 62.99999999999999, just below 63
  have fasterScore : faster.relativeHealthScore 100 1 = 62 := by
    have scaled : f64 (141863388262170615 / 2251799813685248) = 8866461766385663 / 140737488355328 :=
      (f64_of_near (e := 5) (m := 8866461766385663) (by norm_num) (by norm_num) (by norm_num)
        (by norm_num [abs_lt])).trans (by norm_num)
    simp only [Backend.relativeHealthScore, fasterLatency, Backend.addJitterScore, jitters.2,
      Backend.addConnectionScore, Backend.connectionRatio, Backend.addStabilityScore,
      Backend.addTrendAdjustment, trends.2, Backend.trendAdjustment, faster, slower]
    norm_num [trust]
    rw [scaled]
    exact truncate_eq_of_le_of_lt (by norm_num) (by norm_num) (by norm_num)
  have slowerScore : slower.relativeHealthScore 100 1 = 62 := by
    have slowerLatency : slower.addLatencyScore 100 0 ≤ 40 := by
      have := addLatencyScore_le_forty (List.mem_cons_self (0, slower) [(1, faster)])
      rwa [reference] at this
    have upper : slower.relativeHealthScore 100 1 ≤ faster.relativeHealthScore 100 1 :=
      Backend.relativeHealthScore_mono
        (agree _ (List.mem_cons_self _ _) _ (List.mem_cons_of_mem _ (List.mem_singleton_self _)))
        (available _ (List.mem_cons_self _ _))
        (available _ (List.mem_cons_of_mem _ (List.mem_singleton_self _))) (by decide)
        (by rw [fasterLatency]; exact slowerLatency)
    refine le_antisymm (upper.trans_eq fasterScore) ?_
    have ratio : 253 / 256 ≤ f64 (100 / 101) :=
      le_f64_of_le (f64_of_mul (j := 8) (m := 253) (by norm_num) (by norm_num) (by norm_num))
        (by norm_num)
    have latency : 1265 / 32 ≤ f64 (f64 (40 * f64 (100 / 101))) := by
      have fixed : f64 (1265 / 32) = 1265 / 32 :=
        f64_of_mul (j := 5) (m := 1265) (by norm_num) (by norm_num) (by norm_num)
      exact le_f64_of_le fixed (le_f64_of_le fixed (by linarith))
    have jitter : 2225 / 32 ≤ f64 (f64 (f64 (40 * f64 (100 / 101))) + 30) :=
      le_f64_of_le (f64_of_mul (j := 5) (m := 2225) (by norm_num) (by norm_num) (by norm_num))
        (by linarith)
    have connection : 2865 / 32 ≤ f64 (f64 (f64 (f64 (40 * f64 (100 / 101))) + 30) + 20) :=
      le_f64_of_le (f64_of_mul (j := 5) (m := 2865) (by norm_num) (by norm_num) (by norm_num))
        (by linarith)
    have scaled : 62 ≤ f64 (f64 (f64 (f64 (f64 (40 * f64 (100 / 101))) + 30) + 20) *
        (3152519739159347 / 4503599627370496)) :=
      le_f64_of_le (by simp) (le_trans (by norm_num)
        (mul_le_mul_of_nonneg_right connection (by norm_num)))
    simp only [Backend.relativeHealthScore, Backend.addLatencyScore, latencies.1,
      Backend.addJitterScore, jitters.1, Backend.addConnectionScore, Backend.connectionRatio,
      Backend.addStabilityScore, Backend.addTrendAdjustment, trends.1, Backend.trendAdjustment,
      slower]
    norm_num [trust]
    exact le_truncate (by norm_num) (le_min (le_max_of_le_left (by exact_mod_cast scaled))
      (by norm_num))
  have enumerated : filterAvailable [slower, faster] = [(0, slower), (1, faster)] :=
    filterAvailable_of_forall available
  simp [healthScoreSelect, enumerated, reference, jitterReference, bestScoreStep, combinedScore,
    slowerScore, fasterScore, historyAdjustment]

end RmsGate.LoadBalancer
