import RmsGate.Go.Float

/-!
# Time-of-day history

`HistoryManager` keeps, per backend address, 96 fifteen-minute periods of
exponentially smoothed latency and jitter.  `Record` updates the period of the current
clock reading; `HistoricalScore` compares a current measurement with that period's
averages once it has enough samples.  The clock is an argument: `getPeriodIndex` is the
period it reads.  The database side of `Record` is modelled in `HistoryPersistence`.
-/

namespace RmsGate.LoadBalancer

open RmsGate.Go

def emaAlpha : ℚ := 1 / 10

def minSamplesForUse : Int := 20

structure PeriodStats where
  avgLatency : ℚ
  avgJitter : ℚ
  samples : Int
  periodIndex : Nat
  periodLabel : String
  deriving DecidableEq

def twoDigits (n : Nat) : String := if n < 10 then "0" ++ toString n else toString n

/-- `periodLabelFromIndex`: the period as `HH:MM-HH:MM`. -/
def periodLabelFromIndex (period : Int) : String :=
  if period < 0 ∨ period > 95 then ""
  else
    let startMin := period.toNat * 15
    let endMin := (startMin + 15) % (24 * 60)
    twoDigits (startMin / 60) ++ ":" ++ twoDigits (startMin % 60) ++ "-" ++
      twoDigits (endMin / 60) ++ ":" ++ twoDigits (endMin % 60)

structure BackendHistory where
  periodStats : Fin 96 → PeriodStats

/-- The history `Record` and `loadFromDB` create for an address seen for the first time. -/
def BackendHistory.empty : BackendHistory where
  periodStats period :=
    { avgLatency := 0, avgJitter := 0, samples := 0, periodIndex := period,
      periodLabel := periodLabelFromIndex period }

/-- One EMA step of `Record`: the first sample is taken verbatim.  The smoothing is exact here,
where Go rounds each `float64` product and sum. -/
def PeriodStats.record (stats : PeriodStats) (latency jitter : ℚ) : PeriodStats :=
  if stats.samples = 0 then
    { stats with avgLatency := latency, avgJitter := jitter, samples := stats.samples + 1 }
  else
    { stats with
      avgLatency := emaAlpha * latency + (1 - emaAlpha) * stats.avgLatency
      avgJitter := emaAlpha * jitter + (1 - emaAlpha) * stats.avgJitter
      samples := stats.samples + 1 }

structure HistoryManager where
  cache : String → Option BackendHistory

namespace HistoryManager

def new : HistoryManager := ⟨fun _ => none⟩

theorem eq_of_cache {hm other : HistoryManager}
    (same : ∀ addr, hm.cache addr = other.cache addr) : hm = other := by
  cases hm; cases other; congr; funext addr; exact same addr

def historyOf (hm : HistoryManager) (addr : String) : BackendHistory :=
  (hm.cache addr).getD BackendHistory.empty

def record (hm : HistoryManager) (period : Fin 96) (addr : String) (latency jitter : ℚ) :
    HistoryManager :=
  let history := hm.historyOf addr
  let updated : BackendHistory :=
    ⟨Function.update history.periodStats period
      ((history.periodStats period).record latency jitter)⟩
  ⟨Function.update hm.cache addr (some updated)⟩

def getCurrentPeriodStats (hm : HistoryManager) (period : Fin 96) (addr : String) :
    Option PeriodStats :=
  (hm.cache addr).map fun history => history.periodStats period

/-- The latency part of `HistoricalScore`, at most eight points either way: the `float64` ratio
against the constants `0.7`, `0.85`, `1.5` and `1.2`.  The Go code adds these integer amounts to a
`float64` score, exactly. -/
def latencyAdjustment (average current : ℚ) : Int :=
  if average > 0 ∧ current > 0 then
    let ratio := f64 (current / average)
    if ratio < f64 (7 / 10) then 8
    else if ratio < f64 (85 / 100) then 4
    else if ratio > f64 (3 / 2) then -8
    else if ratio > f64 (6 / 5) then -4
    else 0
  else 0

def jitterAdjustment (average current : ℚ) : Int :=
  if average > 0 ∧ current > 0 then
    let ratio := f64 (current / average)
    if ratio < f64 (7 / 10) then 4 else if ratio > f64 (3 / 2) then -4 else 0
  else 0

def historicalScore (hm : HistoryManager) (period : Fin 96) (addr : String)
    (currentLatency currentJitter : ℚ) : Int :=
  match hm.getCurrentPeriodStats period addr with
  | none => 0
  | some stats =>
      if stats.samples < minSamplesForUse then 0
      else
        truncate ((latencyAdjustment stats.avgLatency currentLatency +
          jitterAdjustment stats.avgJitter currentJitter : Int) : ℚ)

@[simp] theorem historicalScore_new (period : Fin 96) (addr : String)
    (currentLatency currentJitter : ℚ) :
    HistoryManager.new.historicalScore period addr currentLatency currentJitter = 0 := rfl

theorem latencyAdjustment_bounds (average current : ℚ) :
    -8 ≤ latencyAdjustment average current ∧ latencyAdjustment average current ≤ 8 := by
  unfold latencyAdjustment
  dsimp only
  split_ifs <;> decide

theorem jitterAdjustment_bounds (average current : ℚ) :
    -4 ≤ jitterAdjustment average current ∧ jitterAdjustment average current ≤ 4 := by
  unfold jitterAdjustment
  dsimp only
  split_ifs <;> decide

/-- `HistoricalScore` lies in `[-12, 12]`. -/
theorem historicalScore_bounds (hm : HistoryManager) (period : Fin 96) (addr : String)
    (currentLatency currentJitter : ℚ) :
    -12 ≤ hm.historicalScore period addr currentLatency currentJitter ∧
      hm.historicalScore period addr currentLatency currentJitter ≤ 12 := by
  unfold historicalScore
  split
  · decide
  · split
    · decide
    · rename_i stats _ _
      have latency := latencyAdjustment_bounds stats.avgLatency currentLatency
      have jitter := jitterAdjustment_bounds stats.avgJitter currentJitter
      rw [truncate_intCast]
      omega

end HistoryManager

end RmsGate.LoadBalancer
