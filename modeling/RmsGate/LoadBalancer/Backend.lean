import RmsGate.Go.Float
import Mathlib.Data.Finset.Card

/-!
# Backend state

One endpoint of a load-balanced pool.  The counters are `atomic.Int32` values, the latency
window is a slice of millisecond samples behind a read-write lock, and the player set is a
map used as a set.  Every method below is one atomic step on this record: the callers that
interleave them are modelled in the modules that follow.  A method that can panic returns
`none`.
-/

namespace RmsGate.LoadBalancer

open RmsGate.Go

/-- Go's slice expression `s[low:]`: it panics when `low` exceeds the length. -/
def sliceFrom {α : Type} (s : List α) (low : Nat) : Option (List α) :=
  if low ≤ s.length then some (s.drop low) else none

structure Backend where
  addr : String
  maxConnections : Int
  currentConns : Int
  failCount : Int
  successCount : Int
  healthy : Bool
  disabled : Bool
  latencyWindow : List Int
  windowSize : Int
  lastCheckTime : Int
  players : Finset String
  trustCoeff : Int
  deriving DecidableEq

/-- `NewBackend`; `make([]int64, 0, windowSize)` panics on a negative size. -/
def newBackend (addr : String) (maxConns windowSize : Int) : Option Backend :=
  if windowSize < 0 then none
  else some
    { addr := addr, maxConnections := maxConns, currentConns := 0, failCount := 0,
      successCount := 0, healthy := true, disabled := false, latencyWindow := [],
      windowSize := windowSize, lastCheckTime := 0, players := ∅, trustCoeff := 100 }

namespace Backend

/-- `RecordLatency`: evict the oldest sample once the window is full, then append. -/
def recordLatency (b : Backend) (latency : Int) : Option Backend :=
  let ms := milliseconds latency
  let kept :=
    if b.windowSize ≤ b.latencyWindow.length then sliceFrom b.latencyWindow 1
    else some b.latencyWindow
  kept.map fun window => { b with latencyWindow := window ++ [ms] }

/-- The `int64` sum `AvgLatency`, `Jitter` and `Trend` accumulate, which wraps only past
`2^63` milliseconds. -/
def windowSum (window : List Int) : ℚ := (window.sum : ℚ)

/-- `AvgLatency`: `float64(sum) / float64(len)`. -/
def avgLatency (b : Backend) : ℚ :=
  if b.latencyWindow.length = 0 then 0
  else f64 (f64 (windowSum b.latencyWindow) / f64 b.latencyWindow.length)

/-- `Jitter`: the population standard deviation of the window, summed in `float64`. -/
def jitter (b : Backend) : ℚ :=
  let n := b.latencyWindow.length
  if n < 2 then 0
  else
    let avg := f64 (f64 (windowSum b.latencyWindow) / f64 n)
    let variance := b.latencyWindow.foldl (fun acc v =>
      let diff := f64 (f64 v - avg)
      f64 (acc + f64 (diff * diff))) 0
    Go.sqrt (f64 (variance / f64 n))

/-- `Trend`: percentage change of the newest quarter of the window against the rest. -/
def trend (b : Backend) : ℚ :=
  let n := b.latencyWindow.length
  if n < 8 then 0
  else
    let recentStart := max (n - n / 4) 1
    let olderAvg := f64 (f64 (windowSum (b.latencyWindow.take recentStart)) / f64 recentStart)
    let recentAvg :=
      f64 (f64 (windowSum (b.latencyWindow.drop recentStart)) / f64 (n - recentStart : Nat))
    if olderAvg = 0 then 0 else f64 (f64 (f64 (recentAvg - olderAvg) / olderAvg) * 100)

def trendAdjustment (trend : ℚ) : ℚ :=
  if trend > 20 then -10
  else if trend > 10 then -5
  else if trend < -20 then 10
  else if trend < -10 then 5
  else 0

/-- `score += 40 * (minLatency / avg)`, or `score += 40` with no data: at most 40 points. -/
def addLatencyScore (b : Backend) (minLatency score : ℚ) : ℚ :=
  if b.avgLatency > 0 ∧ minLatency > 0 then f64 (score + f64 (40 * f64 (minLatency / b.avgLatency)))
  else if b.avgLatency = 0 then f64 (score + 40) else score

def addJitterScore (b : Backend) (minJitter score : ℚ) : ℚ :=
  if b.jitter > 0 ∧ minJitter > 0 then f64 (score + f64 (30 * f64 (minJitter / b.jitter)))
  else if b.jitter = 0 then f64 (score + 30) else score

def connectionRatio (b : Backend) : Option ℚ :=
  if b.maxConnections > 0 then some (f64 (f64 b.currentConns / f64 b.maxConnections)) else none

def addConnectionScore (b : Backend) (score : ℚ) : ℚ :=
  match b.connectionRatio with
  | some ratio => f64 (score + f64 (20 * f64 (1 - ratio)))
  | none => f64 (score + 20)

def addStabilityScore (b : Backend) (score : ℚ) : ℚ :=
  if b.failCount = 0 then f64 (score + 10) else score

def addTrendAdjustment (trend score : ℚ) : ℚ :=
  if trendAdjustment trend = 0 then score else f64 (score + trendAdjustment trend)

/-- `RelativeHealthScore`: the five parts added to `0` in `float64` in the code's order, scaled by
`float64(trustCoeff) / 100` and clamped to `[0, 100]`. -/
def relativeHealthScore (b : Backend) (minLatency minJitter : ℚ) : Int :=
  if b.disabled then 0
  else if !b.healthy then 0
  else
    let score := addTrendAdjustment b.trend (b.addStabilityScore (b.addConnectionScore
      (b.addJitterScore minJitter (b.addLatencyScore minLatency 0))))
    let scaled := f64 (score * f64 (f64 b.trustCoeff / 100))
    truncate (min (max scaled 0) 100)

@[simps] def increaseTrust (b : Backend) : Backend :=
  { b with
    trustCoeff :=
      if b.trustCoeff < 100 then min (toInt32 (b.trustCoeff + 10)) 100 else b.trustCoeff }

@[simps] def resetTrust (b : Backend) : Backend := { b with trustCoeff := 50 }

def isAvailable (b : Backend) : Bool :=
  !b.disabled && b.healthy &&
    !(b.maxConnections > 0 && b.currentConns ≥ toInt32 b.maxConnections)

/-- `AddPlayer`: the set absorbs a repeated name, the count is always incremented. -/
@[simps] def addPlayer (b : Backend) (name : String) : Backend :=
  { b with players := insert name b.players, currentConns := toInt32 (b.currentConns + 1) }

/-- `RemovePlayer`: the count drops only when the name was in the set. -/
@[simps] def removePlayer (b : Backend) (name : String) : Backend :=
  let present := name ∈ b.players
  { b with
    players := if present then b.players.erase name else b.players
    currentConns := if present then toInt32 (b.currentConns - 1) else b.currentConns }

@[simps] def recordSuccess (b : Backend) : Backend := { b with failCount := 0 }

@[simps] def recordHealthCheckSuccess (b : Backend) : Backend :=
  { b with failCount := 0, successCount := toInt32 (b.successCount + 1) }

@[simps] def resetSuccessCount (b : Backend) : Backend := { b with successCount := 0 }

@[simps] def recordFailure (b : Backend) : Backend :=
  { b with failCount := toInt32 (b.failCount + 1) }

@[simps] def recordHealthCheckFailure (b : Backend) : Backend :=
  { b with failCount := toInt32 (b.failCount + 1), successCount := 0 }

@[simps] def setHealthy (b : Backend) (healthy : Bool) : Backend := { b with healthy := healthy }

@[simps] def setDisabled (b : Backend) (disabled : Bool) : Backend :=
  { b with disabled := disabled }

@[simps] def setLastCheckTime (b : Backend) (unixMilli : Int) : Backend :=
  { b with lastCheckTime := unixMilli }

end Backend

end RmsGate.LoadBalancer
