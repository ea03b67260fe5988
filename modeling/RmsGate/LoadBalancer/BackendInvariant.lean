import RmsGate.LoadBalancer.Backend

/-!
# Reachable backend states

A backend is reachable when some sequence of its own method calls leads to it from
`NewBackend`.  Every caller in the repository passes `RecordLatency` an elapsed time
measured by `time.Since` on the monotonic clock, which is never negative.  Along every
such sequence the trust coefficient stays one of `50, 60, ..., 100` and every window sample
is non-negative.
-/

namespace RmsGate.LoadBalancer

open RmsGate.Go

/-- The values `IncreaseTrust` and `ResetTrust` can leave: `50, 60, ..., 100`. -/
def TrustValid (trust : Int) : Prop := 50 ≤ trust ∧ trust ≤ 100 ∧ trust % 10 = 0

instance (trust : Int) : Decidable (TrustValid trust) :=
  inferInstanceAs (Decidable (_ ∧ _))

namespace Backend

/-- One call of a backend method, by any caller. -/
inductive Step : Backend → Backend → Prop where
  | recordLatency {b next : Backend} {latency : Int} (elapsed : 0 ≤ latency)
      (recorded : b.recordLatency latency = some next) : Step b next
  | increaseTrust (b : Backend) : Step b b.increaseTrust
  | resetTrust (b : Backend) : Step b b.resetTrust
  | addPlayer (b : Backend) (name : String) : Step b (b.addPlayer name)
  | removePlayer (b : Backend) (name : String) : Step b (b.removePlayer name)
  | recordSuccess (b : Backend) : Step b b.recordSuccess
  | recordHealthCheckSuccess (b : Backend) : Step b b.recordHealthCheckSuccess
  | resetSuccessCount (b : Backend) : Step b b.resetSuccessCount
  | recordFailure (b : Backend) : Step b b.recordFailure
  | recordHealthCheckFailure (b : Backend) : Step b b.recordHealthCheckFailure
  | setHealthy (b : Backend) (healthy : Bool) : Step b (b.setHealthy healthy)
  | setDisabled (b : Backend) (disabled : Bool) : Step b (b.setDisabled disabled)
  | setLastCheckTime (b : Backend) (unixMilli : Int) : Step b (b.setLastCheckTime unixMilli)

inductive Reachable : Backend → Prop where
  | init {addr : String} {maxConns windowSize : Int} {b : Backend}
      (built : newBackend addr maxConns windowSize = some b) : Reachable b
  | step {b next : Backend} (reachable : Reachable b) (step : Step b next) : Reachable next

/-- What every reachable backend satisfies. -/
structure Sound (b : Backend) : Prop where
  trustValid : TrustValid b.trustCoeff
  samplesNonneg : ∀ sample ∈ b.latencyWindow, 0 ≤ sample

theorem trustValid_increaseTrust {trust : Int} (valid : TrustValid trust) :
    TrustValid (if trust < 100 then min (toInt32 (trust + 10)) 100 else trust) := by
  obtain ⟨lower, upper, tens⟩ := valid
  split
  · rw [toInt32_of_range (by omega) (by omega)]
    refine ⟨by omega, by omega, ?_⟩
    rcases min_cases (trust + 10) 100 with ⟨eq, _⟩ | ⟨eq, _⟩ <;> rw [eq] <;> omega
  · exact ⟨lower, upper, tens⟩

theorem recordLatency_frame {b next : Backend} {latency : Int}
    (recorded : b.recordLatency latency = some next) :
    next = { b with latencyWindow := next.latencyWindow } := by
  simp only [recordLatency, Option.map_eq_some'] at recorded
  obtain ⟨_, _, rfl⟩ := recorded
  rfl

theorem samplesNonneg_recordLatency {b next : Backend} {latency : Int} (elapsed : 0 ≤ latency)
    (recorded : b.recordLatency latency = some next)
    (nonneg : ∀ sample ∈ b.latencyWindow, 0 ≤ sample) :
    ∀ sample ∈ next.latencyWindow, 0 ≤ sample := by
  simp only [recordLatency, Option.map_eq_some'] at recorded
  obtain ⟨kept, keptEq, rfl⟩ := recorded
  have keptNonneg : ∀ sample ∈ kept, 0 ≤ sample := by
    split at keptEq
    · simp only [sliceFrom] at keptEq
      split at keptEq
      · cases keptEq
        exact fun sample mem => nonneg sample (List.mem_of_mem_drop mem)
      · cases keptEq
    · cases keptEq
      exact nonneg
  intro sample mem
  rcases List.mem_append.mp mem with mem | mem
  · exact keptNonneg sample mem
  · rw [List.mem_singleton.mp mem]
    exact milliseconds_nonneg elapsed

theorem Step.sound {b next : Backend} (step : Step b next) (sound : b.Sound) : next.Sound := by
  cases step with
  | recordLatency elapsed recorded =>
      have sameTrust : next.trustCoeff = b.trustCoeff := by
        rw [recordLatency_frame recorded]
      exact ⟨sameTrust ▸ sound.trustValid,
        samplesNonneg_recordLatency elapsed recorded sound.samplesNonneg⟩
  | increaseTrust => exact ⟨trustValid_increaseTrust sound.trustValid, sound.samplesNonneg⟩
  | resetTrust => exact ⟨show TrustValid 50 by decide, sound.samplesNonneg⟩
  | _ => exact ⟨sound.trustValid, sound.samplesNonneg⟩

theorem Reachable.sound {b : Backend} (reachable : b.Reachable) : b.Sound := by
  induction reachable with
  | init built =>
      simp only [newBackend] at built
      split at built
      · cases built
      · cases built
        exact ⟨show TrustValid 100 by decide, by simp⟩
  | step _ step ih => exact step.sound ih

end Backend

end RmsGate.LoadBalancer
