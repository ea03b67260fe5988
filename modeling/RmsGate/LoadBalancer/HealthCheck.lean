import RmsGate.LoadBalancer.BackendInvariant

/-!
# The health-check machine of one backend

`checkAllBackends` probes every enabled backend on each tick and moves it between healthy
and unhealthy with hysteresis: `unhealthyAfterFailures` failed checks in a row mark it
unhealthy, `healthyAfterSuccesses` successful checks bring it back at half trust.  The
thresholds are Go `int`s compared after `int32(...)`.
The health loop is one goroutine, but `Dial` and the admin commands call the same backend
from others, between any two of its atomic operations.  Of what those calls write, the loop
reads only the failure count, and only in the failure branch: there it reads `FailCount()`
and then calls `SetHealthy(false)` as two steps, which the machine keeps apart.  Everything
else a tick does is one step, since no other goroutine writes what it reads.  A panic in
`RecordLatency` ends the tick (`healthCheckLoop` recovers and restarts), leaving the state
it struck in.
-/

namespace RmsGate.LoadBalancer

open RmsGate.Go

structure HealthCheckConfig where
  unhealthyAfterFailures : Int
  healthyAfterSuccesses : Int

/-- What `MCPing` returned: the time since its start on the monotonic clock, or an error. -/
inductive ProbeResult where
  | success (latency : Nat)
  | failure
  deriving DecidableEq

def ProbeResult.succeeded : ProbeResult → Bool
  | .success _ => true
  | .failure => false

/-- Where the health loop stands in the failure branch of a tick: it has counted the failure
and not yet read `FailCount()`, or it read a count at the threshold on a healthy backend and
has not yet called `SetHealthy(false)`. -/
inductive HealthPhase where
  | idle
  | counted
  | marking
  deriving DecidableEq

structure HealthState where
  backend : Backend
  phase : HealthPhase
  deriving DecidableEq

/-- A call another goroutine makes on the backend: the outcome writes of `Dial` and its
player tracking, and `DisableBackend` / `EnableBackend`. -/
inductive ConcurrentCall where
  | recordSuccess
  | recordFailure
  | recordLatency (latency : Nat)
  | addPlayer (name : String)
  | removePlayer (name : String)
  | setDisabled (disabled : Bool)

/-- A panic of `Dial` in `RecordLatency` leaves the backend as it was. -/
def ConcurrentCall.apply (b : Backend) : ConcurrentCall → Backend
  | .recordSuccess => b.recordSuccess
  | .recordFailure => b.recordFailure
  | .recordLatency latency => (b.recordLatency latency).getD b
  | .addPlayer name => b.addPlayer name
  | .removePlayer name => b.removePlayer name
  | .setDisabled disabled => b.setDisabled disabled

/-- A successful probe after its latency was recorded: count it towards recovery, or raise
the trust of a healthy backend. -/
def checkSucceeded (cfg : HealthCheckConfig) (b : Backend) : Backend :=
  let wasUnhealthy := !b.healthy
  let counted := b.recordHealthCheckSuccess
  if wasUnhealthy then
    if counted.successCount ≥ toInt32 cfg.healthyAfterSuccesses then
      ((counted.setHealthy true).resetTrust).resetSuccessCount
    else counted
  else counted.increaseTrust

/-- The first step of the tick on one backend, up to the read of `FailCount()`. -/
def checkBackend (cfg : HealthCheckConfig) (now : Int) (probe : ProbeResult) (b : Backend) :
    HealthState :=
  if b.disabled then ⟨b, .idle⟩
  else
    let checked := b.setLastCheckTime now
    match probe with
    | .failure => ⟨checked.recordHealthCheckFailure, .counted⟩
    | .success latency =>
        match checked.recordLatency latency with
        | none => ⟨checked, .idle⟩
        | some recorded => ⟨checkSucceeded cfg recorded, .idle⟩

/-- `FailCount() >= int32(UnhealthyAfterFailures)`, then `IsHealthy()`. -/
def readFailCount (cfg : HealthCheckConfig) (b : Backend) : HealthPhase :=
  if b.failCount ≥ toInt32 cfg.unhealthyAfterFailures then
    if b.healthy then .marking else .idle
  else .idle

inductive HealthEvent where
  | check (now : Int) (probe : ProbeResult)
  | readFailCount
  | markUnhealthy
  | call (call : ConcurrentCall)

def healthStep (cfg : HealthCheckConfig) (s : HealthState) : HealthEvent → Option HealthState
  | .check now probe =>
      if s.phase = .idle then some (checkBackend cfg now probe s.backend) else none
  | .readFailCount =>
      if s.phase = .counted then some ⟨s.backend, readFailCount cfg s.backend⟩ else none
  | .markUnhealthy =>
      if s.phase = .marking then some ⟨s.backend.setHealthy false, .idle⟩ else none
  | .call call => some ⟨call.apply s.backend, s.phase⟩

def healthRun (cfg : HealthCheckConfig) (s : HealthState) (events : List HealthEvent) :
    Option HealthState :=
  events.foldlM (healthStep cfg) s

theorem healthRun_append_singleton (cfg : HealthCheckConfig) (s : HealthState)
    (events : List HealthEvent) (event : HealthEvent) :
    healthRun cfg s (events ++ [event]) =
      (healthRun cfg s events).bind fun s => healthStep cfg s event := by
  simp [healthRun, List.foldlM_append]

theorem Backend.recordLatency_eq_none_iff (b : Backend) (latency : Int) :
    b.recordLatency latency = none ↔ b.windowSize ≤ 0 ∧ b.latencyWindow = [] := by
  simp only [Backend.recordLatency, Option.map_eq_none', sliceFrom]
  split_ifs <;>
    simp only [Option.some_ne_none, false_iff, true_iff, not_and, reduceCtorEq,
      ← List.length_eq_zero] <;> omega

/-! ## One step of the machine -/

namespace ConcurrentCall

/-- A concurrent call writes only the connection and failure counters, the disabled flag,
the window and the players. -/
theorem apply_frame (call : ConcurrentCall) (b : Backend) :
    ∃ currentConns failCount disabled window players,
      call.apply b =
        { b with
          currentConns := currentConns, failCount := failCount, disabled := disabled,
          latencyWindow := window, players := players } := by
  cases call with
  | recordLatency latency =>
      cases recorded : b.recordLatency latency with
      | none => exact ⟨_, _, _, _, _, by rw [apply, recorded, Option.getD_none]⟩
      | some next =>
          refine ⟨b.currentConns, b.failCount, b.disabled, next.latencyWindow, b.players, ?_⟩
          rw [apply, recorded, Option.getD_some]
          exact Backend.recordLatency_frame recorded
  | _ => exact ⟨_, _, _, _, _, rfl⟩

@[simp] theorem apply_healthy (call : ConcurrentCall) (b : Backend) :
    (call.apply b).healthy = b.healthy := by
  obtain ⟨_, _, _, _, _, eq⟩ := call.apply_frame b
  rw [eq]

@[simp] theorem apply_successCount (call : ConcurrentCall) (b : Backend) :
    (call.apply b).successCount = b.successCount := by
  obtain ⟨_, _, _, _, _, eq⟩ := call.apply_frame b
  rw [eq]

@[simp] theorem apply_trustCoeff (call : ConcurrentCall) (b : Backend) :
    (call.apply b).trustCoeff = b.trustCoeff := by
  obtain ⟨_, _, _, _, _, eq⟩ := call.apply_frame b
  rw [eq]

@[simp] theorem apply_windowSize (call : ConcurrentCall) (b : Backend) :
    (call.apply b).windowSize = b.windowSize := by
  obtain ⟨_, _, _, _, _, eq⟩ := call.apply_frame b
  rw [eq]

/-- With no room in the window, `RecordLatency` panics and the window stays empty. -/
theorem apply_latencyWindow_of_full {b : Backend} (full : b.windowSize ≤ 0)
    (empty : b.latencyWindow = []) (call : ConcurrentCall) :
    (call.apply b).latencyWindow = [] := by
  cases call with
  | recordLatency latency =>
      rw [apply, ((b.recordLatency_eq_none_iff latency).mpr ⟨full, empty⟩), Option.getD_none,
        empty]
  | _ => exact empty

theorem apply_reachable {b : Backend} (reachable : b.Reachable) (call : ConcurrentCall) :
    (call.apply b).Reachable := by
  cases call with
  | recordSuccess => exact .step reachable (.recordSuccess b)
  | recordFailure => exact .step reachable (.recordFailure b)
  | recordLatency latency =>
      cases recorded : b.recordLatency latency with
      | none => simpa [apply, recorded] using reachable
      | some next =>
          simpa [apply, recorded] using .step reachable (.recordLatency (by omega) recorded)
  | addPlayer name => exact .step reachable (.addPlayer b name)
  | removePlayer name => exact .step reachable (.removePlayer b name)
  | setDisabled disabled => exact .step reachable (.setDisabled b disabled)

end ConcurrentCall

theorem checkSucceeded_cases (cfg : HealthCheckConfig) (b : Backend) :
    (b.healthy = true ∧ checkSucceeded cfg b = b.recordHealthCheckSuccess.increaseTrust) ∨
    (b.healthy = false ∧
      toInt32 cfg.healthyAfterSuccesses ≤ toInt32 (b.successCount + 1) ∧
      checkSucceeded cfg b =
        ((b.recordHealthCheckSuccess.setHealthy true).resetTrust).resetSuccessCount) ∨
    (b.healthy = false ∧
      toInt32 (b.successCount + 1) < toInt32 cfg.healthyAfterSuccesses ∧
      checkSucceeded cfg b = b.recordHealthCheckSuccess) := by
  unfold checkSucceeded
  cases healthy : b.healthy
  · by_cases recovered : toInt32 cfg.healthyAfterSuccesses ≤ toInt32 (b.successCount + 1)
    · exact .inr (.inl ⟨rfl, recovered, if_pos recovered⟩)
    · exact .inr (.inr ⟨rfl, by omega, if_neg recovered⟩)
  · exact .inl ⟨rfl, rfl⟩

theorem checkSucceeded_reachable (cfg : HealthCheckConfig) {b : Backend}
    (reachable : b.Reachable) : (checkSucceeded cfg b).Reachable := by
  have counted := Backend.Reachable.step reachable (.recordHealthCheckSuccess b)
  rcases checkSucceeded_cases cfg b with ⟨-, eq⟩ | ⟨-, -, eq⟩ | ⟨-, -, eq⟩ <;> rw [eq]
  · exact .step counted (.increaseTrust _)
  · exact .step (.step (.step counted (.setHealthy _ true)) (.resetTrust _))
      (.resetSuccessCount _)
  · exact counted

@[simp] theorem checkSucceeded_windowSize (cfg : HealthCheckConfig) (b : Backend) :
    (checkSucceeded cfg b).windowSize = b.windowSize := by
  unfold checkSucceeded
  dsimp only
  split_ifs <;> rfl

@[simp] theorem checkSucceeded_disabled (cfg : HealthCheckConfig) (b : Backend) :
    (checkSucceeded cfg b).disabled = b.disabled := by
  unfold checkSucceeded
  dsimp only
  split_ifs <;> rfl

@[simp] theorem checkSucceeded_addr (cfg : HealthCheckConfig) (b : Backend) :
    (checkSucceeded cfg b).addr = b.addr := by
  unfold checkSucceeded
  dsimp only
  split_ifs <;> rfl

theorem checkBackend_cases (cfg : HealthCheckConfig) (now : Int) (probe : ProbeResult)
    (b : Backend) :
    (b.disabled = true ∧ checkBackend cfg now probe b = ⟨b, .idle⟩) ∨
    (b.disabled = false ∧ probe = .failure ∧
      checkBackend cfg now probe b = ⟨(b.setLastCheckTime now).recordHealthCheckFailure, .counted⟩) ∨
    (b.disabled = false ∧ ∃ latency, probe = .success latency ∧
      (b.setLastCheckTime now).recordLatency latency = none ∧
      checkBackend cfg now probe b = ⟨b.setLastCheckTime now, .idle⟩) ∨
    (b.disabled = false ∧ ∃ latency recorded, probe = .success latency ∧
      (b.setLastCheckTime now).recordLatency latency = some recorded ∧
      checkBackend cfg now probe b = ⟨checkSucceeded cfg recorded, .idle⟩) := by
  unfold checkBackend
  cases disabled : b.disabled
  · cases probe with
    | failure => exact .inr (.inl ⟨rfl, rfl, rfl⟩)
    | success latency =>
        cases recorded : (b.setLastCheckTime now).recordLatency latency with
        | none => exact .inr (.inr (.inl ⟨rfl, latency, rfl, recorded, by simp [recorded]⟩))
        | some next =>
            exact .inr (.inr (.inr ⟨rfl, latency, next, rfl, recorded, by simp [recorded]⟩))
  · exact .inl ⟨rfl, rfl⟩

@[simp] theorem checkBackend_addr (cfg : HealthCheckConfig) (now : Int) (probe : ProbeResult)
    (b : Backend) : (checkBackend cfg now probe b).backend.addr = b.addr := by
  rcases checkBackend_cases cfg now probe b with
    ⟨_, eq⟩ | ⟨_, _, eq⟩ | ⟨_, _, _, _, eq⟩ | ⟨_, _, _, _, recordedEq, eq⟩ <;> rw [eq] <;>
    try rfl
  show (checkSucceeded cfg _).addr = b.addr
  rw [checkSucceeded_addr, Backend.recordLatency_frame recordedEq]
  rfl

/-- The four kinds of step the machine takes, with what each needs of the phase. -/
theorem healthStep_cases {cfg : HealthCheckConfig} {s next : HealthState} {event : HealthEvent}
    (step : healthStep cfg s event = some next) :
    (∃ now probe, event = .check now probe ∧ s.phase = .idle ∧
      next = checkBackend cfg now probe s.backend) ∨
    (event = .readFailCount ∧ s.phase = .counted ∧
      next = ⟨s.backend, readFailCount cfg s.backend⟩) ∨
    (event = .markUnhealthy ∧ s.phase = .marking ∧ next = ⟨s.backend.setHealthy false, .idle⟩) ∨
    (∃ call, event = .call call ∧ next = ⟨call.apply s.backend, s.phase⟩) := by
  cases event with
  | check now probe =>
      simp only [healthStep, Option.ite_none_right_eq_some, Option.some.injEq] at step
      exact .inl ⟨now, probe, rfl, step.1, step.2.symm⟩
  | readFailCount =>
      simp only [healthStep, Option.ite_none_right_eq_some, Option.some.injEq] at step
      exact .inr (.inl ⟨rfl, step.1, step.2.symm⟩)
  | markUnhealthy =>
      simp only [healthStep, Option.ite_none_right_eq_some, Option.some.injEq] at step
      exact .inr (.inr (.inl ⟨rfl, step.1, step.2.symm⟩))
  | call call =>
      simp only [healthStep, Option.some.injEq] at step
      exact .inr (.inr (.inr ⟨call, rfl, step.symm⟩))

/-! ## What the trace says about the probes

The outcomes of the probes a run performs are read off its events alone: a tick skips a
backend that the last `setDisabled` call disabled. -/

structure ProbeLog where
  disabled : Bool
  outcomes : List Bool

def ProbeLog.observe (log : ProbeLog) : HealthEvent → ProbeLog
  | .check _ probe =>
      if log.disabled then log else { log with outcomes := log.outcomes ++ [probe.succeeded] }
  | .call (.setDisabled disabled) => { log with disabled := disabled }
  | _ => log

def probeLog (events : List HealthEvent) : ProbeLog := events.foldl ProbeLog.observe ⟨false, []⟩

def successesSinceFailure (outcomes : List Bool) : Nat := (outcomes.reverse.takeWhile id).length

@[simp] theorem successesSinceFailure_nil : successesSinceFailure [] = 0 := rfl

@[simp] theorem successesSinceFailure_append_true (outcomes : List Bool) :
    successesSinceFailure (outcomes ++ [true]) = successesSinceFailure outcomes + 1 := by
  simp [successesSinceFailure]

@[simp] theorem successesSinceFailure_append_false (outcomes : List Bool) :
    successesSinceFailure (outcomes ++ [false]) = 0 := by
  simp [successesSinceFailure]

theorem probeLog_append_singleton (events : List HealthEvent) (event : HealthEvent) :
    probeLog (events ++ [event]) = (probeLog events).observe event := by
  simp [probeLog]

/-! ## What every run keeps -/

/-- What holds in a state of the machine, given the log of the events that led to it. -/
structure HealthInv (cfg : HealthCheckConfig) (log : ProbeLog) (s : HealthState) : Prop where
  reachable : s.backend.Reachable
  /-- With no room in the window every `RecordLatency` panics, so trust never moves. -/
  noWindow : s.backend.windowSize ≤ 0 → s.backend.latencyWindow = [] ∧ s.backend.trustCoeff = 100
  disabled : log.disabled = s.backend.disabled
  /-- Inside the failure branch the last check failed. -/
  pending : s.phase ≠ .idle → s.backend.successCount = 0 ∧ successesSinceFailure log.outcomes = 0
  recovering : 0 < s.backend.windowSize → s.backend.healthy = false →
    s.backend.successCount = successesSinceFailure log.outcomes ∧
      (s.backend.successCount = 0 ∨ s.backend.successCount < toInt32 cfg.healthyAfterSuccesses)

theorem healthInv_init (cfg : HealthCheckConfig) {addr : String} {maxConns windowSize : Int}
    {b : Backend} (built : newBackend addr maxConns windowSize = some b) :
    HealthInv cfg (probeLog []) ⟨b, .idle⟩ := by
  have reachable : b.Reachable := .init built
  rw [newBackend] at built
  split at built
  · contradiction
  · cases built
    exact ⟨reachable, fun _ => ⟨rfl, rfl⟩, rfl, fun idle => (idle rfl).elim, by simp⟩

theorem ProbeLog.observe_check {log : ProbeLog} {b : Backend} (disabled : log.disabled = b.disabled)
    (enabled : b.disabled = false) (now : Int) (probe : ProbeResult) :
    log.observe (.check now probe) = { log with outcomes := log.outcomes ++ [probe.succeeded] } := by
  simp [observe, disabled, enabled]

theorem HealthInv.checkSucceeded {cfg : HealthCheckConfig} {log : ProbeLog}
    {s : HealthState} {recorded : Backend} {now : Int} {latency : Nat}
    (inv : HealthInv cfg log s) (enabled : s.backend.disabled = false)
    (recordedEq : (s.backend.setLastCheckTime now).recordLatency latency = some recorded) :
    HealthInv cfg (log.observe (.check now (.success latency)))
      ⟨checkSucceeded cfg recorded, .idle⟩ := by
  have frame := Backend.recordLatency_frame recordedEq
  obtain ⟨healthy, successCount, windowSize, disabled⟩ :
      recorded.healthy = s.backend.healthy ∧ recorded.successCount = s.backend.successCount ∧
        recorded.windowSize = s.backend.windowSize ∧ recorded.disabled = s.backend.disabled := by
    rw [frame]
    simp
  have hasRoom : 0 < s.backend.windowSize := by
    by_contra full
    have panics := (Backend.recordLatency_eq_none_iff (s.backend.setLastCheckTime now) latency).mpr
      ⟨by simpa using full, by simpa using (inv.noWindow (by omega)).1⟩
    rw [panics] at recordedEq
    contradiction
  rw [ProbeLog.observe_check inv.disabled enabled]
  refine ⟨checkSucceeded_reachable cfg (.step (.step inv.reachable (.setLastCheckTime _ now))
    (.recordLatency (by omega) recordedEq)), fun full => ?_, ?_, fun idle => (idle rfl).elim,
    fun _ unhealthy => ?_⟩
  · simp only [checkSucceeded_windowSize] at full
    omega
  · simp only [checkSucceeded_disabled, disabled, inv.disabled]
  · rcases checkSucceeded_cases cfg recorded with
      ⟨wasHealthy, eq⟩ | ⟨-, -, eq⟩ | ⟨wasUnhealthy, below, eq⟩ <;> simp only [eq] at unhealthy ⊢
    · simp [wasHealthy] at unhealthy
    · simp at unhealthy
    · obtain ⟨count, bound⟩ := inv.recovering hasRoom (healthy ▸ wasUnhealthy)
      have exact : toInt32 (s.backend.successCount + 1) = s.backend.successCount + 1 :=
        toInt32_add_one (by omega) (by have := toInt32_lt cfg.healthyAfterSuccesses; omega)
      rw [successCount, exact] at below
      simp only [Backend.recordHealthCheckSuccess_successCount, successCount, exact,
        ProbeResult.succeeded, successesSinceFailure_append_true]
      omega

theorem HealthInv.call {cfg : HealthCheckConfig} {log : ProbeLog} {s : HealthState}
    (inv : HealthInv cfg log s) (call : ConcurrentCall) :
    HealthInv cfg (log.observe (.call call)) ⟨call.apply s.backend, s.phase⟩ := by
  have outcomes : (log.observe (.call call)).outcomes = log.outcomes := by
    cases call <;> rfl
  refine ⟨call.apply_reachable inv.reachable, fun full => ?_, ?_, ?_, ?_⟩
  · simp only [ConcurrentCall.apply_windowSize, ConcurrentCall.apply_trustCoeff] at full ⊢
    exact ⟨call.apply_latencyWindow_of_full full (inv.noWindow full).1, (inv.noWindow full).2⟩
  · cases call with
    | recordLatency latency =>
        cases recorded : s.backend.recordLatency latency with
        | none => simpa [ConcurrentCall.apply, recorded] using inv.disabled
        | some next =>
            simp only [ConcurrentCall.apply, recorded, Option.getD_some]
            rw [Backend.recordLatency_frame recorded]
            exact inv.disabled
    | setDisabled disabled => rfl
    | _ => simpa [ProbeLog.observe, ConcurrentCall.apply] using inv.disabled
  · simpa [outcomes] using inv.pending
  · simpa [outcomes] using inv.recovering

theorem HealthInv.step {cfg : HealthCheckConfig} {log : ProbeLog} {s next : HealthState}
    {event : HealthEvent} (inv : HealthInv cfg log s)
    (step : healthStep cfg s event = some next) : HealthInv cfg (log.observe event) next := by
  rcases healthStep_cases step with ⟨now, probe, rfl, idle, rfl⟩ | ⟨rfl, counted, rfl⟩ |
    ⟨rfl, marking, rfl⟩ | ⟨call, rfl, rfl⟩
  · rcases checkBackend_cases cfg now probe s.backend with ⟨disabled, eq⟩ |
      ⟨enabled, rfl, eq⟩ | ⟨enabled, latency, rfl, panics, eq⟩ |
      ⟨enabled, latency, recorded, rfl, recordedEq, eq⟩ <;> rw [eq]
    · have same : log.observe (.check now probe) = log := by
        simp [ProbeLog.observe, inv.disabled, disabled]
      rw [same]
      exact ⟨inv.reachable, inv.noWindow, inv.disabled, fun idle => (idle rfl).elim,
        inv.recovering⟩
    · rw [ProbeLog.observe_check inv.disabled enabled]
      exact ⟨.step (.step inv.reachable (.setLastCheckTime _ now)) (.recordHealthCheckFailure _),
        by simpa using inv.noWindow, by simpa using inv.disabled,
        fun _ => by simp [ProbeResult.succeeded], fun _ _ => by simp [ProbeResult.succeeded]⟩
    · have full := ((Backend.recordLatency_eq_none_iff _ _).mp panics).1
      rw [ProbeLog.observe_check inv.disabled enabled]
      refine ⟨.step inv.reachable (.setLastCheckTime _ now), by simpa using inv.noWindow,
        by simpa using inv.disabled, fun idle => (idle rfl).elim, fun room => ?_⟩
      simp only [Backend.setLastCheckTime_windowSize] at full room
      omega
    · exact inv.checkSucceeded enabled recordedEq
  · exact ⟨inv.reachable, inv.noWindow, inv.disabled,
      fun _ => inv.pending (by simp [counted]), inv.recovering⟩
  · obtain ⟨noSuccess, noCount⟩ := inv.pending (by simp [marking])
    refine ⟨.step inv.reachable (.setHealthy _ false), by simpa using inv.noWindow,
      by simpa using inv.disabled, fun idle => (idle rfl).elim, fun _ _ => ?_⟩
    simp [ProbeLog.observe, noSuccess, noCount]
  · exact inv.call call

theorem healthRun_inv (cfg : HealthCheckConfig) {addr : String} {maxConns windowSize : Int}
    {b : Backend} (built : newBackend addr maxConns windowSize = some b) :
    ∀ events s, healthRun cfg ⟨b, .idle⟩ events = some s → HealthInv cfg (probeLog events) s := by
  intro events
  induction events using List.reverseRecOn with
  | nil =>
      rintro s ⟨⟩
      exact healthInv_init cfg built
  | append_singleton events event ih =>
      intro next run
      rw [healthRun_append_singleton, Option.bind_eq_some] at run
      obtain ⟨s, prefixRun, step⟩ := run
      rw [probeLog_append_singleton]
      exact (ih s prefixRun).step step

/-! ## Health transitions -/

theorem checkBackend_phase_ne_marking (cfg : HealthCheckConfig) (now : Int)
    (probe : ProbeResult) (b : Backend) : (checkBackend cfg now probe b).phase ≠ .marking := by
  rcases checkBackend_cases cfg now probe b with ⟨-, eq⟩ | ⟨-, -, eq⟩ | ⟨-, _, -, -, eq⟩ |
    ⟨-, _, _, -, -, eq⟩ <;> simp [eq]

theorem checkBackend_health (cfg : HealthCheckConfig) (now : Int) (probe : ProbeResult)
    (b : Backend) :
    let next := (checkBackend cfg now probe b).backend
    (b.healthy = true → next.healthy = true) ∧
    (b.healthy = false → next.healthy = true →
      b.disabled = false ∧ (∃ latency, probe = .success latency) ∧
      toInt32 cfg.healthyAfterSuccesses ≤ toInt32 (b.successCount + 1) ∧
      next.trustCoeff = 50 ∧ next.successCount = 0) := by
  intro next
  rcases checkBackend_cases cfg now probe b with ⟨-, eq⟩ | ⟨-, -, eq⟩ | ⟨-, -, -, -, eq⟩ |
    ⟨enabled, latency, recorded, rfl, recordedEq, eq⟩ <;> simp only [next, eq]
  · exact ⟨id, fun unhealthy healthy => by simp_all⟩
  · exact ⟨by simp, fun unhealthy healthy => by simp_all⟩
  · exact ⟨by simp, fun unhealthy healthy => by simp_all⟩
  · have frame := Backend.recordLatency_frame recordedEq
    obtain ⟨healthy, successCount⟩ : recorded.healthy = b.healthy ∧
        recorded.successCount = b.successCount := by
      rw [frame]
      simp
    rw [← healthy, ← successCount]
    rcases checkSucceeded_cases cfg recorded with ⟨wasHealthy, eq⟩ | ⟨wasUnhealthy, reached, eq⟩ |
      ⟨wasUnhealthy, -, eq⟩ <;> rw [eq]
    · simp [wasHealthy]
    · exact ⟨by simp [wasUnhealthy], fun _ _ => ⟨enabled, ⟨latency, rfl⟩, reached, by simp, by simp⟩⟩
    · simp [wasUnhealthy]

theorem increaseTrust_trustCoeff_of_valid {b : Backend} (valid : TrustValid b.trustCoeff) :
    b.increaseTrust.trustCoeff = b.trustCoeff + min 10 (100 - b.trustCoeff) := by
  obtain ⟨lower, upper, -⟩ := valid
  simp only [Backend.increaseTrust_trustCoeff]
  split
  · rw [toInt32_of_range (by omega) (by omega)]
    omega
  · omega

/-- A successful probe of a healthy, enabled backend raises its trust by up to ten points. -/
theorem checkBackend_raises_trust (cfg : HealthCheckConfig) (now : Int) (latency : Nat)
    {b : Backend} (healthy : b.healthy = true) (enabled : b.disabled = false)
    (valid : TrustValid b.trustCoeff)
    (noWindow : b.windowSize ≤ 0 → b.latencyWindow = [] ∧ b.trustCoeff = 100) :
    (checkBackend cfg now (.success latency) b).backend.trustCoeff =
      b.trustCoeff + min 10 (100 - b.trustCoeff) := by
  rcases checkBackend_cases cfg now (.success latency) b with ⟨disabled, -⟩ | ⟨-, failed, -⟩ |
    ⟨-, _, ⟨⟩, panics, eq⟩ | ⟨-, _, recorded, ⟨⟩, recordedEq, eq⟩
  · simp [enabled] at disabled
  · cases failed
  · obtain ⟨full, -⟩ := (Backend.recordLatency_eq_none_iff _ _).mp panics
    simp only [eq, Backend.setLastCheckTime_windowSize, Backend.setLastCheckTime_trustCoeff]
      at full ⊢
    omega
  · rw [eq]
    have frame := Backend.recordLatency_frame recordedEq
    obtain ⟨wasHealthy, trust⟩ : recorded.healthy = true ∧ recorded.trustCoeff = b.trustCoeff := by
      rw [frame]
      simp [healthy]
    rcases checkSucceeded_cases cfg recorded with ⟨-, eq⟩ | ⟨unhealthy, -⟩ | ⟨unhealthy, -⟩
    · rw [eq, increaseTrust_trustCoeff_of_valid (by simpa [trust] using valid)]
      simp [trust]
    all_goals simp [wasHealthy] at unhealthy

theorem readFailCount_eq_marking {cfg : HealthCheckConfig} {b : Backend}
    (marking : readFailCount cfg b = .marking) :
    b.healthy = true ∧ toInt32 cfg.unhealthyAfterFailures ≤ b.failCount := by
  unfold readFailCount at marking
  split_ifs at marking with reached healthy
  exact ⟨healthy, reached⟩

/-- `healthy` falls only at the `SetHealthy(false)` of a failure branch, which is entered only
by a read of the failure count at `int32(UnhealthyAfterFailures)` or above, on a healthy
backend. -/
theorem healthStep_marks_unhealthy {cfg : HealthCheckConfig} {s next : HealthState}
    {event : HealthEvent} (step : healthStep cfg s event = some next) :
    (s.backend.healthy = true → next.backend.healthy = false →
      event = .markUnhealthy ∧ s.phase = .marking) ∧
    (s.phase ≠ .marking → next.phase = .marking →
      event = .readFailCount ∧ s.backend.healthy = true ∧
        toInt32 cfg.unhealthyAfterFailures ≤ s.backend.failCount) := by
  rcases healthStep_cases step with ⟨now, probe, rfl, -, rfl⟩ | ⟨rfl, -, rfl⟩ |
    ⟨rfl, marking, rfl⟩ | ⟨call, rfl, rfl⟩
  · refine ⟨fun healthy unhealthy => ?_, fun _ marking => ?_⟩
    · simp [(checkBackend_health cfg now probe s.backend).1 healthy] at unhealthy
    · exact absurd marking (checkBackend_phase_ne_marking cfg now probe s.backend)
  · refine ⟨fun healthy unhealthy => by simp_all, fun _ marking => ?_⟩
    exact ⟨rfl, readFailCount_eq_marking marking⟩
  · exact ⟨fun _ _ => ⟨rfl, marking⟩, fun notMarking => absurd marking notMarking⟩
  · exact ⟨fun healthy unhealthy => by simp_all, fun notMarking marking => absurd marking notMarking⟩

/-- `healthy` rises only in a successful check of an enabled backend that brings the success
count to `int32(HealthyAfterSuccesses)`, and the check leaves half trust and no count. -/
theorem healthStep_recovers {cfg : HealthCheckConfig} {s next : HealthState}
    {event : HealthEvent} (step : healthStep cfg s event = some next)
    (unhealthy : s.backend.healthy = false) (healthy : next.backend.healthy = true) :
    (∃ now latency, event = .check now (.success latency)) ∧ s.backend.disabled = false ∧
      toInt32 cfg.healthyAfterSuccesses ≤ toInt32 (s.backend.successCount + 1) ∧
      next.backend.trustCoeff = 50 ∧ next.backend.successCount = 0 := by
  rcases healthStep_cases step with ⟨now, probe, rfl, -, rfl⟩ | ⟨rfl, -, rfl⟩ |
    ⟨rfl, -, rfl⟩ | ⟨call, rfl, rfl⟩
  · obtain ⟨enabled, ⟨latency, rfl⟩, reached, trust, count⟩ :=
      (checkBackend_health cfg now probe s.backend).2 unhealthy healthy
    exact ⟨⟨now, latency, rfl⟩, enabled, reached, trust, count⟩
  all_goals simp_all

theorem HealthInv.raises_trust {cfg : HealthCheckConfig} {log : ProbeLog} {s next : HealthState}
    {now : Int} {latency : Nat} (inv : HealthInv cfg log s)
    (step : healthStep cfg s (.check now (.success latency)) = some next)
    (healthy : s.backend.healthy = true) (enabled : s.backend.disabled = false) :
    next.backend.trustCoeff = s.backend.trustCoeff + min 10 (100 - s.backend.trustCoeff) := by
  rcases healthStep_cases step with ⟨_, _, ⟨⟩, -, rfl⟩ | ⟨⟨⟩, -⟩ | ⟨⟨⟩, -⟩ | ⟨_, ⟨⟩, -⟩
  exact checkBackend_raises_trust cfg now latency healthy enabled
    inv.reachable.sound.trustValid inv.noWindow

/-! ## The hysteresis laws -/

/-- The laws of a state reached from `NewBackend`, for the log of the run that reached it and
every step it can take next. -/
structure HealthGuarantees (cfg : HealthCheckConfig) (log : ProbeLog) (s : HealthState) :
    Prop where
  trustValid : TrustValid s.backend.trustCoeff
  /-- With room in the window, an unhealthy backend counts the checks that succeeded since
  the last failed one. -/
  countsSuccesses : 0 < s.backend.windowSize → s.backend.healthy = false →
    s.backend.successCount = successesSinceFailure log.outcomes
  /-- It turns unhealthy only at the `SetHealthy(false)` of a failure branch ... -/
  marksUnhealthy : ∀ event next, healthStep cfg s event = some next →
    s.backend.healthy = true → next.backend.healthy = false →
      event = .markUnhealthy ∧ s.phase = .marking
  /-- ... whose read of the failure count reached `int32(UnhealthyAfterFailures)`. -/
  readsThreshold : ∀ event next, healthStep cfg s event = some next →
    s.phase ≠ .marking → next.phase = .marking →
      event = .readFailCount ∧ s.backend.healthy = true ∧
        toInt32 cfg.unhealthyAfterFailures ≤ s.backend.failCount
  /-- It recovers only in the successful check that brings the count to
  `int32(HealthyAfterSuccesses)`, which leaves half trust and no count. -/
  recovers : ∀ event next, healthStep cfg s event = some next →
    s.backend.healthy = false → next.backend.healthy = true →
      (∃ now latency, event = .check now (.success latency)) ∧ s.backend.disabled = false ∧
        toInt32 cfg.healthyAfterSuccesses ≤ toInt32 (s.backend.successCount + 1) ∧
        next.backend.trustCoeff = 50 ∧ next.backend.successCount = 0
  raisesTrust : ∀ now latency next, healthStep cfg s (.check now (.success latency)) = some next →
    s.backend.healthy = true → s.backend.disabled = false →
      next.backend.trustCoeff = s.backend.trustCoeff + min 10 (100 - s.backend.trustCoeff)

theorem healthRun_hysteresis (cfg : HealthCheckConfig) {addr : String}
    {maxConns windowSize : Int} {b : Backend} (built : newBackend addr maxConns windowSize = some b)
    (events : List HealthEvent) {s : HealthState}
    (run : healthRun cfg ⟨b, .idle⟩ events = some s) :
    HealthGuarantees cfg (probeLog events) s := by
  have inv := healthRun_inv cfg built events s run
  exact ⟨inv.reachable.sound.trustValid, fun room unhealthy => (inv.recovering room unhealthy).1,
    fun _ _ step => (healthStep_marks_unhealthy step).1,
    fun _ _ step => (healthStep_marks_unhealthy step).2,
    fun _ _ step => healthStep_recovers step, fun _ _ _ step => inv.raises_trust step⟩

theorem healthRun_hysteresis_probed :
    let fresh : Backend :=
      { addr := "192.168.1.10:25565", maxConnections := 50, currentConns := 0, failCount := 0,
        successCount := 0, healthy := true, disabled := false, latencyWindow := [],
        windowSize := 20, lastCheckTime := 0, players := ∅, trustCoeff := 100 }
    let events : List HealthEvent :=
      [.check 0 .failure, .readFailCount, .markUnhealthy, .check 5000 (.success 12000000)]
    (∃ down, healthRun ⟨1, 1⟩ ⟨fresh, .idle⟩ (events.take 3) = some down ∧
      down.backend.healthy = false) ∧
    ∃ s, healthRun ⟨1, 1⟩ ⟨fresh, .idle⟩ events = some s ∧ s.backend.healthy = true ∧
      HealthGuarantees ⟨1, 1⟩ (probeLog events) s :=
  ⟨⟨_, rfl, rfl⟩, _, rfl, rfl, healthRun_hysteresis ⟨1, 1⟩
    (show newBackend "192.168.1.10:25565" 50 20 = some _ from rfl) _ rfl⟩

/-- Three runs where a law stated with the raw thresholds fails.  A threshold of `2^31`
becomes `-2^31` under `int32(...)`, so one failure marks the backend unhealthy.  A `Dial`
success between the read of the failure count and `SetHealthy(false)` leaves an unhealthy
backend with no failures.  With no room in the window every successful probe panics before it
is counted, so an unhealthy backend never recovers. -/
theorem healthCheck_breaks_raw_thresholds :
    let fresh : Backend :=
      { addr := "192.168.1.10:25565", maxConnections := 50, currentConns := 0, failCount := 0,
        successCount := 0, healthy := true, disabled := false, latencyWindow := [],
        windowSize := 20, lastCheckTime := 0, players := ∅, trustCoeff := 100 }
    let noRoom : Backend := { fresh with windowSize := 0 }
    let failedCheck (now : Int) : List HealthEvent := [.check now .failure, .readFailCount]
    let recovering := failedCheck 0 ++ [.markUnhealthy, .check 5000 (.success 12000000)]
    newBackend "192.168.1.10:25565" 50 20 = some fresh ∧
    newBackend "192.168.1.10:25565" 50 0 = some noRoom ∧
    (∃ s, healthRun ⟨2 ^ 31, 3⟩ ⟨fresh, .idle⟩ (failedCheck 0 ++ [.markUnhealthy]) = some s ∧
      s.backend.healthy = false ∧ s.backend.failCount < 2 ^ 31) ∧
    (∃ s, healthRun ⟨3, 3⟩ ⟨fresh, .idle⟩ (failedCheck 0 ++ failedCheck 5000 ++
        failedCheck 10000 ++ [.call .recordSuccess, .markUnhealthy]) = some s ∧
      s.backend.healthy = false ∧ s.backend.failCount < 3) ∧
    (∃ s, healthRun ⟨1, 3⟩ ⟨noRoom, .idle⟩ recovering = some s ∧
      s.backend.healthy = false ∧
      s.backend.successCount ≠ successesSinceFailure (probeLog recovering).outcomes) :=
  ⟨rfl, rfl, ⟨_, rfl, rfl, by decide⟩, ⟨_, rfl, rfl, by decide⟩, ⟨_, rfl, rfl, by decide⟩⟩

end RmsGate.LoadBalancer
