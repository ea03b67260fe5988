import RmsGate.LoadBalancer.HealthCheck
import RmsGate.LoadBalancer.History

/-!
# The clock of a health probe

`Backend.MCPing` reads `time.Now()` into `start` and takes `latency := time.Since(start)` on
the next line, before it dials the backend and runs `MCPingConn`; it returns that `latency`
with the outcome of the exchange.  `checkAllBackends` then calls `SetLastCheckTime`, and on
success `RecordLatency(latency)` and `Record(addr, float64(latency.Milliseconds()), Jitter())`
on the history.
The clock counts nanoseconds and moves only at the two network steps, the dial and the exchange
of `MCPingConn`, each by an amount of its own; two readings with no network step between them
agree.  Whether the exchange succeeds is what the status-ping module decides from the reply.
-/

namespace RmsGate.LoadBalancer

open RmsGate.Go

/-- The network steps of one `MCPing`: how long each takes, and whether it succeeds. -/
structure PingSteps where
  dialTime : Nat
  dialed : Bool
  exchangeTime : Nat
  exchanged : Bool

/-- `MCPing` on a clock reading `now` at its start: its result, and the clock when it returns. -/
def mcPing (now : Nat) (net : PingSteps) : ProbeResult × Nat :=
  let start := now
  let latency := now - start
  let afterDial := now + net.dialTime
  if net.dialed then
    let afterExchange := afterDial + net.exchangeTime
    if net.exchanged then (.success latency, afterExchange) else (.failure, afterExchange)
  else (.failure, afterDial)

/-- The tick of `checkAllBackends` on one backend with the history: the probe from `now`,
`SetLastCheckTime` when it returns, and on success `RecordLatency`, then `Record` in the period
of the clock with the jitter of the window just recorded. -/
def probeTick (cfg : HealthCheckConfig) (period : Fin 96) (now : Nat) (net : PingSteps)
    (b : Backend) (hm : HistoryManager) : HealthState × HistoryManager :=
  if b.disabled then (⟨b, .idle⟩, hm)
  else
    let checked := b.setLastCheckTime ((mcPing now net).2 / 1000000 : Nat)
    match (mcPing now net).1 with
    | .failure => (⟨checked.recordHealthCheckFailure, .counted⟩, hm)
    | .success latency =>
        match checked.recordLatency latency with
        | none => (⟨checked, .idle⟩, hm)
        | some recorded =>
            (⟨checkSucceeded cfg recorded, .idle⟩,
              hm.record period b.addr (milliseconds latency) recorded.jitter)

/-- Whether the tick panics: the probe of an enabled backend succeeds and `RecordLatency`, with
no room in an empty window, slices it out of range. -/
def probePanics (now : Nat) (net : PingSteps) (b : Backend) : Bool :=
  !b.disabled && match (mcPing now net).1 with
    | .success latency =>
        ((b.setLastCheckTime ((mcPing now net).2 / 1000000 : Nat)).recordLatency latency).isNone
    | .failure => false

theorem probePanics_of_room (now : Nat) (net : PingSteps) {b : Backend} (room : 0 < b.windowSize) :
    probePanics now net b = false := by
  unfold probePanics
  split
  · rename_i latency _
    cases recorded : (b.setLastCheckTime ((mcPing now net).2 / 1000000 : Nat)).recordLatency latency
    · have := ((Backend.recordLatency_eq_none_iff _ _).mp recorded).1
      simp only [Backend.setLastCheckTime_windowSize] at this
      omega
    · simp
  · simp

theorem probeTick_backend (cfg : HealthCheckConfig) (period : Fin 96) (now : Nat)
    (net : PingSteps) (b : Backend) (hm : HistoryManager) :
    (probeTick cfg period now net b hm).1 =
      checkBackend cfg ((mcPing now net).2 / 1000000 : Nat) (mcPing now net).1 b := by
  unfold probeTick checkBackend
  split
  · rfl
  · generalize (mcPing now net).1 = probe
    cases probe with
    | failure => rfl
    | success latency =>
        dsimp only
        cases (b.setLastCheckTime ((mcPing now net).2 / 1000000 : Nat)).recordLatency latency <;>
          rfl

theorem checkSucceeded_latencyWindow (cfg : HealthCheckConfig) (b : Backend) :
    (checkSucceeded cfg b).latencyWindow = b.latencyWindow := by
  rcases checkSucceeded_cases cfg b with ⟨-, eq⟩ | ⟨-, -, eq⟩ | ⟨-, -, eq⟩ <;> rw [eq] <;>
    rfl

theorem mcPing_success (now dialTime exchangeTime : Nat) :
    mcPing now ⟨dialTime, true, exchangeTime, true⟩ =
      (.success 0, now + dialTime + exchangeTime) := by
  simp [mcPing]

/-- On an enabled backend with room in its window, the tick records the latency `MCPing`
returned: in milliseconds, as the newest sample of the window and as the sample of `Record`. -/
theorem probeTick_records_latency (cfg : HealthCheckConfig) (period : Fin 96) {now : Nat}
    {net : PingSteps} {b : Backend} (hm : HistoryManager) (enabled : b.disabled = false)
    (room : 0 < b.windowSize) {latency : Nat} (succeeded : (mcPing now net).1 = .success latency) :
    (probeTick cfg period now net b hm).1.backend.latencyWindow.getLast? =
        some (milliseconds latency) ∧
      ∃ jitter, (probeTick cfg period now net b hm).2 =
        hm.record period b.addr (milliseconds latency) jitter := by
  obtain ⟨recorded, recordedEq⟩ : ∃ recorded,
      (b.setLastCheckTime ((mcPing now net).2 / 1000000 : Nat)).recordLatency latency =
        some recorded :=
    Option.ne_none_iff_exists'.mp fun panicked => by
      have := (Backend.recordLatency_eq_none_iff _ _).mp panicked
      simp only [Backend.setLastCheckTime_windowSize] at this
      omega
  have window : recorded.latencyWindow.getLast? = some (milliseconds latency) := by
    simp only [Backend.recordLatency, Option.map_eq_some'] at recordedEq
    obtain ⟨kept, -, rfl⟩ := recordedEq
    simp
  have ticked : probeTick cfg period now net b hm =
      (⟨checkSucceeded cfg recorded, .idle⟩,
        hm.record period b.addr (milliseconds latency) recorded.jitter) := by
    simp only [probeTick, enabled, succeeded, Bool.false_eq_true, if_false, recordedEq]
  rw [ticked, checkSucceeded_latencyWindow, window]
  exact ⟨rfl, recorded.jitter, rfl⟩

/-- `MCPing` takes its latency before the dial, so a successful probe records no time at all:
whatever the dial and the exchange take, `checkAllBackends` appends 0 ms to the window of an
enabled backend with room for samples, and passes 0 ms to the history's `Record`. -/
theorem probeTick_records_zero_latency (cfg : HealthCheckConfig) (period : Fin 96)
    (now dialTime exchangeTime : Nat) (b : Backend) (hm : HistoryManager)
    (enabled : b.disabled = false) (room : 0 < b.windowSize) :
    let net : PingSteps := ⟨dialTime, true, exchangeTime, true⟩
    (mcPing now net).2 = now + dialTime + exchangeTime ∧
      (probeTick cfg period now net b hm).1.backend.latencyWindow.getLast? = some 0 ∧
      ∃ jitter, (probeTick cfg period now net b hm).2 = hm.record period b.addr 0 jitter := by
  intro net
  have pinged : mcPing now net = (.success 0, now + dialTime + exchangeTime) :=
    mcPing_success now dialTime exchangeTime
  have recorded := probeTick_records_latency cfg period hm enabled room (by rw [pinged])
  simp only [milliseconds, Nat.cast_zero, Int.zero_tdiv] at recorded
  exact ⟨by rw [pinged], recorded⟩

/-- A probe of an enabled backend with a window of 20 whose dial takes 5 ms and whose exchange
takes 15 ms. -/
theorem probeTick_records_zero_latency_twenty_ms :
    let b : Backend := ⟨"mc1:25565", 100, 0, 0, 0, true, false, [], 20, 0, ∅, 100⟩
    let net : PingSteps := ⟨5000000, true, 15000000, true⟩
    b.disabled = false ∧ 0 < b.windowSize ∧
      ((mcPing 0 net).2 = 0 + 5000000 + 15000000 ∧
        (probeTick ⟨3, 2⟩ 0 0 net b HistoryManager.new).1.backend.latencyWindow.getLast? =
          some 0 ∧
        ∃ jitter, (probeTick ⟨3, 2⟩ 0 0 net b HistoryManager.new).2 =
          HistoryManager.new.record 0 b.addr 0 jitter) := by
  intro b net
  exact ⟨rfl, by decide, probeTick_records_zero_latency ⟨3, 2⟩ 0 0 5000000 15000000 b
    HistoryManager.new rfl (by decide)⟩

end RmsGate.LoadBalancer
