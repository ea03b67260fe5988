import RmsGate.LoadBalancer.Pool

/-!
# Concurrent dials

Gate calls `Dial` from a goroutine per connecting player, so several calls run at once.  Each
is split here at its TCP dial: `Select` reads the backends, which takes the limit check of
`IsAvailable`, and the outcome writes, with `AddPlayer`, come after the dial returns.  Other
calls, and closes, run in between.  A run in which every selection is followed at once by its
outcome is a run of the sequential pool, so those runs keep the limit; two selections of the
last free slot before either attaches break it.
-/

namespace RmsGate.LoadBalancer

open RmsGate.Go

/-- A `Dial` between its `Select` and the end of its TCP dial: the position of the backend
it picked and the name it will attach. -/
structure PendingDial where
  backend : Nat
  playerName : String

structure DialingPool where
  pool : Pool
  pending : List PendingDial

inductive DialEvent where
  | select (env : SelectEnv) (history : Option HistoryManager) (player : Option String)
  | connect (dial : Nat) (outcome : DialOutcome)
  | close (conn : Nat)

namespace DialingPool

def step (s : DialingPool) : DialEvent → Option DialingPool
  | .select env history player =>
      match s.pool.select env history with
      | (none, pool) => some ⟨pool, s.pending⟩
      | (some i, pool) => some ⟨pool, s.pending ++ [⟨i, playerName player⟩]⟩
  | .connect k outcome =>
      match s.pending[k]? with
      | none => none
      | some dial =>
          (s.pool.connect dial.backend dial.playerName outcome).map fun pool =>
            ⟨pool, s.pending.eraseIdx k⟩
  | .close c => (s.pool.close c).map fun pool => ⟨pool, s.pending⟩

def run (s : DialingPool) (events : List DialEvent) : Option DialingPool :=
  events.foldlM step s

theorem run_append (s : DialingPool) (first rest : List DialEvent) :
    run s (first ++ rest) = (run s first).bind fun s => run s rest := by
  simp [run, List.foldlM_append]

theorem dial_runs {pool next : Pool} {env : SelectEnv} {history : Option HistoryManager}
    {player : Option String} {outcome : DialOutcome}
    (dialed : pool.dial env history player outcome = some next) :
    ∃ events, run ⟨pool, []⟩ events = some ⟨next, []⟩ := by
  unfold Pool.dial at dialed
  split at dialed
  · rename_i selected chosen
    cases dialed
    exact ⟨[.select env history player], by simp [run, step, chosen]⟩
  · rename_i i selected chosen
    refine ⟨[.select env history player, .connect 0 outcome], ?_⟩
    simp [run, step, chosen, dialed]

/-- Every run of the sequential pool is a run of the concurrent one with no dial left
pending: dials that do not overlap. -/
theorem run_of_pool_run {pool : Pool} :
    ∀ {events : List PoolEvent} {next : Pool}, pool.run events = some next →
      ∃ dialEvents, run ⟨pool, []⟩ dialEvents = some ⟨next, []⟩ := by
  intro events
  induction events generalizing pool with
  | nil =>
      rintro next ⟨⟩
      exact ⟨[], rfl⟩
  | cons event events ih =>
      intro next ran
      simp only [Pool.run, List.foldlM_cons, Option.bind_eq_bind, Option.bind_eq_some] at ran
      obtain ⟨stepped, stepEq, rest⟩ := ran
      obtain ⟨restEvents, restRun⟩ := ih rest
      obtain ⟨first, firstRun⟩ : ∃ first, run ⟨pool, []⟩ first = some ⟨stepped, []⟩ := by
        cases event with
        | dial env history player outcome => exact dial_runs stepEq
        | close c =>
            have closed : pool.close c = some stepped := stepEq
            exact ⟨[.close c], by simp [run, step, closed]⟩
      exact ⟨first ++ restEvents, by rw [run_append, firstRun, Option.some_bind, restRun]⟩

end DialingPool

/-- Along every run of dials that do not overlap and of closes, from reachable backends with
no connection, a backend with a limit `0 < maxConnections < 2^31` keeps
`0 ≤ currentConns ≤ maxConnections`, whatever names are dialled; and the run is one of the
concurrent pool in which every selection is followed at once by its outcome. -/
theorem pool_run_within_max {start next : Pool}
    (fresh : ∀ b ∈ start.backends, b.Reachable ∧ b.currentConns = 0 ∧ b.players = ∅)
    {events : List PoolEvent} (run : start.run events = some next) :
    (∀ b ∈ next.backends, 0 < b.maxConnections → b.maxConnections < 2 ^ 31 →
      0 ≤ b.currentConns ∧ b.currentConns ≤ b.maxConnections) ∧
      ∃ dialEvents, DialingPool.run ⟨start, []⟩ dialEvents = some ⟨next, []⟩ := by
  have bounded : start.Bounded := fun b mem => by
    obtain ⟨reachable, conns, players⟩ := fresh b mem
    exact ⟨reachable, fun _ _ => by simp [conns, players]; omega⟩
  refine ⟨fun b mem positive below => ?_, DialingPool.run_of_pool_run run⟩
  obtain ⟨card, atMost⟩ := ((bounded.run run) b mem).2 positive below
  exact ⟨by omega, atMost⟩

theorem pool_run_within_max_alice :
    let fresh : Backend :=
      { addr := "192.168.1.10:25565", maxConnections := 1, currentConns := 0, failCount := 0,
        successCount := 0, healthy := true, disabled := false, latencyWindow := [],
        windowSize := 20, lastCheckTime := 0, players := ∅, trustCoeff := 100 }
    let start : Pool := ⟨[fresh], .sequential, []⟩
    ∃ next b, start.run [.dial ⟨fun _ => 0, fun _ => none⟩ none (some "alice")
        (.connected 1000000)] = some next ∧ next.backends = [b] ∧
      (0 ≤ b.currentConns ∧ b.currentConns ≤ b.maxConnections) ∧
      ∃ dialEvents, DialingPool.run ⟨start, []⟩ dialEvents = some ⟨next, []⟩ := by
  intro fresh start
  have ran : start.run [.dial ⟨fun _ => 0, fun _ => none⟩ none (some "alice")
      (.connected 1000000)] = some _ := rfl
  have reachable : fresh.Reachable :=
    .init (show newBackend "192.168.1.10:25565" 1 20 = some fresh from rfl)
  have within := pool_run_within_max
    (fun b mem => by rw [List.mem_singleton.mp mem]; exact ⟨reachable, rfl, rfl⟩) ran
  exact ⟨_, _, ran, rfl, within.1 _ (List.mem_singleton_self _) (by decide) (by decide), within.2⟩

/-- Two players dial a backend with one free slot at once: both selections see it available,
both attach, and the backend ends with two connections over its limit of one. -/
theorem concurrent_dials_exceed_max :
    let fresh : Backend :=
      { addr := "192.168.1.10:25565", maxConnections := 1, currentConns := 0, failCount := 0,
        successCount := 0, healthy := true, disabled := false, latencyWindow := [],
        windowSize := 20, lastCheckTime := 0, players := ∅, trustCoeff := 100 }
    let env : SelectEnv := ⟨fun _ => 0, fun _ => none⟩
    newBackend "192.168.1.10:25565" 1 20 = some fresh ∧
    ∃ after, DialingPool.run ⟨⟨[fresh], .sequential, []⟩, []⟩
        [.select env none (some "alice"), .select env none (some "bob"),
          .connect 0 (.connected 1000000), .connect 0 (.connected 1000000)] = some after ∧
      after.pool.backends.map (fun b => (b.currentConns, b.maxConnections)) = [(2, 1)] :=
  ⟨rfl, _, rfl, by decide⟩

end RmsGate.LoadBalancer
