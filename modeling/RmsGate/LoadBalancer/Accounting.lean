import RmsGate.LoadBalancer.Lifecycle

/-!
# Connection counts of a running load balancer

`Dial` counts one more connection on the backend it attaches a player to, and closing a tracked
connection counts one less.  The health loop writes a backend's health, window and trust, and
`DisableBackend` and `EnableBackend` write its flag: neither touches a count, a player set or a
tracked connection.  So the exact accounting of a pool whose dials attach distinct names holds
of the whole load balancer: along every run from `Start` in which no dial attaches a name that
already has an open connection on the backend `Select` picks, each backend counts its open
tracked connections, in its count and in its player set.
-/

namespace RmsGate.LoadBalancer

open RmsGate.Go

theorem newBackend_idle {addr : String} {maxConns windowSize : Int} {b : Backend}
    (built : newBackend addr maxConns windowSize = some b) :
    b.currentConns = 0 ∧ b.players = ∅ := by
  rw [newBackend] at built
  split at built
  · contradiction
  · cases built
    exact ⟨rfl, rfl⟩

namespace Pool

theorem Tracked.of_frame {pool : Pool} (tracked : pool.Tracked) {backends : List Backend}
    (frame : ∀ (i : Nat) (b' : Backend), backends[i]? = some b' →
      ∃ b, pool.backends[i]? = some b ∧ b'.players = b.players ∧
        b'.currentConns = b.currentConns) :
    ({ pool with backends } : Pool).Tracked := fun i b' found =>
  let ⟨b, foundB, players, count⟩ := frame i b' found
  (tracked i b foundB).of_same players count

end Pool

namespace Balancer

def Tracked (lb : Balancer) : Prop := ∀ name pool, lb.servers name = some pool → pool.Tracked

/-- What an event needs to keep the counts: a dial attaches a name with no open connection on
the backend `Select` picks with the load balancer's history.  The other events need nothing. -/
def Fresh (lb : Balancer) : BalancerEvent → Prop
  | .dial serverName env player _ => ∀ pool, lb.servers serverName = some pool →
      ∀ i, (pool.select env (some lb.history)).1 = some i →
        pool.openNamed i (playerName player) = 0
  | _ => True

/-- The load balancers reached from `start` by events each `Fresh` where it happens. -/
inductive DistinctRun (cfg : HealthCheckConfig) (start : Balancer) : Balancer → Prop where
  | init : DistinctRun cfg start start
  | step {lb next : Balancer} {event : BalancerEvent} (run : DistinctRun cfg start lb)
      (fresh : lb.Fresh event) (stepped : lb.step cfg event = some next) :
      DistinctRun cfg start next

theorem DistinctRun.run_eq {cfg : HealthCheckConfig} {start lb : Balancer}
    (run : DistinctRun cfg start lb) : ∃ events, start.run cfg events = some lb := by
  induction run with
  | init => exact ⟨[], rfl⟩
  | @step lb next event _ _ stepped ih =>
      obtain ⟨events, ran⟩ := ih
      refine ⟨events ++ [event], ?_⟩
      rw [Balancer.run, List.foldlM_append, ← Balancer.run, ran]
      simp [stepped]

theorem checkBackends_frame (cfg : HealthCheckConfig) (probe : Nat → ProbeInput) (k : Nat)
    (backends : List Backend) (hm : HistoryManager) (i : Nat) (b' : Backend)
    (found : (checkBackends cfg probe k backends hm).1[i]? = some b') :
    ∃ b, backends[i]? = some b ∧ b'.players = b.players ∧ b'.currentConns = b.currentConns := by
  obtain ⟨b, atI, same | ⟨input, hm', rfl⟩⟩ := checkBackends_getElem? cfg probe k backends hm i b' found
  · exact ⟨b, atI, by rw [same], by rw [same]⟩
  · obtain ⟨players, count, -⟩ := checkOne_frame cfg input b hm'
    exact ⟨b, atI, players, count⟩

theorem Tracked.checkServer {lb : Balancer} (tracked : lb.Tracked) (cfg : HealthCheckConfig)
    (probes : String → Nat → ProbeInput) (name : String) :
    (checkServer cfg probes lb name).1.Tracked := by
  unfold Balancer.checkServer
  split
  · exact tracked
  · rename_i pool registered
    exact update_forall tracked name ((tracked name pool registered).of_frame
      (checkBackends_frame cfg (probes name) 0 pool.backends lb.history))

theorem Tracked.checkAllBackends (cfg : HealthCheckConfig) (probes : String → Nat → ProbeInput)
    (order : List String) {lb : Balancer} (tracked : lb.Tracked) :
    (Balancer.checkAllBackends cfg probes order lb).Tracked :=
  checkAllBackends_induction (fun _ name tracked => tracked.checkServer cfg probes name) order
    tracked

theorem Tracked.setBackendDisabled {lb : Balancer} (tracked : lb.Tracked)
    (serverName backendAddr : String) (disabled : Bool) :
    (lb.setBackendDisabled serverName backendAddr disabled).2.Tracked := by
  unfold Balancer.setBackendDisabled
  split
  · exact tracked
  · rename_i pool registered
    split
    · exact tracked
    · rename_i backends set
      refine update_forall tracked serverName
        ((tracked serverName pool registered).of_frame fun i b' found => ?_)
      rcases setFirstDisabled_getElem? backendAddr disabled set i with kept | ⟨c, atI, setAt⟩
      · exact ⟨b', kept.symm.trans found, rfl, rfl⟩
      · rw [setAt, Option.some.injEq] at found
        subst found
        exact ⟨c, atI, rfl, rfl⟩

theorem Tracked.step {cfg : HealthCheckConfig} {lb next : Balancer} {event : BalancerEvent}
    (tracked : lb.Tracked) (fresh : lb.Fresh event) (stepped : lb.step cfg event = some next) :
    next.Tracked := by
  cases event with
  | tick probes order =>
      cases stepped
      exact tracked.checkAllBackends cfg probes order
  | disable serverName backendAddr =>
      cases stepped
      exact tracked.setBackendDisabled serverName backendAddr true
  | enable serverName backendAddr =>
      cases stepped
      exact tracked.setBackendDisabled serverName backendAddr false
  | dial serverName env player outcome =>
      simp only [Balancer.step, Balancer.updatePool, Option.bind_eq_some,
        Option.map_eq_some'] at stepped
      obtain ⟨pool, registered, dialled, dialed, rfl⟩ := stepped
      exact update_forall tracked serverName
        ((tracked serverName pool registered).dial (fresh pool registered) dialed)
  | close serverName conn =>
      exact updatePool_forall tracked (fun _ _ poolTracked closed => poolTracked.close closed)
        stepped

theorem DistinctRun.tracked {cfg : HealthCheckConfig} {start lb : Balancer}
    (run : DistinctRun cfg start lb) (tracked : start.Tracked) : lb.Tracked := by
  induction run with
  | init => exact tracked
  | step _ fresh stepped ih => exact ih.step fresh stepped

theorem start_tracked {windowSize : Int} {servers : List ServerConfig} {history : HistoryManager}
    {started : Balancer} (startedEq : start windowSize servers history = some started) :
    started.Tracked :=
  start_forall (fun _ _ built => Pool.tracked_of_fresh
      (fun b mem => (built b mem).elim fun _ ⟨_, built⟩ => newBackend_idle built) rfl)
    history servers startedEq

/-- **Every run counts the open connections.**  From any configuration `Start` accepts, along
every run of health-loop ticks in any map order, admin commands, dials and closes, interleaved
in any way and whatever the network answers, in which no dial attaches a name already open on
the backend it picks, every backend of every registered pool has as its count the number of
its open tracked connections, as an `int32`, and as many players: both are back to zero once
they are all closed. -/
theorem balancer_run_counts_open (cfg : HealthCheckConfig) {windowSize : Int}
    {servers : List ServerConfig} {history : HistoryManager} {started lb : Balancer}
    (startedEq : start windowSize servers history = some started)
    (run : DistinctRun cfg started lb) {name : String} {pool : Pool}
    (registered : lb.servers name = some pool) :
    ∀ i b, pool.backends[i]? = some b →
      b.currentConns = toInt32 (pool.openCount i) ∧ b.players.card = pool.openCount i := by
  intro i b found
  have tracks := run.tracked (start_tracked startedEq) name pool registered i b found
  exact ⟨tracks.count, tracks.card⟩

theorem balancer_run_counts_open_lobby :
    let servers : List ServerConfig := [⟨"lobby", [("a:25565", 1)], "sequential", true⟩]
    let dialAlice : BalancerEvent :=
      .dial "lobby" ⟨fun _ => 0, fun _ => none⟩ (some "alice") (.connected 1000000)
    ∃ started lb pool, start 20 servers HistoryManager.new = some started ∧
      started.Fresh dialAlice ∧ started.step ⟨3, 2⟩ dialAlice = some lb ∧
      lb.servers "lobby" = some pool ∧
      ∀ i b, pool.backends[i]? = some b →
        b.currentConns = toInt32 (pool.openCount i) ∧ b.players.card = pool.openCount i := by
  intro servers dialAlice
  have fresh : ∀ started, start 20 servers HistoryManager.new = some started →
      started.Fresh dialAlice := by
    rintro started ⟨⟩ pool ⟨⟩ i _
    rfl
  exact ⟨_, _, _, rfl, fresh _ rfl, rfl, rfl, @balancer_run_counts_open ⟨3, 2⟩ 20 servers
    HistoryManager.new _ _ rfl (.step .init (fresh _ rfl) rfl) "lobby" _ rfl⟩

end Balancer

end RmsGate.LoadBalancer
