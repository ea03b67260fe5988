import RmsGate.LoadBalancer.Orchestrator

/-!
# Runs of the load balancer

`Start` registers every configured pool with `registerServer`: one `NewBackend` for each
configured backend, with the window size of the health check, and the strategy `GetStrategy`
names; a pool the proxy refuses to register is logged and left out.  From then on four kinds of
goroutine touch the pools: the health loop runs `checkAllBackends` on every tick, admin commands
call `DisableBackend` and `EnableBackend`, and a player's connection runs `Dial` on its pool and
later closes what it got.  Each is one step here, and they come in any order.
Along every such run every backend keeps what a reachable backend keeps: its trust is one of
`50, 60, ..., 100`, its window holds no negative sample, and under a limit its connection count
stays between `0` and `MaxConnections`.
-/

namespace RmsGate.LoadBalancer

/-- A configured pool as `Start` reads it: the key of `Servers`, the `Addr` and
`MaxConnections` of each backend, the `Strategy` name, and whether `proxy.Register` accepts the
server. -/
structure ServerConfig where
  name : String
  backends : List (String × Int)
  strategy : String
  registered : Bool

/-- What touches the pools between two instants. -/
inductive BalancerEvent where
  | tick (probes : String → Nat → ProbeInput) (order : List String)
  | disable (serverName backendAddr : String)
  | enable (serverName backendAddr : String)
  | dial (serverName : String) (env : SelectEnv) (player : Option String) (outcome : DialOutcome)
  | close (serverName : String) (conn : Nat)

namespace Balancer

/-- `registerServer`; `none` when `NewBackend` panics on a negative window size. -/
def registerServer (windowSize : Int) (lb : Balancer) (server : ServerConfig) : Option Balancer :=
  (server.backends.mapM fun bcfg => newBackend bcfg.1 bcfg.2 windowSize).map fun backends =>
    if server.registered then
      { lb with
        servers := Function.update lb.servers server.name
          (some ⟨backends, getStrategy server.strategy, []⟩) }
    else lb

/-- `Start`, registering the pools in the order of Go's map iteration over `Servers`, with the
history `NewHistoryManager` loaded. -/
def start (windowSize : Int) (servers : List ServerConfig) (history : HistoryManager) :
    Option Balancer :=
  servers.foldlM (registerServer windowSize) ⟨fun _ => none, history⟩

def updatePool (lb : Balancer) (name : String) (f : Pool → Option Pool) : Option Balancer :=
  (lb.servers name).bind fun pool =>
    (f pool).map fun next => { lb with servers := Function.update lb.servers name (some next) }

/-- One event; `Dial` scores with the load balancer's history. -/
def step (cfg : HealthCheckConfig) (lb : Balancer) : BalancerEvent → Option Balancer
  | .tick probes order => some (checkAllBackends cfg probes order lb)
  | .disable serverName backendAddr => some (lb.disableBackend serverName backendAddr).2
  | .enable serverName backendAddr => some (lb.enableBackend serverName backendAddr).2
  | .dial serverName env player outcome =>
      lb.updatePool serverName fun pool => pool.dial env (some lb.history) player outcome
  | .close serverName conn => lb.updatePool serverName fun pool => pool.close conn

def run (cfg : HealthCheckConfig) (lb : Balancer) (events : List BalancerEvent) :
    Option Balancer :=
  events.foldlM (step cfg) lb

/-! ## What every run keeps -/

/-- Every backend of every registered pool satisfies `P`. -/
def PoolsSatisfy (P : Backend → Prop) (lb : Balancer) : Prop :=
  ∀ name pool, lb.servers name = some pool → ∀ b ∈ pool.backends, P b

/-- What a property of backends needs to survive every event: a tick on one backend, the flag
of `DisableBackend` and `EnableBackend`, and a pool's `Dial` and close. -/
structure Keeps (cfg : HealthCheckConfig) (P : Backend → Prop) : Prop where
  checkOne : ∀ input b hm, P b → P (checkOne cfg input b hm).1
  setDisabled : ∀ b disabled, P b → P (b.setDisabled disabled)
  dial : ∀ {pool : Pool} {env history player outcome next}, (∀ b ∈ pool.backends, P b) →
    pool.dial env history player outcome = some next → ∀ b ∈ next.backends, P b
  close : ∀ {pool : Pool} {c next}, (∀ b ∈ pool.backends, P b) → pool.close c = some next →
    ∀ b ∈ next.backends, P b

theorem update_forall {Q : Pool → Prop} {servers : String → Option Pool}
    (all : ∀ name pool, servers name = some pool → Q pool) (name : String) {pool : Pool}
    (new : Q pool) :
    ∀ other next, Function.update servers name (some pool) other = some next → Q next := by
  intro other next found
  by_cases same : other = name
  · subst same
    rw [Function.update_same, Option.some.injEq] at found
    exact found ▸ new
  · rw [Function.update_noteq same] at found
    exact all other next found

theorem updatePool_forall {Q : Pool → Prop} {lb next : Balancer}
    (all : ∀ name pool, lb.servers name = some pool → Q pool) {name : String}
    {f : Pool → Option Pool} (keeps : ∀ pool next, Q pool → f pool = some next → Q next)
    (updated : lb.updatePool name f = some next) :
    ∀ other pool, next.servers other = some pool → Q pool := by
  simp only [Balancer.updatePool, Option.bind_eq_some, Option.map_eq_some'] at updated
  obtain ⟨pool, registered, changed, called, rfl⟩ := updated
  exact update_forall all name (keeps pool changed (all name pool registered) called)

theorem mapM_newBackend_built {windowSize : Int} :
    ∀ {configs : List (String × Int)} {backends : List Backend},
      configs.mapM (fun bcfg => newBackend bcfg.1 bcfg.2 windowSize) = some backends →
        ∀ b ∈ backends, ∃ addr maxConns, newBackend addr maxConns windowSize = some b
  | [], backends, built => by
      cases built
      simp
  | bcfg :: rest, backends, built => by
      simp only [List.mapM_cons, Option.pure_def, Option.bind_eq_bind, Option.bind_eq_some,
        Option.some.injEq] at built
      obtain ⟨b, built, others, restBuilt, rfl⟩ := built
      simp only [List.mem_cons, forall_eq_or_imp]
      exact ⟨⟨_, _, built⟩, mapM_newBackend_built restBuilt⟩

/-- Every pool `Start` registers is built by `registerServer`: backends made by `NewBackend`,
and no connection. -/
theorem start_forall {Q : Pool → Prop} {windowSize : Int}
    (fresh : ∀ backends strategy,
      (∀ b ∈ backends, ∃ addr maxConns, newBackend addr maxConns windowSize = some b) →
        Q ⟨backends, strategy, []⟩)
    (history : HistoryManager) :
    ∀ (servers : List ServerConfig) {lb : Balancer}, start windowSize servers history = some lb →
      ∀ name pool, lb.servers name = some pool → Q pool := by
  suffices ∀ (servers : List ServerConfig) {init lb : Balancer},
      (∀ name pool, init.servers name = some pool → Q pool) →
      servers.foldlM (registerServer windowSize) init = some lb →
        ∀ name pool, lb.servers name = some pool → Q pool from
    fun servers _ started => this servers (fun _ _ found => by simp at found) started
  intro servers
  induction servers with
  | nil =>
      rintro init lb all ⟨⟩
      exact all
  | cons server servers ih =>
      intro init lb all started
      simp only [List.foldlM_cons, Option.bind_eq_bind, Option.bind_eq_some] at started
      obtain ⟨next, registered, rest⟩ := started
      refine ih ?_ rest
      obtain ⟨backends, built, rfl⟩ := Option.map_eq_some'.mp registered
      split
      · exact update_forall all _ (fresh _ _ (mapM_newBackend_built built))
      · exact all

section Keeps

variable {P : Backend → Prop}

theorem start_satisfies {windowSize : Int}
    (fresh : ∀ addr maxConns b, newBackend addr maxConns windowSize = some b → P b)
    (history : HistoryManager) :
    ∀ (servers : List ServerConfig) {lb : Balancer},
      start windowSize servers history = some lb → PoolsSatisfy P lb :=
  start_forall (fun _ _ built b mem => (built b mem).elim fun _ ⟨_, built⟩ => fresh _ _ _ built)
    history

theorem checkBackends_satisfy {cfg : HealthCheckConfig} (keeps : Keeps cfg P)
    (probe : Nat → ProbeInput) (i : Nat) {backends : List Backend} (hm : HistoryManager)
    (all : ∀ b ∈ backends, P b) : ∀ b ∈ (checkBackends cfg probe i backends hm).1, P b := by
  intro b' mem
  obtain ⟨j, found⟩ := List.mem_iff_getElem?.mp mem
  obtain ⟨b, atJ, same | ⟨input, hm', rfl⟩⟩ :=
    checkBackends_getElem? cfg probe i backends hm j b' found
  · exact same ▸ all b (List.getElem?_mem atJ)
  · exact keeps.checkOne _ _ _ (all b (List.getElem?_mem atJ))

theorem PoolsSatisfy.checkAllBackends {cfg : HealthCheckConfig} (keeps : Keeps cfg P)
    (probes : String → Nat → ProbeInput) (order : List String) {lb : Balancer}
    (all : PoolsSatisfy P lb) : PoolsSatisfy P (Balancer.checkAllBackends cfg probes order lb) := by
  refine checkAllBackends_induction (fun lb name all => ?_) order all
  unfold checkServer
  split
  · exact all
  · rename_i pool registered
    exact update_forall all name
      (checkBackends_satisfy keeps (probes name) 0 lb.history (all name pool registered))

theorem setFirstDisabled_satisfy {cfg : HealthCheckConfig} (keeps : Keeps cfg P)
    (backendAddr : String) (disabled : Bool) :
    ∀ {backends changed : List Backend}, (∀ b ∈ backends, P b) →
      setFirstDisabled backendAddr disabled backends = some changed → ∀ b ∈ changed, P b
  | [], _, _, found => by cases found
  | b :: rest, changed, all, set => by
      simp only [List.mem_cons, forall_eq_or_imp] at all
      unfold setFirstDisabled at set
      split at set
      · cases set
        simp only [List.mem_cons, forall_eq_or_imp]
        exact ⟨keeps.setDisabled b disabled all.1, all.2⟩
      · obtain ⟨changedRest, setRest, rfl⟩ := Option.map_eq_some'.mp set
        simp only [List.mem_cons, forall_eq_or_imp]
        exact ⟨all.1, setFirstDisabled_satisfy keeps backendAddr disabled all.2 setRest⟩

theorem PoolsSatisfy.setBackendDisabled {cfg : HealthCheckConfig} (keeps : Keeps cfg P)
    {lb : Balancer} (all : PoolsSatisfy P lb) (serverName backendAddr : String) (disabled : Bool) :
    PoolsSatisfy P (lb.setBackendDisabled serverName backendAddr disabled).2 := by
  unfold Balancer.setBackendDisabled
  split
  · exact all
  · rename_i pool registered
    split
    · exact all
    · rename_i backends set
      exact update_forall all serverName
        (setFirstDisabled_satisfy keeps backendAddr disabled (all serverName pool registered) set)

theorem PoolsSatisfy.step {cfg : HealthCheckConfig} (keeps : Keeps cfg P) {lb next : Balancer}
    {event : BalancerEvent} (all : PoolsSatisfy P lb) (stepped : lb.step cfg event = some next) :
    PoolsSatisfy P next := by
  cases event with
  | tick probes order =>
      cases stepped
      exact all.checkAllBackends keeps probes order
  | disable serverName backendAddr =>
      cases stepped
      exact all.setBackendDisabled keeps serverName backendAddr true
  | enable serverName backendAddr =>
      cases stepped
      exact all.setBackendDisabled keeps serverName backendAddr false
  | dial serverName env player outcome =>
      exact updatePool_forall all (fun _ _ poolAll dialed => keeps.dial poolAll dialed) stepped
  | close serverName conn =>
      exact updatePool_forall all (fun _ _ poolAll closed => keeps.close poolAll closed) stepped

theorem PoolsSatisfy.run {cfg : HealthCheckConfig} (keeps : Keeps cfg P) :
    ∀ {events : List BalancerEvent} {lb next : Balancer}, PoolsSatisfy P lb →
      lb.run cfg events = some next → PoolsSatisfy P next
  | [], _, _, all, ran => by
      cases ran
      exact all
  | event :: events, lb, next, all, ran => by
      simp only [Balancer.run, List.foldlM_cons, Option.bind_eq_bind, Option.bind_eq_some] at ran
      obtain ⟨stepped, stepEq, rest⟩ := ran
      exact PoolsSatisfy.run keeps (all.step keeps stepEq) rest

/-- What `Dial` writes: nothing when `Select` finds no backend, and otherwise the backend it
picks, with the failure, or with the success and the player, the dial ends with. -/
theorem Pool.dial_backends {pool next : Pool} {env : SelectEnv} {history : Option HistoryManager}
    {player : Option String} {outcome : DialOutcome}
    (dialed : pool.dial env history player outcome = some next) :
    next.backends = pool.backends ∨
      ∃ j b b', (pool.select env history).1 = some j ∧ pool.backends[j]? = some b ∧
        next.backends = pool.backends.set j b' ∧
        match outcome with
        | .failed latency => b.recordFailure.recordLatency latency = some b'
        | .connected latency => ∃ recorded, b.recordSuccess.recordLatency latency = some recorded ∧
            b' = recorded.addPlayer (playerName player) := by
  unfold Pool.dial at dialed
  split at dialed
  · rename_i selected chosen
    cases dialed
    exact .inl (by rw [← Pool.select_backends pool env history, chosen])
  · rename_i j selected chosen
    have sameBackends : selected.backends = pool.backends := by
      rw [← Pool.select_backends pool env history, chosen]
    refine .inr ?_
    cases outcome with
    | failed latency =>
        obtain ⟨b, b', found, called, rfl⟩ := Pool.updateBackend_eq_some dialed
        exact ⟨j, b, b', congrArg Prod.fst chosen, sameBackends ▸ found,
          congrArg (List.set · j b') sameBackends, called⟩
    | connected latency =>
        obtain ⟨updatedPool, updated, rfl⟩ := Option.map_eq_some'.mp dialed
        obtain ⟨b, b', found, called, rfl⟩ := Pool.updateBackend_eq_some updated
        obtain ⟨recorded, recordedEq, rfl⟩ := Option.map_eq_some'.mp called
        exact ⟨j, b, _, congrArg Prod.fst chosen, sameBackends ▸ found,
          congrArg (List.set · j _) sameBackends, recorded, recordedEq, rfl⟩

theorem forall_mem_set {backends : List Backend} (all : ∀ b ∈ backends, P b) (i : Nat)
    {b' : Backend} (new : P b') : ∀ b ∈ backends.set i b', P b := fun b mem =>
  (List.mem_or_eq_of_mem_set mem).elim (all b) fun eq => eq ▸ new

theorem dial_satisfies
    (failed : ∀ {b b' : Backend} {latency : Nat}, P b →
      b.recordFailure.recordLatency latency = some b' → P b')
    (connected : ∀ {b recorded : Backend} {latency : Nat} (name : String), P b →
      b.recordSuccess.recordLatency latency = some recorded → P (recorded.addPlayer name))
    {pool next : Pool} {env : SelectEnv} {history : Option HistoryManager}
    {player : Option String} {outcome : DialOutcome} (all : ∀ b ∈ pool.backends, P b)
    (dialed : pool.dial env history player outcome = some next) : ∀ b ∈ next.backends, P b := by
  rcases Pool.dial_backends dialed with same | ⟨j, b, b', -, found, written, called⟩
  · exact same ▸ all
  · rw [written]
    refine forall_mem_set all j ?_
    cases outcome with
    | failed latency => exact failed (all b (List.getElem?_mem found)) called
    | connected latency =>
        obtain ⟨recorded, recordedEq, rfl⟩ := called
        exact connected _ (all b (List.getElem?_mem found)) recordedEq

theorem close_satisfies (removed : ∀ {b : Backend} (name : String), P b → P (b.removePlayer name))
    {pool next : Pool} {c : Nat} (all : ∀ b ∈ pool.backends, P b)
    (closed : pool.close c = some next) : ∀ b ∈ next.backends, P b := by
  unfold Pool.close at closed
  split at closed
  · contradiction
  · split at closed
    · cases closed
      exact all
    · obtain ⟨updatedPool, updated, rfl⟩ := Option.map_eq_some'.mp closed
      obtain ⟨b, b', found, ⟨⟩, rfl⟩ := Pool.updateBackend_eq_some updated
      exact forall_mem_set all _ (removed _ (all b (List.getElem?_mem found)))

/-- A property every `NewBackend` has and every event keeps holds of every backend of every
run from `Start`. -/
theorem run_satisfies {cfg : HealthCheckConfig} (keeps : Keeps cfg P) {windowSize : Int}
    (fresh : ∀ addr maxConns b, newBackend addr maxConns windowSize = some b → P b)
    {servers : List ServerConfig} {history : HistoryManager} {started lb : Balancer}
    (startedEq : start windowSize servers history = some started) {events : List BalancerEvent}
    (ran : started.run cfg events = some lb) : PoolsSatisfy P lb :=
  (start_satisfies fresh history servers startedEq).run keeps ran

end Keeps

/-! ## Soundness of every backend -/

theorem checkOne_bounded (cfg : HealthCheckConfig) (input : ProbeInput) {b : Backend}
    (reachable : b.Reachable) (within : b.WithinMax) (hm : HistoryManager) :
    (checkOne cfg input b hm).1.Reachable ∧ (checkOne cfg input b hm).1.WithinMax := by
  refine ⟨?_, fun positive below => ?_⟩
  · simp only [checkOne, probeTick_backend]
    generalize (mcPing input.now input.net).1 = probe
    generalize (((mcPing input.now input.net).2 / 1000000 : Nat) : Int) = now
    have checked : (checkBackend cfg now probe b).backend.Reachable := by
      rcases checkBackend_cases cfg now probe b with ⟨_, eq⟩ | ⟨_, _, eq⟩ | ⟨_, _, _, _, eq⟩ |
        ⟨_, _, recorded, _, recordedEq, eq⟩ <;> rw [eq]
      · exact reachable
      · exact .step (.step reachable (.setLastCheckTime _ now)) (.recordHealthCheckFailure _)
      · exact .step reachable (.setLastCheckTime _ now)
      · exact checkSucceeded_reachable cfg (.step (.step reachable (.setLastCheckTime _ now))
          (.recordLatency (by omega) recordedEq))
    unfold finishCheck
    split
    · exact .step checked (.setHealthy _ false)
    · exact checked
  · obtain ⟨players, conns, limit, -⟩ := checkOne_frame cfg input b hm
    rw [limit] at positive below
    rw [players, conns, limit]
    exact within positive below

theorem keeps_bounded (cfg : HealthCheckConfig) : Keeps cfg fun b => b.Reachable ∧ b.WithinMax :=
  ⟨fun input _ hm bounded => checkOne_bounded cfg input bounded.1 bounded.2 hm,
    fun b disabled bounded => ⟨.step bounded.1 (.setDisabled b disabled), bounded.2⟩,
    fun bounded dialed => Pool.Bounded.dial bounded dialed,
    fun bounded closed => Pool.Bounded.close bounded closed⟩

theorem newBackend_bounded {addr : String} {maxConns windowSize : Int} {b : Backend}
    (built : newBackend addr maxConns windowSize = some b) : b.Reachable ∧ b.WithinMax := by
  refine ⟨.init built, ?_⟩
  rw [newBackend] at built
  split at built
  · contradiction
  · cases built
    exact fun positive _ => ⟨by simp, Int.le_of_lt positive⟩

/-- **Every run keeps every backend sound.**  From any configuration `Start` accepts, along
every run of health-loop ticks in any map order, admin commands, dials and closes, interleaved
in any way and whatever the network answers, every backend of every registered pool has a trust
of `50, 60, ..., 100` and no negative sample in its window, and under a limit
`0 < MaxConnections < 2^31` keeps `0 ≤ currentConns ≤ MaxConnections`. -/
theorem balancer_run_keeps_backends_sound (cfg : HealthCheckConfig) {windowSize : Int}
    {servers : List ServerConfig} {history : HistoryManager} {started lb : Balancer}
    (startedEq : start windowSize servers history = some started) {events : List BalancerEvent}
    (ran : started.run cfg events = some lb) {name : String} {pool : Pool}
    (registered : lb.servers name = some pool) :
    ∀ b ∈ pool.backends, TrustValid b.trustCoeff ∧ (∀ sample ∈ b.latencyWindow, 0 ≤ sample) ∧
      (0 < b.maxConnections → b.maxConnections < 2 ^ 31 →
        0 ≤ b.currentConns ∧ b.currentConns ≤ b.maxConnections) := by
  intro b mem
  obtain ⟨reachable, within⟩ := run_satisfies (keeps_bounded cfg)
    (fun _ _ _ built => newBackend_bounded built) startedEq ran name pool registered b mem
  refine ⟨reachable.sound.trustValid, reachable.sound.samplesNonneg, fun positive below => ?_⟩
  obtain ⟨card, atMost⟩ := within positive below
  exact ⟨by omega, atMost⟩

theorem balancer_run_keeps_backends_sound_lobby :
    let servers : List ServerConfig := [⟨"lobby", [("a:25565", 1)], "sequential", true⟩]
    let events : List BalancerEvent :=
      [.dial "lobby" ⟨fun _ => 0, fun _ => none⟩ (some "alice") (.connected 1000000),
        .tick (fun _ _ => ⟨0, 0, ⟨5000000, true, 15000000, true⟩⟩) ["lobby"]]
    ∃ started lb pool, start 20 servers HistoryManager.new = some started ∧
      started.run ⟨3, 2⟩ events = some lb ∧ lb.servers "lobby" = some pool ∧
      ∀ b ∈ pool.backends, TrustValid b.trustCoeff ∧ (∀ sample ∈ b.latencyWindow, 0 ≤ sample) ∧
        (0 < b.maxConnections → b.maxConnections < 2 ^ 31 →
          0 ≤ b.currentConns ∧ b.currentConns ≤ b.maxConnections) := by
  intro servers events
  exact ⟨_, _, _, rfl, rfl, rfl, @balancer_run_keeps_backends_sound ⟨3, 2⟩ 20 servers
    HistoryManager.new _ _ rfl events rfl "lobby" _ rfl⟩

/-! ## A disabled backend drains -/

theorem setDisabled_of_disabled {b : Backend} {disabled : Bool} (same : b.disabled = disabled) :
    b.setDisabled disabled = b := by
  subst same
  rfl

theorem setFirstDisabled_getElem? (backendAddr : String) (disabled : Bool) :
    ∀ {backends changed : List Backend}, setFirstDisabled backendAddr disabled backends = some changed →
      ∀ i : Nat, changed[i]? = backends[i]? ∨
        ∃ c : Backend, backends[i]? = some c ∧ changed[i]? = some (c.setDisabled disabled)
  | [], _, found, _ => by cases found
  | b :: rest, changed, set, i => by
      unfold setFirstDisabled at set
      split at set
      · cases set
        cases i with
        | zero => exact .inr ⟨b, List.getElem?_cons_zero, List.getElem?_cons_zero⟩
        | succ i => exact .inl (by simp only [List.getElem?_cons_succ])
      · obtain ⟨changedRest, setRest, rfl⟩ := Option.map_eq_some'.mp set
        cases i with
        | zero => exact .inl (by simp only [List.getElem?_cons_zero])
        | succ i =>
            simpa only [List.getElem?_cons_succ] using
              setFirstDisabled_getElem? backendAddr disabled setRest i

theorem setBackendDisabled_at {lb : Balancer} {serverName : String} {pool : Pool} {i : Nat}
    {b : Backend} (registered : lb.servers serverName = some pool) (found : pool.backends[i]? = some b)
    (s backendAddr : String) (disabled : Bool) :
    ∃ pool', (lb.setBackendDisabled s backendAddr disabled).2.servers serverName = some pool' ∧
      (pool'.backends[i]? = some b ∨ s = serverName ∧ pool'.backends[i]? = some (b.setDisabled disabled)) := by
  unfold setBackendDisabled
  split
  · exact ⟨pool, registered, .inl found⟩
  · rename_i pool₀ atS
    split
    · exact ⟨pool, registered, .inl found⟩
    · rename_i changed set
      by_cases same : serverName = s
      · subst same
        rw [registered, Option.some.injEq] at atS
        subst atS
        refine ⟨_, Function.update_same _ _ _, ?_⟩
        rcases setFirstDisabled_getElem? backendAddr disabled set i with kept | ⟨c, atI, setAt⟩
        · exact .inl (kept.trans found)
        · rw [found, Option.some.injEq] at atI
          subst atI
          exact .inr ⟨rfl, setAt⟩
      · exact ⟨pool, by simpa [Function.update_noteq same] using registered, .inl found⟩

theorem updatePool_at {lb next : Balancer} {s : String} {f : Pool → Option Pool}
    (updated : lb.updatePool s f = some next) {serverName : String} {pool : Pool}
    (registered : lb.servers serverName = some pool) :
    next.servers serverName = some pool ∨
      s = serverName ∧ ∃ pool', f pool = some pool' ∧ next.servers serverName = some pool' := by
  simp only [Balancer.updatePool, Option.bind_eq_some, Option.map_eq_some'] at updated
  obtain ⟨pool₀, atS, changed, called, rfl⟩ := updated
  by_cases same : s = serverName
  · subst same
    rw [registered, Option.some.injEq] at atS
    subst atS
    exact .inr ⟨rfl, changed, called, Function.update_same _ _ _⟩
  · exact .inl (by simpa [Function.update_noteq (Ne.symm same)] using registered)

/-- `Dial` never picks a disabled backend, so it leaves it where it is. -/
theorem dial_keeps_disabled {pool next : Pool} {env : SelectEnv} {history : Option HistoryManager}
    {player : Option String} {outcome : DialOutcome} (reachable : ∀ c ∈ pool.backends, c.Reachable)
    {i : Nat} {b : Backend} (found : pool.backends[i]? = some b) (disabled : b.disabled = true)
    (dialed : pool.dial env history player outcome = some next) : next.backends[i]? = some b := by
  rcases Pool.dial_backends dialed with same | ⟨j, _, _, chosen, -, written, -⟩
  · rw [same, found]
  · obtain ⟨c, atJ, available⟩ := Pool.select_available reachable chosen
    have other : j ≠ i := by
      rintro rfl
      rw [found, Option.some.injEq] at atJ
      subst atJ
      simp [Backend.isAvailable, disabled] at available
    rw [written, List.getElem?_set_ne other, found]

theorem close_drains {pool next : Pool} {c i : Nat} {b : Backend}
    (found : pool.backends[i]? = some b) (closed : pool.close c = some next) :
    next.backends[i]? = some b ∨ ∃ name, next.backends[i]? = some (b.removePlayer name) := by
  unfold Pool.close at closed
  split at closed
  · contradiction
  · rename_i conn _
    split at closed
    · cases closed
      exact .inl found
    · obtain ⟨updatedPool, updated, rfl⟩ := Option.map_eq_some'.mp closed
      obtain ⟨c₀, _, atConn, ⟨⟩, rfl⟩ := Pool.updateBackend_eq_some updated
      show (pool.backends.set conn.backend _)[i]? = some b ∨
        ∃ name, (pool.backends.set conn.backend _)[i]? = some (b.removePlayer name)
      by_cases same : conn.backend = i
      · subst same
        rw [found, Option.some.injEq] at atConn
        subst atConn
        exact .inr ⟨conn.playerName, by rw [List.getElem?_set', if_pos rfl, found]; rfl⟩
      · exact .inl (by rw [List.getElem?_set_ne same, found])

theorem step_drains {cfg : HealthCheckConfig} {lb next : Balancer} {event : BalancerEvent}
    {serverName : String} (bounded : PoolsSatisfy (fun b => b.Reachable ∧ b.WithinMax) lb)
    (noEnable : ∀ backendAddr, event ≠ .enable serverName backendAddr) {pool : Pool} {i : Nat}
    {b : Backend} (registered : lb.servers serverName = some pool)
    (found : pool.backends[i]? = some b) (disabled : b.disabled = true)
    (stepped : lb.step cfg event = some next) :
    ∃ pool', next.servers serverName = some pool' ∧
      (pool'.backends[i]? = some b ∨ ∃ name, pool'.backends[i]? = some (b.removePlayer name)) := by
  have reachable : ∀ c ∈ pool.backends, c.Reachable := fun c mem =>
    (bounded serverName pool registered c mem).1
  cases event with
  | tick probes order =>
      cases stepped
      obtain ⟨pool', registered', found'⟩ :=
        checkAllBackends_keeps_disabled cfg probes order registered found disabled
      exact ⟨pool', registered', .inl found'⟩
  | disable s backendAddr =>
      cases stepped
      obtain ⟨pool', registered', found' | ⟨-, found'⟩⟩ :=
        setBackendDisabled_at registered found s backendAddr true
      · exact ⟨pool', registered', .inl found'⟩
      · exact ⟨pool', registered', .inl (setDisabled_of_disabled disabled ▸ found')⟩
  | enable s backendAddr =>
      cases stepped
      obtain ⟨pool', registered', found' | ⟨rfl, -⟩⟩ :=
        setBackendDisabled_at registered found s backendAddr false
      · exact ⟨pool', registered', .inl found'⟩
      · exact absurd rfl (noEnable backendAddr)
  | dial s env player outcome =>
      rcases updatePool_at stepped registered with same | ⟨rfl, pool', dialed, registered'⟩
      · exact ⟨pool, same, .inl found⟩
      · exact ⟨pool', registered', .inl (dial_keeps_disabled reachable found disabled dialed)⟩
  | close s conn =>
      rcases updatePool_at stepped registered with same | ⟨rfl, pool', closed, registered'⟩
      · exact ⟨pool, same, .inl found⟩
      · exact ⟨pool', registered', close_drains found closed⟩

theorem run_drains {cfg : HealthCheckConfig} {serverName : String} :
    ∀ {events : List BalancerEvent} {lb next : Balancer},
      PoolsSatisfy (fun b => b.Reachable ∧ b.WithinMax) lb →
      (∀ e ∈ events, ∀ backendAddr, e ≠ .enable serverName backendAddr) →
      lb.run cfg events = some next → ∀ {pool : Pool} {i : Nat} {b : Backend},
        lb.servers serverName = some pool → pool.backends[i]? = some b → b.disabled = true →
          ∃ (pool' : Pool) (names : List String), next.servers serverName = some pool' ∧
            pool'.backends[i]? = some (names.foldl Backend.removePlayer b)
  | [], _, _, _, _, ran, pool, _, _, registered, found, _ => by
      cases ran
      exact ⟨pool, [], registered, found⟩
  | event :: events, lb, next, bounded, noEnable, ran, _, _, b, registered, found, disabled => by
      simp only [Balancer.run, List.foldlM_cons, Option.bind_eq_bind, Option.bind_eq_some] at ran
      obtain ⟨stepped, stepEq, rest⟩ := ran
      have later : ∀ e ∈ events, ∀ backendAddr, e ≠ .enable serverName backendAddr :=
        fun e mem => noEnable e (List.mem_cons_of_mem _ mem)
      have stillBounded := bounded.step (keeps_bounded cfg) stepEq
      obtain ⟨pool₁, registered₁, found₁ | ⟨name, found₁⟩⟩ :=
        step_drains bounded (noEnable event (List.mem_cons_self _ _)) registered found disabled
          stepEq
      · exact run_drains stillBounded later rest registered₁ found₁ disabled
      · obtain ⟨pool', names, registered', found'⟩ :=
          run_drains stillBounded later rest registered₁ found₁ (by simpa using disabled)
        exact ⟨pool', name :: names, registered', found'⟩

/-- **A disabled backend only drains.**  In a run from any configuration `Start` registers,
once a backend is disabled, and as long as no "/lb enable" reaches its server, every later tick,
admin command, dial and close leaves it where it is and changes it only by `RemovePlayer`: the
health loop skips it, no `Select` picks it, and only its open connections close.  A `Dial` is
one step here; one that picked the backend before the `DisableBackend` call, and connects
after it, is a run of the concurrent pool. -/
theorem disabled_backend_drains (cfg : HealthCheckConfig) {windowSize : Int}
    {servers : List ServerConfig} {history : HistoryManager} {started lb next : Balancer}
    (startedEq : start windowSize servers history = some started) {before after : List BalancerEvent}
    (ranBefore : started.run cfg before = some lb) {serverName : String} {pool : Pool} {i : Nat}
    {b : Backend} (registered : lb.servers serverName = some pool)
    (found : pool.backends[i]? = some b) (disabled : b.disabled = true)
    (noEnable : ∀ e ∈ after, ∀ backendAddr, e ≠ .enable serverName backendAddr)
    (ranAfter : lb.run cfg after = some next) :
    ∃ (pool' : Pool) (names : List String), next.servers serverName = some pool' ∧
      pool'.backends[i]? = some (names.foldl Backend.removePlayer b) :=
  run_drains (run_satisfies (keeps_bounded cfg) (fun _ _ _ built => newBackend_bounded built)
    startedEq ranBefore) noEnable ranAfter registered found disabled

theorem disabled_backend_drains_lobby :
    let servers : List ServerConfig := [⟨"lobby", [("a:25565", 1)], "sequential", true⟩]
    let after : List BalancerEvent :=
      [.tick (fun _ _ => ⟨0, 0, ⟨5000000, true, 15000000, true⟩⟩) ["lobby"],
        .dial "lobby" ⟨fun _ => 0, fun _ => none⟩ (some "alice") (.connected 1000000)]
    ∃ started lb pool b next, start 20 servers HistoryManager.new = some started ∧
      started.run ⟨3, 2⟩ [.disable "lobby" "a:25565"] = some lb ∧
      lb.servers "lobby" = some pool ∧ pool.backends[0]? = some b ∧ b.disabled = true ∧
      (∀ e ∈ after, ∀ backendAddr, e ≠ .enable "lobby" backendAddr) ∧
      lb.run ⟨3, 2⟩ after = some next ∧
      ∃ (pool' : Pool) (names : List String), next.servers "lobby" = some pool' ∧
        pool'.backends[0]? = some (names.foldl Backend.removePlayer b) := by
  intro servers after
  have noEnable : ∀ e ∈ after, ∀ backendAddr, e ≠ .enable "lobby" backendAddr := by
    intro e mem backendAddr same
    simp only [after, List.mem_cons, List.mem_singleton, List.not_mem_nil, or_false] at mem
    rcases mem with rfl | rfl <;> cases same
  exact ⟨_, _, _, _, _, rfl, rfl, rfl, rfl, rfl, noEnable, rfl,
    @disabled_backend_drains ⟨3, 2⟩ 20 servers HistoryManager.new _ _ _ rfl
      [.disable "lobby" "a:25565"] after rfl "lobby" _ 0 _ rfl rfl rfl noEnable rfl⟩

/-! ## Every backend is a state of the health-check machine -/

/-- A state the health-check machine reaches between two ticks from a `NewBackend` with the
window size `windowSize`. -/
def HealthReached (cfg : HealthCheckConfig) (windowSize : Int) (b : Backend) : Prop :=
  ∃ addr maxConns fresh events, newBackend addr maxConns windowSize = some fresh ∧
    healthRun cfg ⟨fresh, .idle⟩ events = some ⟨b, .idle⟩

section HealthReached

variable {cfg : HealthCheckConfig} {windowSize : Int}

theorem HealthReached.call {b : Backend} (reached : HealthReached cfg windowSize b)
    (call : ConcurrentCall) : HealthReached cfg windowSize (call.apply b) := by
  obtain ⟨addr, maxConns, fresh, events, built, ran⟩ := reached
  exact ⟨addr, maxConns, fresh, events ++ [.call call], built, by rw [healthRun_append, ran]; rfl⟩

theorem HealthReached.checkOne {b : Backend} (reached : HealthReached cfg windowSize b)
    (input : ProbeInput) (hm : HistoryManager) :
    HealthReached cfg windowSize (checkOne cfg input b hm).1 := by
  obtain ⟨addr, maxConns, fresh, events, built, ran⟩ := reached
  obtain ⟨rest, -, ticked⟩ := tick_healthRun cfg input b hm
  exact ⟨addr, maxConns, fresh, events ++ _, built, by rw [healthRun_append, ran]; exact ticked⟩

theorem HealthReached.failedDial {b b' : Backend} {latency : Nat}
    (reached : HealthReached cfg windowSize b)
    (recorded : b.recordFailure.recordLatency latency = some b') :
    HealthReached cfg windowSize b' := by
  have called := (reached.call .recordFailure).call (.recordLatency latency)
  simpa only [ConcurrentCall.apply, recorded, Option.getD_some] using called

theorem HealthReached.connectedDial {b recorded : Backend} {latency : Nat} (name : String)
    (reached : HealthReached cfg windowSize b)
    (recordedEq : b.recordSuccess.recordLatency latency = some recorded) :
    HealthReached cfg windowSize (recorded.addPlayer name) := by
  have called :=
    ((reached.call .recordSuccess).call (.recordLatency latency)).call (.addPlayer name)
  simpa only [ConcurrentCall.apply, recordedEq, Option.getD_some] using called

/-- Every event is a sequence of events of the health-check machine on each backend. -/
theorem keeps_healthReached : Keeps cfg (HealthReached cfg windowSize) :=
  ⟨fun input _ hm reached => reached.checkOne input hm,
    fun _ disabled reached => reached.call (.setDisabled disabled),
    dial_satisfies HealthReached.failedDial HealthReached.connectedDial,
    close_satisfies fun name reached => reached.call (.removePlayer name)⟩

end HealthReached

/-- **The load balancer refines the health-check machine.**  From any configuration `Start`
registers, along every interleaving of health-check ticks in any map order,
`DisableBackend`/`EnableBackend` calls, dials and closes, every backend of every registered pool
is a state the health-check machine reaches from a `NewBackend` with the configured window
size, between two ticks.  So the machine's hysteresis laws hold of every backend the load
balancer holds. -/
theorem balancer_run_refines_health (cfg : HealthCheckConfig) {windowSize : Int}
    {servers : List ServerConfig} {history : HistoryManager} {started lb : Balancer}
    (startedEq : start windowSize servers history = some started) {events : List BalancerEvent}
    (ran : started.run cfg events = some lb) {name : String} {pool : Pool}
    (registered : lb.servers name = some pool) :
    ∀ b ∈ pool.backends, ∃ addr maxConns fresh healthEvents,
      newBackend addr maxConns windowSize = some fresh ∧
        healthRun cfg ⟨fresh, .idle⟩ healthEvents = some ⟨b, .idle⟩ :=
  run_satisfies keeps_healthReached (fun addr maxConns b built => ⟨addr, maxConns, b, [], built, rfl⟩)
    startedEq ran name pool registered

theorem balancer_run_refines_health_lobby :
    let servers : List ServerConfig := [⟨"lobby", [("a:25565", 1)], "sequential", true⟩]
    let events : List BalancerEvent :=
      [.dial "lobby" ⟨fun _ => 0, fun _ => none⟩ (some "alice") (.connected 1000000),
        .tick (fun _ _ => ⟨0, 0, ⟨5000000, true, 15000000, true⟩⟩) ["lobby"]]
    ∃ started lb pool, start 20 servers HistoryManager.new = some started ∧
      started.run ⟨3, 2⟩ events = some lb ∧ lb.servers "lobby" = some pool ∧
      ∀ b ∈ pool.backends, ∃ addr maxConns fresh healthEvents,
        newBackend addr maxConns 20 = some fresh ∧
          healthRun ⟨3, 2⟩ ⟨fresh, .idle⟩ healthEvents = some ⟨b, .idle⟩ := by
  intro servers events
  exact ⟨_, _, _, rfl, rfl, rfl, @balancer_run_refines_health ⟨3, 2⟩ 20 servers
    HistoryManager.new _ _ rfl events rfl "lobby" _ rfl⟩

end Balancer

end RmsGate.LoadBalancer
