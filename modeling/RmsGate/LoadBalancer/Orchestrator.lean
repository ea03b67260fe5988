import RmsGate.LoadBalancer.Probe
import RmsGate.LoadBalancer.Pool

/-!
# The load balancer over all its pools

`LoadBalancer` keeps the registered pools by name and the history they share.  On every tick
its health loop calls `checkAllBackends`, which copies the pools out of the map, in the order
Go's map iteration happens to give, and probes every enabled backend of each in turn: a failed
probe is counted and marks a healthy backend unhealthy once the count reaches the threshold, and
a successful one records its latency on the backend and in the history.  `DisableBackend` and
`EnableBackend` set the flag of the first backend of a pool with the given address.  A
successful probe of a backend with no room in its window panics in `RecordLatency`; the panic
unwinds to `healthCheckLoop`, whose `recover` starts a new loop, so the rest of the tick is
skipped.
A tick is one step here; how it interleaves with `Dial` on one backend is the health-check
machine.  The outcome of each probe, with the clock and the period when it runs, is an input.
The history is keyed by address alone, so two pools with a backend at the same address share
its history.
-/

namespace RmsGate.LoadBalancer

open RmsGate.Go

/-- `LoadBalancer`: the registered pools by name, and the history. -/
structure Balancer where
  servers : String → Option Pool
  history : HistoryManager

/-- What the health loop meets when it probes one backend: the period and the clock when the
probe starts, and the network steps of `MCPing`. -/
structure ProbeInput where
  period : Fin 96
  now : Nat
  net : PingSteps

namespace Balancer

/-- The rest of the failure branch when nothing runs in between: `FailCount()` at the
threshold on a healthy backend, then `SetHealthy(false)`. -/
def finishCheck (cfg : HealthCheckConfig) (state : HealthState) : Backend :=
  if state.phase = .counted ∧ readFailCount cfg state.backend = .marking then
    state.backend.setHealthy false
  else state.backend

/-- The body of `checkAllBackends`' inner loop on one backend. -/
def checkOne (cfg : HealthCheckConfig) (input : ProbeInput) (b : Backend) (hm : HistoryManager) :
    Backend × HistoryManager :=
  let ticked := probeTick cfg input.period input.now input.net b hm
  (finishCheck cfg ticked.1, ticked.2)

/-- The inner loop over a pool's backends from position `i`, the one at position `i` probed
with `probe i`, and whether a probe panicked. -/
def checkBackends (cfg : HealthCheckConfig) (probe : Nat → ProbeInput) :
    Nat → List Backend → HistoryManager → List Backend × HistoryManager × Bool
  | _, [], hm => ([], hm, false)
  | i, b :: rest, hm =>
      let checked := checkOne cfg (probe i) b hm
      if probePanics (probe i).now (probe i).net b then (checked.1 :: rest, checked.2, true)
      else
        let later := checkBackends cfg probe (i + 1) rest checked.2
        (checked.1 :: later.1, later.2)

/-- One turn of the outer loop, on the pool registered under `name`, and whether it panicked. -/
def checkServer (cfg : HealthCheckConfig) (probes : String → Nat → ProbeInput)
    (lb : Balancer) (name : String) : Balancer × Bool :=
  match lb.servers name with
  | none => (lb, false)
  | some pool =>
      let checked := checkBackends cfg (probes name) 0 pool.backends lb.history
      (⟨Function.update lb.servers name (some { pool with backends := checked.1 }), checked.2.1⟩,
        checked.2.2)

/-- `checkAllBackends`, visiting the pools in `order`, the order of Go's map iteration, up to
the first panic. -/
def checkAllBackends (cfg : HealthCheckConfig) (probes : String → Nat → ProbeInput) :
    List String → Balancer → Balancer
  | [], lb => lb
  | name :: order, lb =>
      let checked := checkServer cfg probes lb name
      if checked.2 then checked.1 else checkAllBackends cfg probes order checked.1

/-- The loop of `DisableBackend` and `EnableBackend`: set the flag of the first backend with
the address; `none` when no backend has it. -/
def setFirstDisabled (backendAddr : String) (disabled : Bool) :
    List Backend → Option (List Backend)
  | [] => none
  | b :: rest =>
      if b.addr = backendAddr then some (b.setDisabled disabled :: rest)
      else (setFirstDisabled backendAddr disabled rest).map (b :: ·)

/-- `DisableBackend` and `EnableBackend`: whether the pool and the backend were found. -/
def setBackendDisabled (lb : Balancer) (serverName backendAddr : String) (disabled : Bool) :
    Bool × Balancer :=
  match lb.servers serverName with
  | none => (false, lb)
  | some pool =>
      match setFirstDisabled backendAddr disabled pool.backends with
      | none => (false, lb)
      | some backends =>
          (true, { lb with
            servers := Function.update lb.servers serverName (some { pool with backends }) })

def disableBackend (lb : Balancer) (serverName backendAddr : String) : Bool × Balancer :=
  lb.setBackendDisabled serverName backendAddr true

def enableBackend (lb : Balancer) (serverName backendAddr : String) : Bool × Balancer :=
  lb.setBackendDisabled serverName backendAddr false

end Balancer

/-! ## Histories written at different addresses commute -/

namespace HistoryManager

/-- `f` writes only the histories of the addresses in `S`, and what it writes there depends only
on what those held. -/
structure Local (S : String → Prop) (f : HistoryManager → HistoryManager) : Prop where
  frame : ∀ hm addr, ¬ S addr → (f hm).cache addr = hm.cache addr
  reads : ∀ hm other, (∀ addr, S addr → hm.cache addr = other.cache addr) →
    ∀ addr, S addr → (f hm).cache addr = (f other).cache addr

theorem local_id (S : String → Prop) : Local S id :=
  ⟨fun _ _ _ => rfl, fun _ _ same => same⟩

theorem local_record (period : Fin 96) (addr : String) (latency jitter : ℚ) :
    Local (· = addr) fun hm => hm.record period addr latency jitter := by
  constructor
  · intro hm other away
    simp [record, Function.update_noteq away]
  · rintro hm other same _ rfl
    simp [record, historyOf, same _ rfl]

theorem Local.mono {S T : String → Prop} {f : HistoryManager → HistoryManager}
    (writes : Local S f) (sub : ∀ addr, S addr → T addr) : Local T f := by
  refine ⟨fun hm addr away => writes.frame hm addr fun inS => away (sub addr inS), ?_⟩
  intro hm other same addr inT
  by_cases inS : S addr
  · exact writes.reads hm other (fun a inS => same a (sub a inS)) addr inS
  · rw [writes.frame hm addr inS, writes.frame other addr inS, same addr inT]

theorem Local.comp {S : String → Prop} {f g : HistoryManager → HistoryManager}
    (outer : Local S f) (inner : Local S g) : Local S (f ∘ g) :=
  ⟨fun hm addr away => (outer.frame _ addr away).trans (inner.frame hm addr away),
    fun hm other same => outer.reads _ _ (inner.reads hm other same)⟩

theorem Local.comm {S T : String → Prop} {f g : HistoryManager → HistoryManager}
    (writesS : Local S f) (writesT : Local T g) (apart : ∀ addr, S addr → ¬ T addr)
    (hm : HistoryManager) : f (g hm) = g (f hm) := by
  have untouched : ∀ {S T} {f g : HistoryManager → HistoryManager}, Local S f → Local T g →
      (∀ addr, S addr → ¬ T addr) → ∀ addr, S addr → (f (g hm)).cache addr = (g (f hm)).cache addr :=
    fun writesS writesT apart addr inS =>
      (writesS.reads _ hm (fun a inS => writesT.frame hm a (apart a inS)) addr inS).trans
        (writesT.frame _ addr (apart addr inS)).symm
  refine eq_of_cache fun addr => ?_
  by_cases inS : S addr
  · exact untouched writesS writesT apart addr inS
  · by_cases inT : T addr
    · exact (untouched writesT writesS (fun a inT inS => apart a inS inT) addr inT).symm
    · rw [writesS.frame _ addr inS, writesT.frame _ addr inT, writesT.frame _ addr inT,
        writesS.frame _ addr inS]

end HistoryManager

/-! ## One probe, one pool -/

/-- A probe leaves the history as it was or makes one `Record` at the backend's address, with
arguments that do not depend on the history. -/
theorem probeTick_history (cfg : HealthCheckConfig) (period : Fin 96) (now : Nat)
    (net : PingSteps) (b : Backend) :
    (∀ hm, (probeTick cfg period now net b hm).2 = hm) ∨
      ∃ latency jitter, ∀ hm,
        (probeTick cfg period now net b hm).2 = hm.record period b.addr latency jitter := by
  cases disabled : b.disabled
  · cases probed : (mcPing now net).1 with
    | failure =>
        exact .inl fun hm => by simp only [probeTick, disabled, probed, Bool.false_eq_true, if_false]
    | success latency =>
        cases recorded : (b.setLastCheckTime ((mcPing now net).2 / 1000000 : Nat)).recordLatency
            latency with
        | none =>
            exact .inl fun hm => by
              simp only [probeTick, disabled, probed, recorded, Bool.false_eq_true, if_false]
        | some next =>
            exact .inr ⟨(Go.milliseconds latency : ℚ), next.jitter, fun hm => by
              simp only [probeTick, disabled, probed, recorded, Bool.false_eq_true, if_false]⟩
  · exact .inl fun hm => by simp only [probeTick, disabled, if_true]

namespace Balancer

theorem local_checkOne (cfg : HealthCheckConfig) (input : ProbeInput) (b : Backend) :
    HistoryManager.Local (· = b.addr) fun hm => (checkOne cfg input b hm).2 := by
  rcases probeTick_history cfg input.period input.now input.net b with same | ⟨latency, jitter, recorded⟩
  · have : (fun hm => (checkOne cfg input b hm).2) = id := funext same
    rw [this]
    exact HistoryManager.local_id _
  · have : (fun hm => (checkOne cfg input b hm).2) =
        fun hm => hm.record input.period b.addr latency jitter := funext recorded
    rw [this]
    exact HistoryManager.local_record _ _ _ _

theorem checkOne_backend (cfg : HealthCheckConfig) (input : ProbeInput) (b : Backend)
    (hm other : HistoryManager) : (checkOne cfg input b hm).1 = (checkOne cfg input b other).1 := by
  simp only [checkOne, probeTick_backend]

theorem checkOne_addr (cfg : HealthCheckConfig) (input : ProbeInput) (b : Backend)
    (hm : HistoryManager) : (checkOne cfg input b hm).1.addr = b.addr := by
  simp only [checkOne, probeTick_backend, finishCheck]
  split_ifs <;> simp

theorem checkOne_frame (cfg : HealthCheckConfig) (input : ProbeInput) (b : Backend)
    (hm : HistoryManager) :
    (checkOne cfg input b hm).1.players = b.players ∧
      (checkOne cfg input b hm).1.currentConns = b.currentConns ∧
      (checkOne cfg input b hm).1.maxConnections = b.maxConnections ∧
      (checkOne cfg input b hm).1.windowSize = b.windowSize := by
  simp only [checkOne, probeTick_backend]
  generalize (mcPing input.now input.net).1 = probe
  generalize (((mcPing input.now input.net).2 / 1000000 : Nat) : Int) = now
  have checked : (checkBackend cfg now probe b).backend.players = b.players ∧
      (checkBackend cfg now probe b).backend.currentConns = b.currentConns ∧
      (checkBackend cfg now probe b).backend.maxConnections = b.maxConnections ∧
      (checkBackend cfg now probe b).backend.windowSize = b.windowSize := by
    rcases checkBackend_cases cfg now probe b with ⟨_, eq⟩ | ⟨_, _, eq⟩ | ⟨_, _, _, _, eq⟩ |
      ⟨_, _, recorded, _, recordedEq, eq⟩ <;> rw [eq]
    · exact ⟨rfl, rfl, rfl, rfl⟩
    · exact ⟨rfl, rfl, rfl, rfl⟩
    · exact ⟨rfl, rfl, rfl, rfl⟩
    · rcases checkSucceeded_cases cfg recorded with ⟨_, eq⟩ | ⟨_, _, eq⟩ | ⟨_, _, eq⟩ <;>
        rw [eq, Backend.recordLatency_frame recordedEq] <;> exact ⟨rfl, rfl, rfl, rfl⟩
  unfold finishCheck
  split <;> exact checked

/-- Each backend a pool's check leaves is the one at its position, checked or, past a panic,
as it was. -/
theorem checkBackends_getElem? (cfg : HealthCheckConfig) (probe : Nat → ProbeInput) :
    ∀ (i : Nat) (backends : List Backend) (hm : HistoryManager) (j : Nat) (b' : Backend),
      (checkBackends cfg probe i backends hm).1[j]? = some b' →
        ∃ b, backends[j]? = some b ∧ (b' = b ∨ ∃ input hm', b' = (checkOne cfg input b hm').1)
  | _, [], _, _, _, found => by simp [checkBackends] at found
  | i, b :: rest, hm, j, b', found => by
      unfold checkBackends at found
      split at found <;> rcases j with _ | j <;>
        simp only [List.getElem?_cons_zero, List.getElem?_cons_succ, Option.some.injEq] at found
      · exact ⟨b, List.getElem?_cons_zero, .inr ⟨_, _, found.symm⟩⟩
      · exact ⟨b', List.getElem?_cons_succ.trans found, .inl rfl⟩
      · exact ⟨b, List.getElem?_cons_zero, .inr ⟨_, _, found.symm⟩⟩
      · rw [List.getElem?_cons_succ]
        exact checkBackends_getElem? cfg probe (i + 1) rest _ j b' found

theorem checkBackends_backends (cfg : HealthCheckConfig) (probe : Nat → ProbeInput) :
    ∀ (i : Nat) (backends : List Backend) (hm other : HistoryManager),
      (checkBackends cfg probe i backends hm).1 = (checkBackends cfg probe i backends other).1 ∧
        (checkBackends cfg probe i backends hm).2.2 =
          (checkBackends cfg probe i backends other).2.2
  | _, [], _, _ => ⟨rfl, rfl⟩
  | i, b :: rest, hm, other => by
      obtain ⟨later, laterPanics⟩ := checkBackends_backends cfg probe (i + 1) rest
        (checkOne cfg (probe i) b hm).2 (checkOne cfg (probe i) b other).2
      unfold checkBackends
      split
      · simp only [checkOne_backend cfg (probe i) b hm other, and_self]
      · simp only [checkOne_backend cfg (probe i) b hm other, later, laterPanics, and_self]

theorem checkBackends_addrs (cfg : HealthCheckConfig) (probe : Nat → ProbeInput) :
    ∀ (i : Nat) (backends : List Backend) (hm : HistoryManager),
      (checkBackends cfg probe i backends hm).1.map (·.addr) = backends.map (·.addr)
  | _, [], _ => rfl
  | i, b :: rest, hm => by
      unfold checkBackends
      split
      · simp only [List.map_cons, checkOne_addr]
      · simp only [List.map_cons, checkOne_addr, checkBackends_addrs cfg probe (i + 1) rest]

theorem local_checkBackends (cfg : HealthCheckConfig) (probe : Nat → ProbeInput) :
    ∀ (i : Nat) (backends : List Backend),
      HistoryManager.Local (· ∈ backends.map (·.addr))
        fun hm => (checkBackends cfg probe i backends hm).2.1
  | _, [] => HistoryManager.local_id _
  | i, b :: rest => by
      have first : HistoryManager.Local (· ∈ (b :: rest).map (·.addr))
          fun hm => (checkOne cfg (probe i) b hm).2 :=
        (local_checkOne cfg (probe i) b).mono fun _ eq => eq ▸ List.mem_cons_self _ _
      by_cases panics : probePanics (probe i).now (probe i).net b
      · simp only [checkBackends, panics, if_true]
        exact first
      · simp only [checkBackends, panics, Bool.false_eq_true, if_false]
        exact ((local_checkBackends cfg probe (i + 1) rest).mono fun _ mem =>
          List.mem_cons_of_mem _ mem).comp first

/-- With room in every window no probe panics, and the check keeps the room. -/
theorem checkBackends_roomy (cfg : HealthCheckConfig) (probe : Nat → ProbeInput) :
    ∀ (i : Nat) {backends : List Backend} (hm : HistoryManager), (∀ b ∈ backends, 0 < b.windowSize) →
      (checkBackends cfg probe i backends hm).2.2 = false ∧
        ∀ b ∈ (checkBackends cfg probe i backends hm).1, 0 < b.windowSize
  | _, [], _, _ => ⟨rfl, by simp [checkBackends]⟩
  | i, b :: rest, hm, roomy => by
      simp only [List.mem_cons, forall_eq_or_imp] at roomy
      obtain ⟨noPanic, laterRoomy⟩ := checkBackends_roomy cfg probe (i + 1)
        (checkOne cfg (probe i) b hm).2 roomy.2
      simp only [checkBackends, probePanics_of_room _ _ roomy.1, Bool.false_eq_true, if_false,
        List.mem_cons, forall_eq_or_imp, (checkOne_frame cfg (probe i) b hm).2.2.2]
      exact ⟨noPanic, roomy.1, laterRoomy⟩

/-! ## The order of Go's map iteration -/

def addrsAt (lb : Balancer) (name : String) : Option (List String) :=
  (lb.servers name).map fun pool => pool.backends.map (·.addr)

/-- No address belongs to two registered pools. -/
def Separate (lb : Balancer) : Prop :=
  ∀ a b, a ≠ b → ∀ as bs, lb.addrsAt a = some as → lb.addrsAt b = some bs →
    ∀ addr ∈ as, addr ∉ bs

/-- No probe can panic: every backend of every registered pool has room in its window. -/
def Roomy (lb : Balancer) : Prop :=
  ∀ name pool, lb.servers name = some pool → ∀ b ∈ pool.backends, 0 < b.windowSize

/-- A property of the load balancer that every turn of the outer loop keeps holds after the
tick, however far it gets. -/
theorem checkAllBackends_induction {cfg : HealthCheckConfig} {probes : String → Nat → ProbeInput}
    {Q : Balancer → Prop} (keeps : ∀ lb name, Q lb → Q (checkServer cfg probes lb name).1) :
    ∀ (order : List String) {lb : Balancer}, Q lb → Q (checkAllBackends cfg probes order lb)
  | [], _, holds => holds
  | name :: order, lb, holds => by
      rw [checkAllBackends]
      split
      · exact keeps lb name holds
      · exact checkAllBackends_induction keeps order (keeps lb name holds)

theorem Roomy.checkServer {lb : Balancer} (roomy : lb.Roomy) (cfg : HealthCheckConfig)
    (probes : String → Nat → ProbeInput) (name : String) :
    (checkServer cfg probes lb name).2 = false ∧ (checkServer cfg probes lb name).1.Roomy := by
  unfold Balancer.checkServer
  split
  · exact ⟨rfl, roomy⟩
  · rename_i pool registered
    obtain ⟨noPanic, checkedRoomy⟩ :=
      checkBackends_roomy cfg (probes name) 0 lb.history (roomy name pool registered)
    refine ⟨noPanic, fun other pool' found => ?_⟩
    by_cases same : other = name
    · subst same
      simp only [Function.update_same, Option.some.injEq] at found
      exact found ▸ checkedRoomy
    · simp only [Function.update_noteq same] at found
      exact roomy other pool' found

/-- With room in every window the tick visits every pool. -/
theorem checkAllBackends_of_roomy (cfg : HealthCheckConfig) (probes : String → Nat → ProbeInput) :
    ∀ (order : List String) {lb : Balancer}, lb.Roomy →
      checkAllBackends cfg probes order lb =
        order.foldl (fun lb name => (checkServer cfg probes lb name).1) lb
  | [], _, _ => rfl
  | name :: order, lb, roomy => by
      obtain ⟨noPanic, checkedRoomy⟩ := roomy.checkServer cfg probes name
      simp only [checkAllBackends, noPanic, Bool.false_eq_true, if_false, List.foldl_cons]
      exact checkAllBackends_of_roomy cfg probes order checkedRoomy

theorem checkServer_addrsAt (cfg : HealthCheckConfig) (probes : String → Nat → ProbeInput)
    (lb : Balancer) (name other : String) :
    (checkServer cfg probes lb name).1.addrsAt other = lb.addrsAt other := by
  unfold checkServer
  split
  · rfl
  · rename_i pool registered
    by_cases same : other = name
    · subst same
      simp [addrsAt, registered, checkBackends_addrs]
    · simp [addrsAt, Function.update_noteq same]

theorem Separate.checkServer {lb : Balancer} (separate : lb.Separate) (cfg : HealthCheckConfig)
    (probes : String → Nat → ProbeInput) (name : String) :
    (checkServer cfg probes lb name).1.Separate := by
  intro a b ne as bs atA atB
  rw [checkServer_addrsAt] at atA atB
  exact separate a b ne as bs atA atB

theorem checkServer_comm (cfg : HealthCheckConfig) (probes : String → Nat → ProbeInput)
    {lb : Balancer} (separate : lb.Separate) {a b : String} (ne : a ≠ b) :
    (checkServer cfg probes (checkServer cfg probes lb a).1 b).1 =
      (checkServer cfg probes (checkServer cfg probes lb b).1 a).1 := by
  cases atA : lb.servers a with
  | none =>
      cases atB : lb.servers b <;>
        simp [checkServer, atA, atB, Function.update_noteq ne, Function.update_noteq ne.symm]
  | some pa =>
      cases atB : lb.servers b with
      | none => simp [checkServer, atA, atB, Function.update_noteq ne, Function.update_noteq ne.symm]
      | some pb =>
          have apart : ∀ addr, addr ∈ pb.backends.map (·.addr) → addr ∉ pa.backends.map (·.addr) :=
            separate b a ne.symm _ _ (by simp [addrsAt, atB]) (by simp [addrsAt, atA])
          simp only [checkServer, atA, atB, Function.update_noteq ne, Function.update_noteq ne.symm]
          congr 1
          · rw [(checkBackends_backends cfg (probes b) 0 pb.backends
                (checkBackends cfg (probes a) 0 pa.backends lb.history).2.1 lb.history).1,
              (checkBackends_backends cfg (probes a) 0 pa.backends
                (checkBackends cfg (probes b) 0 pb.backends lb.history).2.1 lb.history).1]
            exact Function.update_comm ne _ _ _
          · exact (local_checkBackends cfg (probes b) 0 pb.backends).comm
              (local_checkBackends cfg (probes a) 0 pa.backends) apart lb.history

theorem healthRun_cons (cfg : HealthCheckConfig) (s : HealthState) (event : HealthEvent)
    (events : List HealthEvent) :
    healthRun cfg s (event :: events) = (healthStep cfg s event).bind (healthRun cfg · events) :=
  List.foldlM_cons _ _ _ _

theorem healthRun_append (cfg : HealthCheckConfig) (s : HealthState)
    (events later : List HealthEvent) :
    healthRun cfg s (events ++ later) = (healthRun cfg s events).bind (healthRun cfg · later) :=
  List.foldlM_append _ _ _ _

theorem finishCheck_healthRun (cfg : HealthCheckConfig) (state : HealthState)
    (notMarking : state.phase ≠ .marking) :
    ∃ rest, (∀ e ∈ rest, e = .readFailCount ∨ e = .markUnhealthy) ∧
      healthRun cfg state rest = some ⟨finishCheck cfg state, .idle⟩ := by
  rcases state with ⟨backend, _ | _ | _⟩
  · exact ⟨[], by simp, by simp [healthRun, finishCheck]⟩
  · cases read : readFailCount cfg backend with
    | idle => exact ⟨[.readFailCount], by simp, by simp [healthRun, healthStep, finishCheck, read]⟩
    | marking =>
        exact ⟨[.readFailCount, .markUnhealthy], by simp,
          by simp [healthRun, healthStep, finishCheck, read]⟩
    | counted =>
        simp only [readFailCount] at read
        split_ifs at read
  · exact absurd rfl notMarking

theorem tick_healthRun (cfg : HealthCheckConfig) (input : ProbeInput) (b : Backend)
    (hm : HistoryManager) :
    ∃ rest, (∀ e ∈ rest, e = .readFailCount ∨ e = .markUnhealthy) ∧
      healthRun cfg ⟨b, .idle⟩
          (.check (((mcPing input.now input.net).2 / 1000000 : Nat) : Int)
            (mcPing input.now input.net).1 :: rest) =
        some ⟨(checkOne cfg input b hm).1, .idle⟩ := by
  have ticked : (checkOne cfg input b hm).1 = finishCheck cfg (checkBackend cfg
      ((mcPing input.now input.net).2 / 1000000 : Nat) (mcPing input.now input.net).1 b) := by
    simp only [checkOne, probeTick_backend]
  obtain ⟨rest, only, ran⟩ := finishCheck_healthRun cfg _ (checkBackend_phase_ne_marking cfg
    ((mcPing input.now input.net).2 / 1000000 : Nat) (mcPing input.now input.net).1 b)
  refine ⟨rest, only, ?_⟩
  rw [healthRun_cons, healthStep, if_pos rfl, Option.some_bind, ticked]
  exact ran

theorem checkOne_disabled (cfg : HealthCheckConfig) (input : ProbeInput) {b : Backend}
    (disabled : b.disabled = true) (hm : HistoryManager) : checkOne cfg input b hm = (b, hm) := by
  simp [checkOne, probeTick, disabled, finishCheck]

theorem checkBackends_disabled (cfg : HealthCheckConfig) (probe : Nat → ProbeInput) :
    ∀ (i : Nat) (backends : List Backend) (hm : HistoryManager) (j : Nat) {b : Backend},
      backends[j]? = some b → b.disabled = true → (checkBackends cfg probe i backends hm).1[j]? = some b
  | _, [], _, _, _, found, _ => by cases found
  | i, b₀ :: rest, hm, 0, b, found, disabled => by
      obtain rfl : b₀ = b := by simpa using found
      simp [checkBackends, checkOne_disabled cfg _ disabled, probePanics, disabled]
  | i, b₀ :: rest, hm, j + 1, b, found, disabled => by
      rw [List.getElem?_cons_succ] at found
      unfold checkBackends
      split
      · simpa using found
      · simpa using checkBackends_disabled cfg probe (i + 1) rest _ j found disabled

theorem checkServer_keeps_disabled (cfg : HealthCheckConfig) (probes : String → Nat → ProbeInput)
    (name : String) {lb : Balancer} {serverName : String} {pool : Pool} {i : Nat} {b : Backend}
    (registered : lb.servers serverName = some pool) (found : pool.backends[i]? = some b)
    (disabled : b.disabled = true) :
    ∃ pool', (checkServer cfg probes lb name).1.servers serverName = some pool' ∧
      pool'.backends[i]? = some b := by
  unfold checkServer
  split
  · exact ⟨pool, registered, found⟩
  · rename_i checked atName
    by_cases same : serverName = name
    · subst same
      rw [registered, Option.some.injEq] at atName
      subst atName
      exact ⟨_, Function.update_same _ _ _,
        checkBackends_disabled cfg _ 0 pool.backends lb.history i found disabled⟩
    · exact ⟨pool, by simpa [Function.update_noteq same] using registered, found⟩

/-- The health loop never touches a disabled backend: whatever the probes answer and whatever
order Go's map gives, a tick leaves every disabled backend of a registered pool where it was
and as it was. -/
theorem checkAllBackends_keeps_disabled (cfg : HealthCheckConfig)
    (probes : String → Nat → ProbeInput) (order : List String) :
    ∀ {lb : Balancer} {serverName : String} {pool : Pool} {i : Nat} {b : Backend},
      lb.servers serverName = some pool → pool.backends[i]? = some b → b.disabled = true →
        ∃ pool', (checkAllBackends cfg probes order lb).servers serverName = some pool' ∧
          pool'.backends[i]? = some b := by
  intro lb serverName pool i b registered found disabled
  refine checkAllBackends_induction (Q := fun lb => ∃ pool, lb.servers serverName = some pool ∧
    pool.backends[i]? = some b) (fun lb name ⟨_, registered, found⟩ => ?_) order
    ⟨pool, registered, found⟩
  exact checkServer_keeps_disabled cfg probes name registered found disabled

/-! ## Failing probes mark a backend unhealthy -/

/-- A failed probe of an enabled backend counts the failure, and marks the backend unhealthy
once the count reaches `int32(UnhealthyAfterFailures)`. -/
theorem checkOne_failed (cfg : HealthCheckConfig) {input : ProbeInput}
    (failed : (mcPing input.now input.net).1 = .failure) {b : Backend} (enabled : b.disabled = false)
    (lower : 0 ≤ b.failCount) (upper : b.failCount + 1 < 2 ^ 31) (hm : HistoryManager) :
    (checkOne cfg input b hm).1.failCount = b.failCount + 1 ∧
      (checkOne cfg input b hm).1.disabled = false ∧
      ((checkOne cfg input b hm).1.healthy = true ↔
        b.healthy = true ∧ b.failCount + 1 < toInt32 cfg.unhealthyAfterFailures) := by
  have counted : (checkOne cfg input b hm).1 = finishCheck cfg
      ⟨(b.setLastCheckTime ((mcPing input.now input.net).2 / 1000000 : Nat)).recordHealthCheckFailure,
        .counted⟩ := by
    simp only [checkOne, probeTick_backend, checkBackend, enabled, failed, Bool.false_eq_true,
      if_false]
  have exact : toInt32 (b.failCount + 1) = b.failCount + 1 := toInt32_add_one (by omega) upper
  rw [counted]
  unfold finishCheck readFailCount
  by_cases reached : toInt32 cfg.unhealthyAfterFailures ≤ b.failCount + 1 <;>
    cases healthy : b.healthy <;>
    simp [exact, reached, healthy, enabled]
  all_goals omega

theorem failedTicks (cfg : HealthCheckConfig) (hm : HistoryManager) :
    ∀ (inputs : List ProbeInput) {b : Backend},
      (∀ input ∈ inputs, (mcPing input.now input.net).1 = .failure) → b.disabled = false →
      0 ≤ b.failCount → b.failCount + inputs.length < 2 ^ 31 →
        (inputs.foldl (fun b input => (checkOne cfg input b hm).1) b).failCount =
            b.failCount + inputs.length ∧
          (inputs.foldl (fun b input => (checkOne cfg input b hm).1) b).disabled = false ∧
          ((inputs.foldl (fun b input => (checkOne cfg input b hm).1) b).healthy = true ↔
            b.healthy = true ∧
              (inputs = [] ∨ b.failCount + inputs.length < toInt32 cfg.unhealthyAfterFailures))
  | [], b, _, enabled, _, _ => by simp [enabled]
  | input :: rest, b, failing, enabled, lower, upper => by
      simp only [List.length_cons, Nat.cast_add, Nat.cast_one] at upper
      obtain ⟨count, stillEnabled, healthy⟩ := checkOne_failed cfg
        (failing input (List.mem_cons_self _ _)) enabled lower (by omega) hm
      obtain ⟨count', enabled', healthy'⟩ := failedTicks cfg hm rest
        (fun input mem => failing input (List.mem_cons_of_mem _ mem)) stillEnabled (by omega)
        (by omega)
      simp only [List.foldl_cons, List.length_cons, Nat.cast_add, Nat.cast_one,
        reduceCtorEq, false_or]
      refine ⟨by omega, enabled', healthy'.trans ?_⟩
      rw [healthy, count, ← List.length_eq_zero]
      constructor
      · rintro ⟨⟨healthy, _⟩, below⟩
        exact ⟨healthy, by omega⟩
      · rintro ⟨healthy, below⟩
        exact ⟨⟨healthy, by omega⟩, by omega⟩

/-- **The health loop detects a dead backend in time.**  A healthy, enabled backend with no
counted failure whose probes keep failing, ticked with no other call on it in between, is
marked unhealthy by the tick that brings its failure count to `int32(UnhealthyAfterFailures)`,
and stays healthy before it.  The backend does not depend on the history the ticks write. -/
theorem failed_ticks_mark_unhealthy (cfg : HealthCheckConfig) {b : Backend}
    (healthy : b.healthy = true) (enabled : b.disabled = false) (noFailure : b.failCount = 0)
    (hm : HistoryManager) (inputs : List ProbeInput)
    (failing : ∀ input ∈ inputs, (mcPing input.now input.net).1 = .failure)
    (short : inputs.length < 2 ^ 31) :
    (inputs.foldl (fun b input => (checkOne cfg input b hm).1) b).healthy = false ↔
      0 < inputs.length ∧ toInt32 cfg.unhealthyAfterFailures ≤ inputs.length := by
  obtain ⟨-, -, stays⟩ :=
    failedTicks cfg hm inputs failing enabled (by omega) (by rw [noFailure]; omega)
  rw [← Bool.not_eq_true, stays, noFailure, ← List.length_eq_zero]
  simp only [healthy, true_and, zero_add, not_or]
  omega

theorem failed_ticks_mark_unhealthy_three :
    let fresh : Backend := ⟨"a:25565", 100, 0, 0, 0, true, false, [], 20, 0, ∅, 100⟩
    let down : ProbeInput := ⟨0, 0, ⟨5000000, false, 0, false⟩⟩
    fresh.healthy = true ∧ fresh.disabled = false ∧ fresh.failCount = 0 ∧
      (∀ input ∈ List.replicate 3 down, (mcPing input.now input.net).1 = .failure) ∧
      (List.replicate 3 down).length < 2 ^ 31 ∧
      (((List.replicate 3 down).foldl
          (fun b input => (checkOne ⟨3, 2⟩ input b HistoryManager.new).1) fresh).healthy = false ↔
        0 < (List.replicate 3 down).length ∧
          toInt32 (3 : Int) ≤ ((List.replicate 3 down).length : Int)) := by
  intro fresh down
  have failing : ∀ input ∈ List.replicate 3 down, (mcPing input.now input.net).1 = .failure := by
    intro input mem
    rw [List.eq_of_mem_replicate mem]
    rfl
  exact ⟨rfl, rfl, rfl, failing, by decide,
    failed_ticks_mark_unhealthy ⟨3, 2⟩ rfl rfl rfl _ _ failing (by decide)⟩

/-! ## Succeeding probes bring a backend back -/

theorem checkOne_succeeded_healthy (cfg : HealthCheckConfig) {input : ProbeInput} {latency : Nat}
    (succeeded : (mcPing input.now input.net).1 = .success latency) {b : Backend}
    (healthy : b.healthy = true) (hm : HistoryManager) : (checkOne cfg input b hm).1.healthy = true := by
  have idle : (checkBackend cfg ((mcPing input.now input.net).2 / 1000000 : Nat)
      (mcPing input.now input.net).1 b).phase = .idle := by
    rcases checkBackend_cases cfg ((mcPing input.now input.net).2 / 1000000 : Nat)
      (mcPing input.now input.net).1 b with ⟨-, eq⟩ | ⟨-, failed, -⟩ | ⟨-, _, -, -, eq⟩ |
      ⟨-, _, _, -, -, eq⟩
    · rw [eq]
    · rw [succeeded] at failed
      cases failed
    all_goals rw [eq]
  simp only [checkOne, probeTick_backend, finishCheck, idle, reduceCtorEq, false_and, if_false]
  exact (checkBackend_health cfg _ _ b).1 healthy

/-- A successful probe of an unhealthy, enabled backend with room in its window counts the
success, and brings the backend back once the count reaches `int32(HealthyAfterSuccesses)`. -/
theorem checkOne_succeeded (cfg : HealthCheckConfig) {input : ProbeInput} {latency : Nat}
    (succeeded : (mcPing input.now input.net).1 = .success latency) {b : Backend}
    (unhealthy : b.healthy = false) (enabled : b.disabled = false) (room : 0 < b.windowSize)
    (lower : 0 ≤ b.successCount) (upper : b.successCount + 1 < 2 ^ 31) (hm : HistoryManager) :
    (checkOne cfg input b hm).1.disabled = false ∧
      (checkOne cfg input b hm).1.windowSize = b.windowSize ∧
      ((checkOne cfg input b hm).1.healthy = true ↔
        toInt32 cfg.healthyAfterSuccesses ≤ b.successCount + 1) ∧
      ((checkOne cfg input b hm).1.healthy = false →
        (checkOne cfg input b hm).1.successCount = b.successCount + 1) := by
  have exact : toInt32 (b.successCount + 1) = b.successCount + 1 := toInt32_add_one (by omega) upper
  obtain ⟨recorded, recordedEq⟩ : ∃ recorded, (b.setLastCheckTime
      ((mcPing input.now input.net).2 / 1000000 : Nat)).recordLatency latency = some recorded := by
    cases found : (b.setLastCheckTime ((mcPing input.now input.net).2 / 1000000 : Nat)).recordLatency
      latency with
    | none =>
        have full := ((Backend.recordLatency_eq_none_iff _ _).mp found).1
        simp only [Backend.setLastCheckTime_windowSize] at full
        omega
    | some recorded => exact ⟨recorded, rfl⟩
  have frame := Backend.recordLatency_frame recordedEq
  have ticked : (checkOne cfg input b hm).1 = checkSucceeded cfg recorded := by
    simp only [checkOne, probeTick_backend, checkBackend, enabled, succeeded, recordedEq,
      finishCheck, Bool.false_eq_true, if_false, reduceCtorEq, false_and]
  rw [ticked]
  rcases checkSucceeded_cases cfg recorded with ⟨wasHealthy, -⟩ | ⟨-, reached, eq⟩ |
    ⟨-, below, eq⟩
  · rw [frame] at wasHealthy
    simp [unhealthy] at wasHealthy
  · rw [frame] at reached
    simp only [Backend.setLastCheckTime_successCount, exact] at reached
    rw [eq, frame]
    simp [enabled, reached]
  · rw [frame] at below
    simp only [Backend.setLastCheckTime_successCount, exact] at below
    rw [eq, frame]
    simp [enabled, exact, unhealthy]
    omega

theorem succeededTicks_healthy (cfg : HealthCheckConfig) (hm : HistoryManager) :
    ∀ (inputs : List ProbeInput) {b : Backend},
      (∀ input ∈ inputs, ∃ latency, (mcPing input.now input.net).1 = .success latency) →
      b.healthy = true → (inputs.foldl (fun b input => (checkOne cfg input b hm).1) b).healthy = true
  | [], _, _, healthy => healthy
  | input :: rest, b, succeeding, healthy => by
      obtain ⟨latency, succeeded⟩ := succeeding input (List.mem_cons_self _ _)
      exact succeededTicks_healthy cfg hm rest
        (fun input mem => succeeding input (List.mem_cons_of_mem _ mem))
        (checkOne_succeeded_healthy cfg succeeded healthy hm)

theorem succeededTicks (cfg : HealthCheckConfig) (hm : HistoryManager) :
    ∀ (inputs : List ProbeInput) {b : Backend},
      (∀ input ∈ inputs, ∃ latency, (mcPing input.now input.net).1 = .success latency) →
      b.healthy = false → b.disabled = false → 0 < b.windowSize → 0 ≤ b.successCount →
      b.successCount + inputs.length < 2 ^ 31 →
        ((inputs.foldl (fun b input => (checkOne cfg input b hm).1) b).healthy = true ↔
          0 < inputs.length ∧ toInt32 cfg.healthyAfterSuccesses ≤ b.successCount + inputs.length)
  | [], b, _, unhealthy, _, _, _, _ => by simp [unhealthy]
  | input :: rest, b, succeeding, unhealthy, enabled, room, lower, upper => by
      simp only [List.length_cons, Nat.cast_add, Nat.cast_one] at upper
      obtain ⟨latency, succeeded⟩ := succeeding input (List.mem_cons_self _ _)
      have later : ∀ input ∈ rest, ∃ latency, (mcPing input.now input.net).1 = .success latency :=
        fun input mem => succeeding input (List.mem_cons_of_mem _ mem)
      obtain ⟨stillEnabled, sameRoom, recovers, counts⟩ :=
        checkOne_succeeded cfg succeeded unhealthy enabled room lower (by omega) hm
      simp only [List.foldl_cons, List.length_cons, Nat.cast_add, Nat.cast_one]
      cases after : (checkOne cfg input b hm).1.healthy
      · have notYet : ¬ toInt32 cfg.healthyAfterSuccesses ≤ b.successCount + 1 := fun reached => by
          simp [recovers.mpr reached] at after
        rw [succeededTicks cfg hm rest later after stillEnabled (sameRoom ▸ room)
          (by rw [counts after]; omega) (by rw [counts after]; omega), counts after]
        omega
      · rw [succeededTicks_healthy cfg hm rest later after]
        have reached := recovers.mp after
        simp only [true_iff]
        omega

/-- **The health loop brings a backend back in time.**  An unhealthy, enabled backend with
room in its window and no counted success, as the health loop leaves it when it marks it,
whose probes keep succeeding, ticked with no other call on it in between, is healthy again
from exactly the tick that brings its success count to `int32(HealthyAfterSuccesses)`. -/
theorem succeeded_ticks_recover (cfg : HealthCheckConfig) {b : Backend}
    (unhealthy : b.healthy = false) (enabled : b.disabled = false) (room : 0 < b.windowSize)
    (noSuccess : b.successCount = 0) (hm : HistoryManager) (inputs : List ProbeInput)
    (succeeding : ∀ input ∈ inputs, ∃ latency, (mcPing input.now input.net).1 = .success latency)
    (short : inputs.length < 2 ^ 31) :
    (inputs.foldl (fun b input => (checkOne cfg input b hm).1) b).healthy = true ↔
      0 < inputs.length ∧ toInt32 cfg.healthyAfterSuccesses ≤ inputs.length := by
  rw [succeededTicks cfg hm inputs succeeding unhealthy enabled room (by omega) (by omega),
    noSuccess, zero_add]

theorem succeeded_ticks_recover_two :
    let marked : Backend := ⟨"a:25565", 100, 0, 3, 0, false, false, [], 20, 0, ∅, 100⟩
    let up : ProbeInput := ⟨0, 0, ⟨5000000, true, 15000000, true⟩⟩
    marked.healthy = false ∧ marked.disabled = false ∧ 0 < marked.windowSize ∧
      marked.successCount = 0 ∧
      (∀ input ∈ List.replicate 2 up, ∃ latency, (mcPing input.now input.net).1 = .success latency) ∧
      (List.replicate 2 up).length < 2 ^ 31 ∧
      (((List.replicate 2 up).foldl
          (fun b input => (checkOne ⟨3, 2⟩ input b HistoryManager.new).1) marked).healthy = true ↔
        0 < (List.replicate 2 up).length ∧
          toInt32 (2 : Int) ≤ ((List.replicate 2 up).length : Int)) := by
  intro marked up
  have succeeding : ∀ input ∈ List.replicate 2 up,
      ∃ latency, (mcPing input.now input.net).1 = .success latency := by
    intro input mem
    rw [List.eq_of_mem_replicate mem]
    exact ⟨0, rfl⟩
  exact ⟨rfl, rfl, by decide, rfl, succeeding, by decide,
    succeeded_ticks_recover ⟨3, 2⟩ rfl rfl (by decide) rfl _ _ succeeding (by decide)⟩

/-! ## Disabling and enabling a backend -/

theorem setDisabled_disabled (b : Backend) (disabled : Bool) :
    (b.setDisabled disabled).setDisabled b.disabled = b :=
  rfl

theorem setFirstDisabled_restore (backendAddr : String) (disabled : Bool) :
    ∀ {backends : List Backend} {b : Backend}, backends.find? (·.addr == backendAddr) = some b →
      ∃ changed, setFirstDisabled backendAddr disabled backends = some changed ∧
        setFirstDisabled backendAddr b.disabled changed = some backends
  | [], _, found => by cases found
  | b₀ :: rest, b, found => by
      by_cases here : b₀.addr = backendAddr
      · obtain rfl : b₀ = b := by simpa [here] using found
        exact ⟨_, if_pos here, by simp [setFirstDisabled, here, setDisabled_disabled]⟩
      · obtain ⟨changed, set, back⟩ :=
          setFirstDisabled_restore backendAddr disabled (by simpa [here] using found)
        exact ⟨b₀ :: changed, by simp [setFirstDisabled, here, set],
          by simp [setFirstDisabled, here, back]⟩

theorem setBackendDisabled_not_found {lb : Balancer} {serverName backendAddr : String}
    {disabled : Bool} (notFound : (lb.setBackendDisabled serverName backendAddr disabled).1 = false) :
    (lb.setBackendDisabled serverName backendAddr disabled).2 = lb := by
  unfold setBackendDisabled at notFound ⊢
  split
  · rfl
  · split
    · rfl
    · simp_all

/-- Disabling and enabling again is a round trip: `DisableBackend` on a registered pool whose
first backend with the address is enabled succeeds, and `EnableBackend` with the same names then
succeeds and gives back the load balancer as it was. -/
theorem disableBackend_enableBackend {lb : Balancer} {serverName backendAddr : String}
    {pool : Pool} {b : Backend} (registered : lb.servers serverName = some pool)
    (first : pool.backends.find? (·.addr == backendAddr) = some b) (enabled : b.disabled = false) :
    (lb.disableBackend serverName backendAddr).1 = true ∧
      (lb.disableBackend serverName backendAddr).2.enableBackend serverName backendAddr =
        (true, lb) := by
  obtain ⟨changed, set, back⟩ := setFirstDisabled_restore backendAddr true first
  rw [enabled] at back
  simp only [disableBackend, enableBackend, setBackendDisabled, registered, set, back,
    Function.update_same, Function.update_idem, true_and]
  show (true, (⟨Function.update lb.servers serverName (some pool), lb.history⟩ : Balancer)) =
    (true, lb)
  rw [← registered, Function.update_eq_self]

end Balancer

end RmsGate.LoadBalancer
