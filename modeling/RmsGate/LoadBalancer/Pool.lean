import RmsGate.LoadBalancer.SelectContract

/-!
# A pool and its tracked connections

`LoadBalancedServerInfo.Dial` asks the strategy for a backend, dials it over TCP, records the
outcome on the backend and, on success, attaches the player's name and returns a
`trackedConn`; closing a tracked connection detaches that name once (`closeOnce`).  A nil
player attaches the empty name.  Here one `Dial` is one step, as it is for calls that do not
overlap; the concurrent pool splits it.
`AddPlayer` inserts into a set but always counts one more, and `RemovePlayer` counts one less
only when the name was in the set.  So the count follows the open connections exactly when
no name is attached twice to one backend at once, and leaks one for every repeat.
-/

namespace RmsGate.LoadBalancer

open RmsGate.Go

/-- How the TCP dial of a `Dial` ended, with the time it took on the monotonic clock. -/
inductive DialOutcome where
  | connected (latency : Nat)
  | failed (latency : Nat)

/-- A `trackedConn`: the position of its backend in the pool, the name it attached, and
whether `closeOnce` has run. -/
structure TrackedConn where
  backend : Nat
  playerName : String
  closed : Bool
  deriving DecidableEq

structure Pool where
  backends : List Backend
  strategy : Strategy
  conns : List TrackedConn

def playerName (player : Option String) : String := player.getD ""

namespace Pool

def updateBackend (pool : Pool) (i : Nat) (f : Backend → Option Backend) : Option Pool :=
  match pool.backends[i]? with
  | none => none
  | some b => (f b).map fun b => { pool with backends := pool.backends.set i b }

/-- `Select`: the position of the chosen backend, and the pool with the strategy's next
state. -/
def select (pool : Pool) (env : SelectEnv) (history : Option HistoryManager) :
    Option Nat × Pool :=
  let chosen := pool.strategy.select env history pool.backends
  (chosen.1.map (·.1), { pool with strategy := chosen.2 })

/-- The rest of `Dial` once its TCP dial to the backend at `i` ended. -/
def connect (pool : Pool) (i : Nat) (name : String) : DialOutcome → Option Pool
  | .failed latency => pool.updateBackend i fun b => b.recordFailure.recordLatency latency
  | .connected latency =>
      (pool.updateBackend i fun b =>
          (b.recordSuccess.recordLatency latency).map fun b => b.addPlayer name).map
        fun pool => { pool with conns := pool.conns ++ [⟨i, name, false⟩] }

def dial (pool : Pool) (env : SelectEnv) (history : Option HistoryManager)
    (player : Option String) (outcome : DialOutcome) : Option Pool :=
  match pool.select env history with
  | (none, pool) => some pool
  | (some i, pool) => pool.connect i (playerName player) outcome

/-- `trackedConn.Close` of the connection at position `c`: a repeated close does nothing. -/
def close (pool : Pool) (c : Nat) : Option Pool :=
  match pool.conns[c]? with
  | none => none
  | some conn =>
      if conn.closed then some pool
      else
        (pool.updateBackend conn.backend fun b => some (b.removePlayer conn.playerName)).map
          fun pool => { pool with conns := pool.conns.set c { conn with closed := true } }

end Pool

inductive PoolEvent where
  | dial (env : SelectEnv) (history : Option HistoryManager) (player : Option String)
      (outcome : DialOutcome)
  | close (conn : Nat)

namespace Pool

def step (pool : Pool) : PoolEvent → Option Pool
  | .dial env history player outcome => pool.dial env history player outcome
  | .close conn => pool.close conn

def run (pool : Pool) (events : List PoolEvent) : Option Pool := events.foldlM step pool

def IsOpenOn (i : Nat) (name : Option String) (conn : TrackedConn) : Bool :=
  conn.backend = i && !conn.closed && name.all (conn.playerName = ·)

def openCount (pool : Pool) (i : Nat) : Nat := pool.conns.countP (IsOpenOn i none)

def openNamed (pool : Pool) (i : Nat) (name : String) : Nat :=
  pool.conns.countP (IsOpenOn i (some name))

end Pool

/-! ## A repeated name leaks a count -/

/-- One name dialled twice to one backend, then both connections closed: after the dials the
count is two with one player, after the closes it is one with no open connection. -/
theorem dial_repeated_name_leaks :
    let fresh : Backend :=
      { addr := "192.168.1.10:25565", maxConnections := 0, currentConns := 0, failCount := 0,
        successCount := 0, healthy := true, disabled := false, latencyWindow := [],
        windowSize := 20, lastCheckTime := 0, players := ∅, trustCoeff := 100 }
    let start : Pool := ⟨[fresh], .sequential, []⟩
    let dialAlice := PoolEvent.dial ⟨fun _ => 0, fun _ => none⟩ none (some "alice")
      (.connected 1000000)
    newBackend "192.168.1.10:25565" 0 20 = some fresh ∧
    (∃ dialled, start.run [dialAlice, dialAlice] = some dialled ∧ dialled.openCount 0 = 2 ∧
      dialled.backends.map (fun b => (b.currentConns, b.players.card)) = [(2, 1)]) ∧
    (∃ closed, start.run [dialAlice, dialAlice, .close 0, .close 1] = some closed ∧
      closed.openCount 0 = 0 ∧
      closed.backends.map (fun b => (b.currentConns, b.players.card)) = [(1, 0)]) :=
  ⟨rfl, ⟨_, rfl, by decide, by decide⟩, ⟨_, rfl, by decide, by decide⟩⟩

/-! ## Distinct names keep the count -/

theorem countP_set {α : Type} (p : α → Bool) :
    ∀ (l : List α) (c : Nat) {old : α} (x : α), l[c]? = some old →
      (l.set c x).countP p + (if p old then 1 else 0) = l.countP p + (if p x then 1 else 0)
  | [], _, _, _, found => by simp at found
  | a :: l, 0, old, x, found => by
      simp only [List.getElem?_cons_zero, Option.some.injEq] at found
      subst found
      simp only [List.set_cons_zero, List.countP_cons]
      omega
  | a :: l, c + 1, old, x, found => by
      simp only [List.getElem?_cons_succ] at found
      have := countP_set p l c x found
      simp only [List.set_cons_succ, List.countP_cons]
      omega

namespace Pool

/-- What the pool keeps for the backend at `i`: each name has as many open connections as it
has entries in the player set, and the count and the set both follow the open connections. -/
structure Tracks (conns : List TrackedConn) (i : Nat) (b : Backend) : Prop where
  named : ∀ name, conns.countP (IsOpenOn i (some name)) = if name ∈ b.players then 1 else 0
  count : b.currentConns = toInt32 (conns.countP (IsOpenOn i none))
  card : b.players.card = conns.countP (IsOpenOn i none)

def Tracked (pool : Pool) : Prop := ∀ i b, pool.backends[i]? = some b → Tracks pool.conns i b

theorem updateBackend_eq_some {pool next : Pool} {i : Nat} {f : Backend → Option Backend}
    (updated : pool.updateBackend i f = some next) :
    ∃ b b', pool.backends[i]? = some b ∧ f b = some b' ∧
      next = { pool with backends := pool.backends.set i b' } := by
  unfold updateBackend at updated
  split at updated
  · contradiction
  · rename_i b found
    obtain ⟨b', called, rfl⟩ := Option.map_eq_some'.mp updated
    exact ⟨b, b', found, called, rfl⟩

theorem tracks_set {backends : List Backend} {i : Nat} {b' : Backend} {conns : List TrackedConn}
    (others : ∀ j b, j ≠ i → backends[j]? = some b → Tracks conns j b)
    (written : i < backends.length → Tracks conns i b') :
    ∀ j b, (backends.set i b')[j]? = some b → Tracks conns j b := by
  intro j b found
  by_cases same : j = i
  · subst same
    have inRange : j < backends.length := by
      simpa using (List.getElem?_eq_some_iff.mp found).1
    rw [List.getElem?_set_self inRange] at found
    cases found
    exact written inRange
  · rw [List.getElem?_set_ne (Ne.symm same)] at found
    exact others j b same found

theorem Tracks.of_same {conns : List TrackedConn} {i : Nat} {b b' : Backend}
    (tracks : Tracks conns i b) (players : b'.players = b.players)
    (count : b'.currentConns = b.currentConns) : Tracks conns i b' :=
  ⟨fun name => players ▸ tracks.named name, count ▸ tracks.count, players ▸ tracks.card⟩

theorem Tracks.append_other {conns : List TrackedConn} {i j : Nat} {b : Backend}
    (tracks : Tracks conns j b) (other : i ≠ j) (name : String) :
    Tracks (conns ++ [⟨i, name, false⟩]) j b := by
  have skipped : ∀ name', IsOpenOn j name' ⟨i, name, false⟩ = false := by
    simp [IsOpenOn, other]
  refine ⟨fun name' => ?_, ?_, ?_⟩ <;>
    simp only [List.countP_append, List.countP_singleton, skipped, tracks.named, tracks.count,
      tracks.card] <;> simp

theorem Tracks.addPlayer {conns : List TrackedConn} {i : Nat} {b : Backend} {name : String}
    (tracks : Tracks conns i b) (fresh : conns.countP (IsOpenOn i (some name)) = 0) :
    Tracks (conns ++ [⟨i, name, false⟩]) i (b.addPlayer name) := by
  have absent : name ∉ b.players := by
    intro present
    simpa [present, fresh] using tracks.named name
  refine ⟨fun name' => ?_, ?_, ?_⟩
  · by_cases same : name = name'
    · subst same
      simp [List.countP_append, IsOpenOn, fresh]
    · have := tracks.named name'
      simp [List.countP_append, IsOpenOn, same, this, Finset.mem_insert, Ne.symm same]
  · simp only [List.countP_append, Backend.addPlayer_currentConns, tracks.count, toInt32]
    simp [IsOpenOn, Int.bmod_add_bmod_congr]
  · simp [List.countP_append, IsOpenOn, Finset.card_insert_of_not_mem absent, tracks.card]

theorem Tracks.close {conns : List TrackedConn} {c : Nat} {conn : TrackedConn} {b : Backend}
    (tracks : Tracks conns conn.backend b) (found : conns[c]? = some conn)
    (isOpen : conn.closed = false) :
    Tracks (conns.set c { conn with closed := true }) conn.backend
      (b.removePlayer conn.playerName) := by
  have wasOpen : ∀ name, IsOpenOn conn.backend name conn = name.all (conn.playerName = ·) := by
    simp [IsOpenOn, isOpen]
  have nowClosed : ∀ name, IsOpenOn conn.backend name { conn with closed := true } = false := by
    simp [IsOpenOn]
  have moved := fun name => countP_set (IsOpenOn conn.backend name) conns c
    { conn with closed := true } found
  simp only [wasOpen, nowClosed, Bool.false_eq_true, if_false, add_zero] at moved
  have present : conn.playerName ∈ b.players := by
    have attached : 0 < conns.countP (IsOpenOn conn.backend (some conn.playerName)) :=
      List.countP_pos_iff.mpr ⟨conn, List.getElem?_mem found, by simp [IsOpenOn, isOpen]⟩
    have := tracks.named conn.playerName
    split_ifs at this with mem
    · exact mem
    · omega
  have counted := moved none
  simp only [Option.all_none, if_true] at counted
  refine ⟨fun name => ?_, ?_, ?_⟩
  · have := moved (some name)
    have before := tracks.named name
    simp only [Option.all_some, decide_eq_true_eq] at this
    by_cases same : conn.playerName = name
    · subst same
      simp only [present, if_true] at before this
      simp only [Backend.removePlayer_players, present, if_true, Finset.not_mem_erase, if_false]
      omega
    · simp only [same, if_false, add_zero] at this
      simp only [Backend.removePlayer_players, present, if_true, Finset.mem_erase, ne_eq,
        Ne.symm same, not_false_eq_true, true_and]
      rw [this, before]
  · simp only [Backend.removePlayer_currentConns, present, if_true, tracks.count, toInt32,
      Int.bmod_sub_bmod_congr]
    congr 1
    omega
  · simp only [Backend.removePlayer_players, present, if_true, Finset.card_erase_of_mem present,
      tracks.card]
    omega

theorem Tracks.close_other {conns : List TrackedConn} {c j : Nat} {conn : TrackedConn}
    {b : Backend} (tracks : Tracks conns j b) (found : conns[c]? = some conn)
    (other : conn.backend ≠ j) : Tracks (conns.set c { conn with closed := true }) j b := by
  have skipped : ∀ name (x : TrackedConn), x.backend = conn.backend → IsOpenOn j name x = false :=
    fun name x onOther => by simp [IsOpenOn, onOther, other]
  have moved := fun name => countP_set (IsOpenOn j name) conns c { conn with closed := true } found
  simp only [skipped _ conn rfl, skipped _ { conn with closed := true } rfl, Bool.false_eq_true,
    if_false, add_zero] at moved
  exact ⟨fun name => moved (some name) ▸ tracks.named name, moved none ▸ tracks.count,
    moved none ▸ tracks.card⟩

theorem Tracked.of_eq {pool other : Pool} (tracked : pool.Tracked)
    (backends : other.backends = pool.backends) (conns : other.conns = pool.conns) :
    other.Tracked := by
  intro i b found
  rw [backends] at found
  exact conns ▸ tracked i b found

@[simp] theorem select_backends (pool : Pool) (env : SelectEnv) (history : Option HistoryManager) :
    (pool.select env history).2.backends = pool.backends := rfl

@[simp] theorem select_conns (pool : Pool) (env : SelectEnv) (history : Option HistoryManager) :
    (pool.select env history).2.conns = pool.conns := rfl

theorem Tracked.connect {pool next : Pool} {i : Nat} {name : String} {outcome : DialOutcome}
    (tracked : pool.Tracked) (fresh : pool.openNamed i name = 0)
    (connected : pool.connect i name outcome = some next) : next.Tracked := by
  cases outcome with
  | failed latency =>
      obtain ⟨b, b', found, called, rfl⟩ := updateBackend_eq_some connected
      have frame := Backend.recordLatency_frame called
      refine tracks_set (fun j b₀ _ found₀ => tracked j b₀ found₀) fun _ => ?_
      exact (tracked i b found).of_same (by rw [frame]; rfl) (by rw [frame]; rfl)
  | connected latency =>
      obtain ⟨updatedPool, updated, rfl⟩ := Option.map_eq_some'.mp connected
      obtain ⟨b, b', found, called, rfl⟩ := updateBackend_eq_some updated
      obtain ⟨recorded, recordedEq, rfl⟩ := Option.map_eq_some'.mp called
      have frame := Backend.recordLatency_frame recordedEq
      refine tracks_set (fun j b₀ other found₀ => (tracked j b₀ found₀).append_other
        (Ne.symm other) name) fun _ => ?_
      exact ((tracked i b found).of_same (by rw [frame]; rfl) (by rw [frame]; rfl)).addPlayer fresh

theorem Tracked.dial {pool next : Pool} {env : SelectEnv} {history : Option HistoryManager}
    {player : Option String} {outcome : DialOutcome} (tracked : pool.Tracked)
    (fresh : ∀ i, (pool.select env history).1 = some i →
      pool.openNamed i (playerName player) = 0)
    (dialed : pool.dial env history player outcome = some next) : next.Tracked := by
  have selectedTracked : (pool.select env history).2.Tracked := tracked.of_eq rfl rfl
  unfold Pool.dial at dialed
  split at dialed
  · rename_i selected chosen
    cases dialed
    simpa [chosen] using selectedTracked
  · rename_i i selected chosen
    have sameConns : selected.conns = pool.conns := by rw [← select_conns pool env history, chosen]
    rw [chosen] at selectedTracked fresh
    exact selectedTracked.connect (by simpa only [openNamed, sameConns] using fresh i rfl) dialed

theorem Tracked.close {pool next : Pool} {c : Nat} (tracked : pool.Tracked)
    (closed : pool.close c = some next) : next.Tracked := by
  unfold Pool.close at closed
  split at closed
  · contradiction
  · rename_i conn found
    split at closed
    · cases closed
      exact tracked
    · rename_i isOpen
      obtain ⟨updatedPool, updated, rfl⟩ := Option.map_eq_some'.mp closed
      obtain ⟨b, b', foundB, ⟨⟩, rfl⟩ := updateBackend_eq_some updated
      refine tracks_set (fun j b₀ other found₀ => (tracked j b₀ found₀).close_other found
        (Ne.symm other)) fun _ => ?_
      exact (tracked _ b foundB).close found (by simpa using isOpen)

theorem tracked_of_fresh {start : Pool}
    (fresh : ∀ b ∈ start.backends, b.currentConns = 0 ∧ b.players = ∅)
    (noConns : start.conns = []) : start.Tracked := by
  intro i b found
  obtain ⟨conns, players⟩ := fresh b (List.getElem?_mem found)
  exact ⟨by simp [noConns, players], by simp [noConns, conns, toInt32], by simp [noConns, players]⟩

/-- The pools reachable from `start` by dials and closes in which no dial attaches a name
that already has an open connection on the backend its `Select` picks. -/
inductive DistinctRun (start : Pool) : Pool → Prop where
  | init : DistinctRun start start
  | dial {pool next : Pool} {env : SelectEnv} {history : Option HistoryManager}
      {player : Option String} {outcome : DialOutcome} (run : DistinctRun start pool)
      (fresh : ∀ i, (pool.select env history).1 = some i →
        pool.openNamed i (playerName player) = 0)
      (dialed : pool.dial env history player outcome = some next) : DistinctRun start next
  | close {pool next : Pool} {c : Nat} (run : DistinctRun start pool)
      (closed : pool.close c = some next) : DistinctRun start next

theorem DistinctRun.tracked {start pool : Pool} (run : DistinctRun start pool)
    (tracked : start.Tracked) : pool.Tracked := by
  induction run with
  | init => exact tracked
  | dial _ fresh dialed ih => exact ih.dial fresh dialed
  | close _ closed ih => exact ih.close closed

end Pool

/-- While no name is attached twice to one backend at once, every backend's count is the
number of its open tracked connections, as an `int32`, and the size of its player set: it is
back to zero once they are all closed. -/
theorem distinctRun_counts_open {start pool : Pool}
    (fresh : ∀ b ∈ start.backends, b.currentConns = 0 ∧ b.players = ∅)
    (noConns : start.conns = []) (run : Pool.DistinctRun start pool) :
    ∀ i b, pool.backends[i]? = some b →
      b.currentConns = toInt32 (pool.openCount i) ∧ b.players.card = pool.openCount i := by
  intro i b found
  have tracks := run.tracked (Pool.tracked_of_fresh fresh noConns) i b found
  exact ⟨tracks.count, tracks.card⟩

theorem distinctRun_counts_open_alice :
    let fresh : Backend :=
      { addr := "192.168.1.10:25565", maxConnections := 0, currentConns := 0, failCount := 0,
        successCount := 0, healthy := true, disabled := false, latencyWindow := [],
        windowSize := 20, lastCheckTime := 0, players := ∅, trustCoeff := 100 }
    let start : Pool := ⟨[fresh], .sequential, []⟩
    ∃ next b, start.dial ⟨fun _ => 0, fun _ => none⟩ none (some "alice") (.connected 1000000) =
        some next ∧ next.backends[0]? = some b ∧ next.openCount 0 = 1 ∧
      b.currentConns = toInt32 (next.openCount 0) ∧ b.players.card = next.openCount 0 := by
  intro fresh start
  have dialed : start.dial ⟨fun _ => 0, fun _ => none⟩ none (some "alice") (.connected 1000000) =
      some _ := rfl
  exact ⟨_, _, dialed, rfl, by decide,
    distinctRun_counts_open (by decide) rfl (.dial .init (by intros; rfl) dialed) 0 _ rfl⟩

/-! ## Dials that do not overlap stay within the limit -/

namespace Backend

/-- What a bounded backend keeps: its player set never outnumbers its count, and its count
stays within its limit. -/
def WithinMax (b : Backend) : Prop :=
  0 < b.maxConnections → b.maxConnections < 2 ^ 31 →
    b.players.card ≤ b.currentConns ∧ b.currentConns ≤ b.maxConnections

theorem WithinMax.addPlayer {b : Backend} (within : b.WithinMax) (available : b.isAvailable = true)
    (name : String) : (b.addPlayer name).WithinMax := by
  intro positive below
  simp only [addPlayer_maxConnections] at positive below ⊢
  obtain ⟨card, atMost⟩ := within positive below
  have room := (isAvailable_iff.mp available).2.2 positive
  rw [toInt32_of_range (by omega) below] at room
  have inserted := Finset.card_insert_le name b.players
  simp only [addPlayer_players, addPlayer_currentConns]
  rw [toInt32_add_one (by omega) (by omega)]
  omega

theorem WithinMax.removePlayer {b : Backend} (within : b.WithinMax) (name : String) :
    (b.removePlayer name).WithinMax := by
  intro positive below
  simp only [removePlayer_maxConnections] at positive below ⊢
  obtain ⟨card, atMost⟩ := within positive below
  simp only [removePlayer_players, removePlayer_currentConns]
  split_ifs with present
  · have erased := Finset.card_erase_of_mem present
    have nonempty := Finset.card_pos.mpr ⟨name, present⟩
    rw [toInt32_of_range (by omega) (by omega)]
    omega
  · exact ⟨card, atMost⟩

end Backend

namespace Pool

def Bounded (pool : Pool) : Prop := ∀ b ∈ pool.backends, b.Reachable ∧ b.WithinMax

theorem bounded_set {backends : List Backend} {i : Nat} {b' : Backend}
    (bounded : ∀ b ∈ backends, b.Reachable ∧ b.WithinMax) (reachable : b'.Reachable)
    (within : b'.WithinMax) : ∀ b ∈ backends.set i b', b.Reachable ∧ b.WithinMax := by
  intro b mem
  rcases List.mem_or_eq_of_mem_set mem with mem | rfl
  · exact bounded b mem
  · exact ⟨reachable, within⟩

theorem select_available {pool : Pool} {env : SelectEnv} {history : Option HistoryManager}
    {i : Nat} (reachable : ∀ b ∈ pool.backends, b.Reachable)
    (chosen : (pool.select env history).1 = some i) :
    ∃ b, pool.backends[i]? = some b ∧ b.isAvailable = true := by
  simp only [select, Option.map_eq_some'] at chosen
  obtain ⟨⟨_, b⟩, picked, rfl⟩ := chosen
  obtain ⟨-, chosenMem⟩ :=
    @Strategy.select_selectsAvailable pool.strategy env history pool.backends fun _ => reachable
  exact ⟨b, mem_filterAvailable.mp (chosenMem _ picked)⟩

theorem Bounded.dial {pool next : Pool} {env : SelectEnv} {history : Option HistoryManager}
    {player : Option String} {outcome : DialOutcome} (bounded : pool.Bounded)
    (dialed : pool.dial env history player outcome = some next) : next.Bounded := by
  unfold Pool.dial at dialed
  split at dialed
  · rename_i selected chosen
    cases dialed
    have sameBackends : next.backends = pool.backends := by
      rw [← select_backends pool env history, chosen]
    exact fun b mem => bounded b (sameBackends ▸ mem)
  · rename_i i selected chosen
    obtain ⟨b, found, available⟩ := select_available (fun b mem => (bounded b mem).1)
      (congrArg Prod.fst chosen)
    have sameBackends : selected.backends = pool.backends := by
      rw [← select_backends pool env history, chosen]
    cases outcome with
    | failed latency =>
        obtain ⟨b₀, b', found₀, called, rfl⟩ := updateBackend_eq_some dialed
        rw [sameBackends, found] at found₀
        cases found₀
        have frame := Backend.recordLatency_frame called
        have reachable : b'.Reachable := .step (.step (bounded b (List.getElem?_mem found)).1
          (.recordFailure b)) (.recordLatency (by omega) called)
        refine bounded_set (sameBackends ▸ bounded) reachable ?_
        rw [frame]
        exact (bounded b (List.getElem?_mem found)).2
    | connected latency =>
        obtain ⟨updatedPool, updated, rfl⟩ := Option.map_eq_some'.mp dialed
        obtain ⟨b₀, b', found₀, called, rfl⟩ := updateBackend_eq_some updated
        rw [sameBackends, found] at found₀
        cases found₀
        obtain ⟨recorded, recordedEq, rfl⟩ := Option.map_eq_some'.mp called
        have frame := Backend.recordLatency_frame recordedEq
        have wasBounded := bounded b (List.getElem?_mem found)
        have reachable : recorded.Reachable := .step (.step wasBounded.1 (.recordSuccess b))
          (.recordLatency (by omega) recordedEq)
        have sameAvailable : recorded.isAvailable = true := by rw [frame]; exact available
        have within : recorded.WithinMax := by rw [frame]; exact wasBounded.2
        exact bounded_set (sameBackends ▸ bounded) (.step reachable (.addPlayer _ _))
          (within.addPlayer sameAvailable _)

theorem Bounded.close {pool next : Pool} {c : Nat} (bounded : pool.Bounded)
    (closed : pool.close c = some next) : next.Bounded := by
  unfold Pool.close at closed
  split at closed
  · contradiction
  · split at closed
    · cases closed
      exact bounded
    · obtain ⟨updatedPool, updated, rfl⟩ := Option.map_eq_some'.mp closed
      obtain ⟨b, b', found, ⟨⟩, rfl⟩ := updateBackend_eq_some updated
      have wasBounded := bounded b (List.getElem?_mem found)
      exact bounded_set bounded (.step wasBounded.1 (.removePlayer _ _))
        (wasBounded.2.removePlayer _)

theorem Bounded.run {pool : Pool} (bounded : pool.Bounded) :
    ∀ {events : List PoolEvent} {next : Pool}, pool.run events = some next → next.Bounded := by
  intro events
  induction events generalizing pool with
  | nil =>
      rintro next ⟨⟩
      exact bounded
  | cons event events ih =>
      intro next ran
      simp only [Pool.run, List.foldlM_cons, Option.bind_eq_bind, Option.bind_eq_some] at ran
      obtain ⟨stepped, stepEq, rest⟩ := ran
      cases event with
      | dial env history player outcome => exact ih (bounded.dial stepEq) rest
      | close c => exact ih (bounded.close stepEq) rest

end Pool

end RmsGate.LoadBalancer
