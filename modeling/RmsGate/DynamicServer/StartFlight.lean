import Mathlib.Logic.Function.Basic

/-!
# Start flights of `EnsureServerRunning`

A call of `EnsureServerRunning` for a server takes the manager's mutex and looks the server up
in `startingServers`.  If a `startingServer` is registered there, the call waits for its `done`
channel and returns the result stored in it.  Otherwise the call registers a new one and owns
it: it reads `ServerUUIDMap`, sends `StartInstance`, polls until the instance is ready, stores
the result, and its deferred function closes `done` and only then deletes the entry.  A call
arriving between the close and the delete finds the finished flight and returns its result at
once.  Calls run concurrently, each at its own pace; every step below is one stretch of a call
between two of its synchronisation points (the mutex, the channel, a request).
-/

namespace RmsGate.DynamicServer

/-- A `startingServer`: whether its `done` channel is closed, and the result its owner stored,
with the server it starts. -/
structure StartingServer where
  server : String
  done : Bool
  result : Bool

/-- How far the owner of a flight has got. -/
inductive OwnerStage where
  | registered
  | starting
  | polling
  /-- The owner stored its result and returned; the deferred `close(done)` is next. -/
  | stored (result : Bool)
  | closed (result : Bool)
  deriving DecidableEq

namespace OwnerStage

def isClosed : OwnerStage → Bool
  | .closed _ => true
  | _ => false

def result? : OwnerStage → Option Bool
  | .stored result => some result
  | .closed result => some result
  | _ => none

end OwnerStage

/-- Where a call of `EnsureServerRunning` stands. -/
inductive EnsurePhase where
  | calling
  /-- Found the flight at this position registered; waits for its `done`. -/
  | waiting (flight : Nat)
  | owner (flight : Nat) (stage : OwnerStage)
  | returned (flight : Nat) (result : Bool)
  deriving DecidableEq

structure StartState where
  /-- Each call so far, by the order of arrival: its server and where it stands. -/
  calls : Nat → Option (String × EnsurePhase)
  nextCall : Nat
  /-- Every `startingServer` made so far, by the order it was made in. -/
  flights : Nat → Option StartingServer
  nextFlight : Nat
  startingServers : String → Option Nat

inductive StartEvent where
  | call (server : String)
  | lock (call : Nat)
  /-- The owner reads `ServerUUIDMap` and, for a configured server, sends `StartInstance`. -/
  | readUUID (call : Nat)
  /-- `StartInstance` answers: the instance started, or an error. -/
  | startAnswered (call : Nat) (started : Bool)
  /-- `waitForServerReady` returns. -/
  | ready (call : Nat) (ready : Bool)
  | closeDone (call : Nat)
  | delete (call : Nat)
  | wake (call : Nat)

namespace StartState

def init : StartState := ⟨fun _ => none, 0, fun _ => none, 0, fun _ => none⟩

def setPhase (s : StartState) (k : Nat) (server : String) (phase : EnsurePhase) :
    StartState :=
  { s with calls := Function.update s.calls k (some (server, phase)) }

def storeResult (s : StartState) (k : Nat) (server : String) (f : Nat) (result : Bool) :
    StartState :=
  { s.setPhase k server (.owner f (.stored result)) with
    flights := Function.update s.flights f
      ((s.flights f).map fun fl => { fl with result := result }) }

/-- The mutex section at the top of `EnsureServerRunning`. -/
def lock (s : StartState) (k : Nat) (server : String) : StartState :=
  match s.startingServers server with
  | some f => s.setPhase k server (.waiting f)
  | none =>
      { s.setPhase k server (.owner s.nextFlight .registered) with
        flights := Function.update s.flights s.nextFlight (some ⟨server, false, false⟩)
        nextFlight := s.nextFlight + 1
        startingServers := Function.update s.startingServers server (some s.nextFlight) }

def closeDone (s : StartState) (k : Nat) (server : String) (f : Nat) (result : Bool) :
    StartState :=
  { s.setPhase k server (.owner f (.closed result)) with
    flights := Function.update s.flights f ((s.flights f).map fun fl => { fl with done := true }) }

def delete (s : StartState) (k : Nat) (server : String) (f : Nat) (result : Bool) :
    StartState :=
  { s.setPhase k server (.returned f result) with
    startingServers := Function.update s.startingServers server none }

def step (uuidConfigured : String → Bool) (s : StartState) : StartEvent → Option StartState
  | .call server =>
      some { s with
        calls := Function.update s.calls s.nextCall (some (server, .calling))
        nextCall := s.nextCall + 1 }
  | .lock k =>
      match s.calls k with
      | some (server, .calling) => some (s.lock k server)
      | _ => none
  | .readUUID k =>
      match s.calls k with
      | some (server, .owner f .registered) =>
          if uuidConfigured server then some (s.setPhase k server (.owner f .starting))
          else some (s.storeResult k server f false)
      | _ => none
  | .startAnswered k started =>
      match s.calls k with
      | some (server, .owner f .starting) =>
          if started then some (s.setPhase k server (.owner f .polling))
          else some (s.storeResult k server f false)
      | _ => none
  | .ready k ready =>
      match s.calls k with
      | some (server, .owner f .polling) => some (s.storeResult k server f ready)
      | _ => none
  | .closeDone k =>
      match s.calls k with
      | some (server, .owner f (.stored result)) => some (s.closeDone k server f result)
      | _ => none
  | .delete k =>
      match s.calls k with
      | some (server, .owner f (.closed result)) => some (s.delete k server f result)
      | _ => none
  | .wake k =>
      match s.calls k with
      | some (server, .waiting f) =>
          match s.flights f with
          | some fl => if fl.done then some (s.setPhase k server (.returned f fl.result)) else none
          | none => none
      | _ => none

def run (uuidConfigured : String → Bool) (s : StartState) (events : List StartEvent) :
    Option StartState :=
  events.foldlM (step uuidConfigured) s

end StartState

/-! ## What every reachable state keeps -/

/-- The invariant of the manager's start flights. -/
structure StartInv (s : StartState) : Prop where
  callsFresh : ∀ k, s.nextCall ≤ k → s.calls k = none
  flightsFresh : ∀ f, s.nextFlight ≤ f → s.flights f = none
  registered : ∀ server f, s.startingServers server = some f →
    ∃ k stage, s.calls k = some (server, .owner f stage)
  /-- An owner in progress is the registered one; its channel is closed only in its last
  stage, and its flight holds the result it stored. -/
  owner : ∀ k server f stage, s.calls k = some (server, .owner f stage) →
    s.startingServers server = some f ∧ ∃ fl, s.flights f = some fl ∧ fl.server = server ∧
      fl.done = stage.isClosed ∧ ∀ result, stage.result? = some result → fl.result = result
  ownerUnique : ∀ k k' server server' f stage stage',
    s.calls k = some (server, .owner f stage) → s.calls k' = some (server', .owner f stage') →
      k = k'
  waiting : ∀ k server f, s.calls k = some (server, .waiting f) →
    ∃ fl, s.flights f = some fl ∧ fl.server = server
  returned : ∀ k server f result, s.calls k = some (server, .returned f result) →
    ∃ fl, s.flights f = some fl ∧ fl.server = server ∧ fl.done = true ∧ fl.result = result

theorem startInv_init : StartInv StartState.init :=
  ⟨fun _ _ => rfl, fun _ _ => rfl, fun _ _ found => (nomatch found),
    fun _ _ _ _ found => (nomatch found), fun _ _ _ _ _ _ _ found => (nomatch found),
    fun _ _ _ found => (nomatch found), fun _ _ _ _ found => (nomatch found)⟩

theorem update_calls_eq_some {calls : Nat → Option (String × EnsurePhase)} {n k : Nat}
    {entry found : String × EnsurePhase} (lookup : Function.update calls n (some entry) k = some found) :
    (k = n ∧ entry = found) ∨ (k ≠ n ∧ calls k = some found) := by
  by_cases same : k = n
  · subst same
    simp only [Function.update_same, Option.some.injEq] at lookup
    exact .inl ⟨rfl, lookup⟩
  · rw [Function.update_noteq same] at lookup
    exact .inr ⟨same, lookup⟩

namespace StartInv

variable {s : StartState} (inv : StartInv s)
include inv

theorem call_lt {k : Nat} {entry : String × EnsurePhase} (found : s.calls k = some entry) :
    k < s.nextCall := by
  by_contra beyond
  simp [inv.callsFresh k (by omega)] at found

theorem flight_lt {f : Nat} {fl : StartingServer} (found : s.flights f = some fl) :
    f < s.nextFlight := by
  by_contra beyond
  simp [inv.flightsFresh f (by omega)] at found

/-- An owner's own step: its call moves to another stage of the same flight, and only its
flight's channel and result are rewritten, as the new stage says. -/
theorem advance {k : Nat} {server : String} {f : Nat} {stage stage' : OwnerStage}
    {flights' : Nat → Option StartingServer}
    (current : s.calls k = some (server, .owner f stage)) (notDone : stage.isClosed = false)
    (fl' : StartingServer) (written : flights' f = some fl') (sameServer : fl'.server = server)
    (done' : fl'.done = stage'.isClosed)
    (result' : ∀ result, stage'.result? = some result → fl'.result = result)
    (others : ∀ g, g ≠ f → flights' g = s.flights g) :
    StartInv { s with
      calls := Function.update s.calls k (some (server, .owner f stage'))
      flights := flights' } := by
  obtain ⟨registeredHere, fl, flFound, flServer, flDone, -⟩ := inv.owner k server f stage current
  have othersOf : ∀ {k' server' g stage''}, k' ≠ k →
      s.calls k' = some (server', .owner g stage'') → g ≠ f := by
    intro k' server' g stage'' other found same
    exact other (inv.ownerUnique k' k server' server g stage'' stage found (same ▸ current))
  refine ⟨fun k' (beyond : s.nextCall ≤ k') => ?_, fun g (beyond : s.nextFlight ≤ g) => ?_,
    fun server' g found => ?_,
    fun k' server' g stage'' found => ?_, fun k₁ k₂ server₁ server₂ g stage₁ stage₂ found₁ found₂ => ?_,
    fun k' server' g found => ?_, fun k' server' g result found => ?_⟩ <;> dsimp only at *
  · have := inv.call_lt current
    simp only [Function.update_noteq (show k' ≠ k by omega), inv.callsFresh k' beyond]
  · have := inv.flight_lt flFound
    simp only [others g (by omega), inv.flightsFresh g beyond]
  · obtain ⟨k', stage'', owned⟩ := inv.registered server' g found
    by_cases same : k' = k
    · subst same
      rw [current] at owned
      cases owned
      exact ⟨k', stage', by simp⟩
    · exact ⟨k', stage'', by simp [Function.update_noteq same, owned]⟩
  · by_cases same : k' = k
    · subst same
      simp only [Function.update_same, Option.some.injEq, Prod.mk.injEq, EnsurePhase.owner.injEq]
        at found
      obtain ⟨rfl, rfl, rfl⟩ := found
      exact ⟨registeredHere, fl', written, sameServer, done', result'⟩
    · rw [Function.update_noteq same] at found
      obtain ⟨registered', fl'', found'', rest⟩ := inv.owner k' server' g stage'' found
      exact ⟨registered', fl'', by rw [others g (othersOf same found), found''], rest⟩
  · by_cases same₁ : k₁ = k <;> by_cases same₂ : k₂ = k
    · rw [same₁, same₂]
    · subst same₁
      simp only [Function.update_same, Option.some.injEq, Prod.mk.injEq,
        EnsurePhase.owner.injEq] at found₁
      rw [Function.update_noteq same₂] at found₂
      exact absurd found₁.2.1.symm (othersOf same₂ found₂)
    · subst same₂
      simp only [Function.update_same, Option.some.injEq, Prod.mk.injEq,
        EnsurePhase.owner.injEq] at found₂
      rw [Function.update_noteq same₁] at found₁
      exact absurd found₂.2.1.symm (othersOf same₁ found₁)
    · rw [Function.update_noteq same₁] at found₁
      rw [Function.update_noteq same₂] at found₂
      exact inv.ownerUnique k₁ k₂ server₁ server₂ g stage₁ stage₂ found₁ found₂
  · have other : k' ≠ k := by rintro rfl; simp at found
    rw [Function.update_noteq other] at found
    obtain ⟨fl'', found'', server''⟩ := inv.waiting k' server' g found
    by_cases same : g = f
    · subst same
      rw [flFound] at found''
      cases found''
      exact ⟨fl', written, sameServer.trans (flServer.symm.trans server'')⟩
    · exact ⟨fl'', by rw [others g same, found''], server''⟩
  · have other : k' ≠ k := by rintro rfl; simp at found
    rw [Function.update_noteq other] at found
    obtain ⟨fl'', found'', rest⟩ := inv.returned k' server' g result found
    by_cases same : g = f
    · subst same
      rw [flFound] at found''
      cases found''
      simp [flDone, notDone] at rest
    · exact ⟨fl'', by rw [others g same, found''], rest⟩

theorem call (server : String) :
    StartInv { s with
      calls := Function.update s.calls s.nextCall (some (server, .calling))
      nextCall := s.nextCall + 1 } := by
  refine ⟨fun k (beyond : s.nextCall + 1 ≤ k) => ?_, inv.flightsFresh, fun server' f found => ?_,
    fun k server' f stage found => ?_, fun k k' server₁ server₂ f stage stage' found found' => ?_,
    fun k server' f found => ?_, fun k server' f result found => ?_⟩ <;> dsimp only at *
  · rw [Function.update_noteq (by omega), inv.callsFresh k (by omega)]
  · obtain ⟨k, stage, owned⟩ := inv.registered server' f found
    exact ⟨k, stage, by rw [Function.update_noteq (Nat.ne_of_lt (inv.call_lt owned)), owned]⟩
  · rcases update_calls_eq_some found with ⟨-, ⟨⟩⟩ | ⟨-, found⟩
    exact inv.owner k server' f stage found
  · rcases update_calls_eq_some found with ⟨-, ⟨⟩⟩ | ⟨-, found⟩
    rcases update_calls_eq_some found' with ⟨-, ⟨⟩⟩ | ⟨-, found'⟩
    exact inv.ownerUnique k k' server₁ server₂ f stage stage' found found'
  · rcases update_calls_eq_some found with ⟨-, ⟨⟩⟩ | ⟨-, found⟩
    exact inv.waiting k server' f found
  · rcases update_calls_eq_some found with ⟨-, ⟨⟩⟩ | ⟨-, found⟩
    exact inv.returned k server' f result found

theorem setPhase {k : Nat} {server : String} {phase : EnsurePhase}
    {current : String × EnsurePhase} (found : s.calls k = some current)
    (notOwner : ∀ f stage, current.2 ≠ .owner f stage) (newNotOwner : ∀ f stage, phase ≠ .owner f stage)
    (waiting : ∀ f, phase = .waiting f → ∃ fl, s.flights f = some fl ∧ fl.server = server)
    (returned : ∀ f result, phase = .returned f result →
      ∃ fl, s.flights f = some fl ∧ fl.server = server ∧ fl.done = true ∧ fl.result = result) :
    StartInv (s.setPhase k server phase) := by
  have below := inv.call_lt found
  have notHere : ∀ {k' server' f stage}, s.calls k' = some (server', .owner f stage) → k' ≠ k := by
    rintro k' server' f stage owned rfl
    rw [found] at owned
    exact notOwner f stage (congrArg Prod.snd (Option.some.inj owned))
  refine ⟨fun k' (beyond : s.nextCall ≤ k') => ?_, inv.flightsFresh, fun server' f found' => ?_,
    fun k' server' f stage found' => ?_,
    fun k₁ k₂ server₁ server₂ f stage₁ stage₂ found₁ found₂ => ?_,
    fun k' server' f found' => ?_, fun k' server' f result found' => ?_⟩ <;>
    dsimp only [StartState.setPhase] at *
  · rw [Function.update_noteq (by omega), inv.callsFresh k' beyond]
  · obtain ⟨k', stage, owned⟩ := inv.registered server' f found'
    exact ⟨k', stage, by rw [Function.update_noteq (notHere owned), owned]⟩
  · rcases update_calls_eq_some found' with ⟨-, same⟩ | ⟨-, found'⟩
    · exact absurd (congrArg Prod.snd same) (newNotOwner f stage)
    · exact inv.owner k' server' f stage found'
  · rcases update_calls_eq_some found₁ with ⟨-, same⟩ | ⟨-, found₁⟩
    · exact absurd (congrArg Prod.snd same) (newNotOwner f stage₁)
    rcases update_calls_eq_some found₂ with ⟨-, same⟩ | ⟨-, found₂⟩
    · exact absurd (congrArg Prod.snd same) (newNotOwner f stage₂)
    exact inv.ownerUnique k₁ k₂ server₁ server₂ f stage₁ stage₂ found₁ found₂
  · rcases update_calls_eq_some found' with ⟨-, same⟩ | ⟨-, found'⟩
    · cases same
      exact waiting f rfl
    · exact inv.waiting k' server' f found'
  · rcases update_calls_eq_some found' with ⟨-, same⟩ | ⟨-, found'⟩
    · cases same
      exact returned f result rfl
    · exact inv.returned k' server' f result found'

theorem lockWaiting {k : Nat} {server : String} {f : Nat}
    (current : s.calls k = some (server, .calling)) (registered : s.startingServers server = some f) :
    StartInv (s.setPhase k server (.waiting f)) := by
  refine inv.setPhase current (fun _ _ => nofun) (fun _ _ => nofun) ?_ (fun _ _ => nofun)
  rintro f' ⟨⟩
  obtain ⟨k', stage, owned⟩ := inv.registered server f registered
  obtain ⟨-, fl, flFound, flServer, -⟩ := inv.owner k' server f stage owned
  exact ⟨fl, flFound, flServer⟩

theorem wake {k : Nat} {server : String} {f : Nat} {fl : StartingServer}
    (current : s.calls k = some (server, .waiting f)) (flFound : s.flights f = some fl)
    (done : fl.done = true) : StartInv (s.setPhase k server (.returned f fl.result)) := by
  refine inv.setPhase current (fun _ _ => nofun) (fun _ _ => nofun) (fun _ => nofun) ?_
  rintro f' result ⟨⟩
  obtain ⟨fl', flFound', flServer⟩ := inv.waiting k server f current
  rw [flFound] at flFound'
  cases flFound'
  exact ⟨fl, flFound, flServer, done, rfl⟩

theorem lockOwner {k : Nat} {server : String} (current : s.calls k = some (server, .calling))
    (unregistered : s.startingServers server = none) :
    StartInv { s.setPhase k server (.owner s.nextFlight .registered) with
      flights := Function.update s.flights s.nextFlight (some ⟨server, false, false⟩)
      nextFlight := s.nextFlight + 1
      startingServers := Function.update s.startingServers server (some s.nextFlight) } := by
  have notHere : ∀ {k' server' f stage}, s.calls k' = some (server', .owner f stage) → k' ≠ k := by
    rintro k' server' f stage owned rfl
    rw [current] at owned
    cases owned
  have otherServer : ∀ {k' server' f stage}, s.calls k' = some (server', .owner f stage) →
      server' ≠ server := by
    rintro k' server' f stage owned rfl
    simp [(inv.owner k' server' f stage owned).1] at unregistered
  have oldFlight : ∀ {k' server' f stage}, s.calls k' = some (server', .owner f stage) →
      f ≠ s.nextFlight := fun owned => by
    obtain ⟨-, fl, flFound, -⟩ := inv.owner _ _ _ _ owned
    exact Nat.ne_of_lt (inv.flight_lt flFound)
  have existing : ∀ {f fl}, s.flights f = some fl → f ≠ s.nextFlight :=
    fun flFound => Nat.ne_of_lt (inv.flight_lt flFound)
  refine ⟨fun k' (beyond : s.nextCall ≤ k') => ?_, fun g (beyond : s.nextFlight + 1 ≤ g) => ?_,
    fun server' f found' => ?_, fun k' server' f stage found' => ?_,
    fun k₁ k₂ server₁ server₂ f stage₁ stage₂ found₁ found₂ => ?_,
    fun k' server' f found' => ?_, fun k' server' f result found' => ?_⟩ <;>
    dsimp only [StartState.setPhase] at *
  · rw [Function.update_noteq (by have := inv.call_lt current; omega), inv.callsFresh k' beyond]
  · rw [Function.update_noteq (by omega), inv.flightsFresh g (by omega)]
  · by_cases same : server' = server
    · subst same
      simp only [Function.update_same, Option.some.injEq] at found'
      subst found'
      exact ⟨k, .registered, by simp⟩
    · rw [Function.update_noteq same] at found'
      obtain ⟨k', stage, owned⟩ := inv.registered server' f found'
      exact ⟨k', stage, by rw [Function.update_noteq (notHere owned), owned]⟩
  · rcases update_calls_eq_some found' with ⟨-, same⟩ | ⟨-, found'⟩
    · cases same
      exact ⟨by simp, ⟨server, false, false⟩, by simp, rfl, rfl, fun _ => nofun⟩
    · obtain ⟨registered, fl, flFound, rest⟩ := inv.owner k' server' f stage found'
      exact ⟨by rw [Function.update_noteq (otherServer found'), registered], fl,
        by rw [Function.update_noteq (existing flFound), flFound], rest⟩
  · rcases update_calls_eq_some found₁ with ⟨same₁, equal₁⟩ | ⟨-, found₁⟩ <;>
      rcases update_calls_eq_some found₂ with ⟨same₂, equal₂⟩ | ⟨-, found₂⟩
    · rw [same₁, same₂]
    · cases equal₁
      exact absurd rfl (oldFlight found₂)
    · cases equal₂
      exact absurd rfl (oldFlight found₁)
    · exact inv.ownerUnique k₁ k₂ server₁ server₂ f stage₁ stage₂ found₁ found₂
  · rcases update_calls_eq_some found' with ⟨-, ⟨⟩⟩ | ⟨-, found'⟩
    obtain ⟨fl, flFound, flServer⟩ := inv.waiting k' server' f found'
    exact ⟨fl, by rw [Function.update_noteq (existing flFound), flFound], flServer⟩
  · rcases update_calls_eq_some found' with ⟨-, ⟨⟩⟩ | ⟨-, found'⟩
    obtain ⟨fl, flFound, rest⟩ := inv.returned k' server' f result found'
    exact ⟨fl, by rw [Function.update_noteq (existing flFound), flFound], rest⟩

theorem delete {k : Nat} {server : String} {f : Nat} {result : Bool}
    (current : s.calls k = some (server, .owner f (.closed result))) :
    StartInv (s.delete k server f result) := by
  obtain ⟨registeredHere, fl, flFound, flServer, flDone, flResult⟩ :=
    inv.owner k server f _ current
  have otherServer : ∀ {k' server' f' stage}, k' ≠ k →
      s.calls k' = some (server', .owner f' stage) → server' ≠ server := by
    intro k' server' f' stage other owned same
    rw [same] at owned
    have := (inv.owner k' server f' stage owned).1
    rw [registeredHere] at this
    cases this
    exact other (inv.ownerUnique k' k server server f stage _ owned current)
  refine ⟨fun k' (beyond : s.nextCall ≤ k') => ?_, inv.flightsFresh,
    fun server' f' found' => ?_, fun k' server' f' stage found' => ?_,
    fun k₁ k₂ server₁ server₂ f' stage₁ stage₂ found₁ found₂ => ?_,
    fun k' server' f' found' => ?_, fun k' server' f' result' found' => ?_⟩ <;>
    dsimp only [StartState.delete, StartState.setPhase] at *
  · rw [Function.update_noteq (by have := inv.call_lt current; omega), inv.callsFresh k' beyond]
  · by_cases same : server' = server
    · subst same
      simp at found'
    · rw [Function.update_noteq same] at found'
      obtain ⟨k', stage, owned⟩ := inv.registered server' f' found'
      have other : k' ≠ k := by
        rintro rfl
        rw [current] at owned
        cases owned
        exact same rfl
      exact ⟨k', stage, by rw [Function.update_noteq other, owned]⟩
  · rcases update_calls_eq_some found' with ⟨-, ⟨⟩⟩ | ⟨other, found'⟩
    obtain ⟨registered, rest⟩ := inv.owner k' server' f' stage found'
    exact ⟨by rw [Function.update_noteq (otherServer other found'), registered], rest⟩
  · rcases update_calls_eq_some found₁ with ⟨-, ⟨⟩⟩ | ⟨-, found₁⟩
    rcases update_calls_eq_some found₂ with ⟨-, ⟨⟩⟩ | ⟨-, found₂⟩
    exact inv.ownerUnique k₁ k₂ server₁ server₂ f' stage₁ stage₂ found₁ found₂
  · rcases update_calls_eq_some found' with ⟨-, ⟨⟩⟩ | ⟨-, found'⟩
    exact inv.waiting k' server' f' found'
  · rcases update_calls_eq_some found' with ⟨-, same⟩ | ⟨-, found'⟩
    · cases same
      exact ⟨fl, flFound, flServer, flDone, flResult _ rfl⟩
    · exact inv.returned k' server' f' result' found'

theorem setStage {k : Nat} {server : String} {f : Nat} {stage : OwnerStage}
    (current : s.calls k = some (server, .owner f stage)) (notDone : stage.isClosed = false)
    {stage' : OwnerStage} (notDone' : stage'.isClosed = false) (nothing : stage'.result? = none) :
    StartInv (s.setPhase k server (.owner f stage')) := by
  obtain ⟨-, fl, flFound, flServer, flDone, -⟩ := inv.owner k server f stage current
  exact inv.advance current notDone fl flFound flServer (by rw [flDone, notDone, notDone'])
    (by simp [nothing]) fun _ _ => rfl

theorem storeResult {k : Nat} {server : String} {f : Nat} {stage : OwnerStage}
    (current : s.calls k = some (server, .owner f stage)) (notDone : stage.isClosed = false)
    (result : Bool) : StartInv (s.storeResult k server f result) := by
  obtain ⟨-, fl, flFound, flServer, flDone, -⟩ := inv.owner k server f stage current
  exact inv.advance current notDone { fl with result := result }
    (by simp [flFound]) flServer (flDone.trans notDone)
    (by simp [OwnerStage.result?]) fun g other => by simp [Function.update_noteq other]

theorem closeDone {k : Nat} {server : String} {f : Nat} {result : Bool}
    (current : s.calls k = some (server, .owner f (.stored result))) :
    StartInv (s.closeDone k server f result) := by
  obtain ⟨-, fl, flFound, flServer, -, flResult⟩ := inv.owner k server f _ current
  exact inv.advance current rfl { fl with done := true } (by simp [flFound]) flServer
    rfl (fun _ stored => by simpa [OwnerStage.result?, flResult] using stored)
    fun g other => by simp [Function.update_noteq other]

theorem step (uuidConfigured : String → Bool) {next : StartState} {event : StartEvent}
    (stepped : s.step uuidConfigured event = some next) : StartInv next := by
  cases event with
  | call server =>
      cases stepped
      exact inv.call server
  | lock k =>
      simp only [StartState.step] at stepped
      split at stepped
      · rename_i server found
        cases stepped
        unfold StartState.lock
        split
        · exact inv.lockWaiting found ‹_›
        · exact inv.lockOwner found ‹_›
      · contradiction
  | readUUID k =>
      simp only [StartState.step] at stepped
      split at stepped
      · rename_i server f found
        split at stepped <;> cases stepped
        · exact inv.setStage found rfl rfl rfl
        · exact inv.storeResult found rfl false
      · contradiction
  | startAnswered k started =>
      simp only [StartState.step] at stepped
      split at stepped
      · rename_i server f found
        split at stepped <;> cases stepped
        · exact inv.setStage found rfl rfl rfl
        · exact inv.storeResult found rfl false
      · contradiction
  | ready k ready =>
      simp only [StartState.step] at stepped
      split at stepped
      · rename_i server f found
        cases stepped
        exact inv.storeResult found rfl ready
      · contradiction
  | closeDone k =>
      simp only [StartState.step] at stepped
      split at stepped
      · rename_i server f result found
        cases stepped
        exact inv.closeDone found
      · contradiction
  | delete k =>
      simp only [StartState.step] at stepped
      split at stepped
      · rename_i server f result found
        cases stepped
        exact inv.delete found
      · contradiction
  | wake k =>
      simp only [StartState.step] at stepped
      split at stepped
      · rename_i server f found
        split at stepped
        · rename_i fl flFound
          split at stepped
          · cases stepped
            exact inv.wake found flFound ‹_›
          · contradiction
        · contradiction
      · contradiction

end StartInv

theorem startInv_run (uuidConfigured : String → Bool) :
    ∀ {s : StartState} (events : List StartEvent) {next : StartState}, StartInv s →
      s.run uuidConfigured events = some next → StartInv next
  | _, [], _, inv, ran => by
      cases ran
      exact inv
  | s, event :: events, next, inv, ran => by
      simp only [StartState.run, List.foldlM_cons, Option.bind_eq_bind, Option.bind_eq_some] at ran
      obtain ⟨stepped, stepEq, rest⟩ := ran
      exact startInv_run uuidConfigured events (inv.step uuidConfigured stepEq) rest

/-! ## One flight per server -/

/-- What the manager guarantees at every moment of every interleaving. -/
structure SingleFlight (s : StartState) : Prop where
  /-- At most one call per server runs a start flight, from registering it to deleting it, so
  `StartInstance` is never in progress twice for one server. -/
  oneOwner : ∀ k k' server f f' stage stage', s.calls k = some (server, .owner f stage) →
    s.calls k' = some (server, .owner f' stage') → k = k'
  ownerStored : ∀ k server f stage result, s.calls k = some (server, .owner f stage) →
    stage.result? = some result → ∃ fl, s.flights f = some fl ∧ fl.result = result
  /-- A call that returned did so after the `done` of the flight it started or joined was
  closed, with the result stored in that flight. -/
  sharedResult : ∀ k server f result, s.calls k = some (server, .returned f result) →
    ∃ fl, s.flights f = some fl ∧ fl.server = server ∧ fl.done = true ∧ fl.result = result

theorem ensureServerRunning_single_flight (uuidConfigured : String → Bool)
    (events : List StartEvent) {s : StartState}
    (run : StartState.init.run uuidConfigured events = some s) : SingleFlight s := by
  have inv := startInv_run uuidConfigured events startInv_init run
  refine ⟨fun k k' server f f' stage stage' owned owned' => ?_, fun k server f stage result owned
    stored => ?_, inv.returned⟩
  · have same := (inv.owner k server f stage owned).1.symm.trans (inv.owner k' server f' stage' owned').1
    cases same
    exact inv.ownerUnique k k' server server f stage stage' owned owned'
  · obtain ⟨-, fl, flFound, -, -, flResult⟩ := inv.owner k server f stage owned
    exact ⟨fl, flFound, flResult result stored⟩

/-- Two calls for one server: the second finds the first one's flight and returns its
result. -/
theorem ensureServerRunning_single_flight_joined :
    let events : List StartEvent :=
      [.call "survival", .call "survival", .lock 0, .lock 1, .readUUID 0, .startAnswered 0 true,
        .ready 0 true, .closeDone 0, .wake 1, .delete 0]
    ∃ s, StartState.init.run (fun _ => true) events = some s ∧ SingleFlight s ∧
      s.calls 0 = some ("survival", .returned 0 true) ∧
      s.calls 1 = some ("survival", .returned 0 true) := by
  intro events
  have ran : StartState.init.run (fun _ => true) events = some _ := rfl
  exact ⟨_, ran, ensureServerRunning_single_flight _ events ran, rfl, rfl⟩

end RmsGate.DynamicServer
