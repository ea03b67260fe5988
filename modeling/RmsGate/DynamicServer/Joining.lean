import RmsGate.DynamicServer.StartFlight
import RmsGate.DynamicServer.PreConnect

/-!
# Every caller of `EnsureServerRunning`

`StartFlight` leaves what MCSManager answers an owner free.  Here each flight runs against an
`Environment` of its own, the one its owner's `StartInstance` and polls see, and the owner's
`startAnswered` and `ready` steps take their outcomes from it; a panic of `waitForServerReady`
ends the run.  Every call, the owner or one that joined the flight, then returns what
`ensureServerRunning` returns for the flight's environment, so what `Readiness` and
`PreConnect` prove of the starting caller holds of every caller.
-/

namespace RmsGate.DynamicServer

def uuidConfigured (cfg : DynamicServerConfig) (server : String) : Bool :=
  (cfg.serverUuidMap.lookup server).isSome

namespace StartState

/-- The event with the outcome the owner's flight environment gives it; `none` when the call
is not an owner, or for a panic of `waitForServerReady`. -/
def answer (cfg : DynamicServerConfig) (envOf : Nat → Environment) (s : StartState) :
    StartEvent → Option StartEvent
  | .startAnswered k _ =>
      match s.calls k with
      | some (_, .owner f _) =>
          some (.startAnswered k (decide ((envOf f).startInstance = some true)))
      | _ => none
  | .ready k _ =>
      match s.calls k with
      | some (_, .owner f _) => (waitForServerReady cfg (envOf f)).map (.ready k)
      | _ => none
  | event => some event

def stepIn (cfg : DynamicServerConfig) (envOf : Nat → Environment) (s : StartState)
    (event : StartEvent) : Option StartState :=
  (s.answer cfg envOf event).bind (s.step (uuidConfigured cfg))

def runIn (cfg : DynamicServerConfig) (envOf : Nat → Environment) (s : StartState)
    (events : List StartEvent) : Option StartState :=
  events.foldlM (stepIn cfg envOf) s

/-- The outcome an owner's event carries is the one its flight's environment gives. -/
def Agrees (cfg : DynamicServerConfig) (envOf : Nat → Environment) (s : StartState) :
    StartEvent → Prop
  | .startAnswered k started => ∀ server f stage, s.calls k = some (server, .owner f stage) →
      started = decide ((envOf f).startInstance = some true)
  | .ready k ready => ∀ server f stage, s.calls k = some (server, .owner f stage) →
      waitForServerReady cfg (envOf f) = some ready
  | _ => True

theorem answer_agrees {cfg : DynamicServerConfig} {envOf : Nat → Environment} {s : StartState}
    {event answered : StartEvent} (found : s.answer cfg envOf event = some answered) :
    s.Agrees cfg envOf answered := by
  cases event <;> simp only [answer, Option.some.injEq] at found
  case startAnswered k _ =>
    split at found
    · rename_i server f stage owned
      cases found
      intro server' f' stage' owned'
      cases owned.symm.trans owned'
      rfl
    · contradiction
  case ready k _ =>
    split at found
    · rename_i server f stage owned
      obtain ⟨ready, waited, rfl⟩ := Option.map_eq_some'.mp found
      intro server' f' stage' owned'
      cases owned.symm.trans owned'
      exact waited
    · contradiction
  all_goals
    subst found
    trivial

end StartState

/-- What is left of an owner's `EnsureServerRunning` at this stage gives what
`ensureServerRunning` gives for its flight's environment. -/
def OwnerStage.Remains (cfg : DynamicServerConfig) (env : Environment) (server : String) :
    OwnerStage → Prop
  | .registered => True
  | .starting => ensureServerRunning cfg env server =
      if env.startInstance = some true then waitForServerReady cfg env else some false
  | .polling => ensureServerRunning cfg env server = waitForServerReady cfg env
  | .stored result | .closed result => ensureServerRunning cfg env server = some result

/-- The start flights agree with `ensureServerRunning` for their environments. -/
structure Answered (cfg : DynamicServerConfig) (envOf : Nat → Environment) (s : StartState) :
    Prop where
  owner : ∀ k server f stage, s.calls k = some (server, .owner f stage) →
    stage.Remains cfg (envOf f) server
  done : ∀ f fl, s.flights f = some fl → fl.done = true →
    ensureServerRunning cfg (envOf f) fl.server = some fl.result

theorem answered_init (cfg : DynamicServerConfig) (envOf : Nat → Environment) :
    Answered cfg envOf StartState.init :=
  ⟨fun _ _ _ _ found => (nomatch found), fun _ _ found => (nomatch found)⟩

namespace Answered

variable {cfg : DynamicServerConfig} {envOf : Nat → Environment} {s : StartState}
  (answered : Answered cfg envOf s)
include answered

/-- A step that rewrites one call, with an owner's new stage agreeing, and keeps the flights
or closes one agreeing with `ensureServerRunning`. -/
theorem update {next : StartState} {k : Nat} {server : String} {phase : EnsurePhase}
    (calls : next.calls = Function.update s.calls k (some (server, phase)))
    (fresh : ∀ f stage, phase = .owner f stage → stage.Remains cfg (envOf f) server)
    (flights : ∀ f fl, next.flights f = some fl → fl.done = true →
      s.flights f = some fl ∨ ensureServerRunning cfg (envOf f) fl.server = some fl.result) :
    Answered cfg envOf next := by
  refine ⟨fun k' server' f stage found => ?_, fun f fl found done =>
    (flights f fl found done).elim (fun old => answered.done f fl old done) id⟩
  rw [calls] at found
  rcases update_calls_eq_some found with ⟨-, same⟩ | ⟨-, found⟩
  · cases same
    exact fresh f stage rfl
  · exact answered.owner k' server' f stage found

theorem setPhase {k : Nat} {server : String} {phase : EnsurePhase}
    (fresh : ∀ f stage, phase = .owner f stage → stage.Remains cfg (envOf f) server) :
    Answered cfg envOf (s.setPhase k server phase) :=
  answered.update rfl fresh fun _ _ found _ => .inl found

theorem storeResult (inv : StartInv s) {k : Nat} {server : String} {f : Nat}
    {stage : OwnerStage} (current : s.calls k = some (server, .owner f stage))
    (notDone : stage.isClosed = false) {result : Bool}
    (remains : ensureServerRunning cfg (envOf f) server = some result) :
    Answered cfg envOf (s.storeResult k server f result) := by
  obtain ⟨-, fl, flFound, -, flDone, -⟩ := inv.owner k server f stage current
  refine answered.update rfl (fun _ _ same => by cases same; exact remains) fun g fl' found done => ?_
  by_cases same : g = f
  · subst same
    simp only [StartState.storeResult, Function.update_same, flFound, Option.map_some',
      Option.some.injEq] at found
    subst found
    simp [flDone, notDone] at done
  · exact .inl (by simpa [StartState.storeResult, Function.update_noteq same] using found)

theorem closeDone (inv : StartInv s) {k : Nat} {server : String} {f : Nat} {result : Bool}
    (current : s.calls k = some (server, .owner f (.stored result))) :
    Answered cfg envOf (s.closeDone k server f result) := by
  obtain ⟨-, fl, flFound, flServer, -, flResult⟩ := inv.owner k server f _ current
  have remains : ensureServerRunning cfg (envOf f) server = some result :=
    answered.owner k server f _ current
  refine answered.update rfl (fun _ _ same => by cases same; exact remains) fun g fl' found _ => ?_
  by_cases same : g = f
  · subst same
    simp only [StartState.closeDone, Function.update_same, flFound, Option.map_some',
      Option.some.injEq] at found
    subst found
    have stored : fl.result = result := flResult result rfl
    exact .inr (by dsimp only; rw [flServer, stored]; exact remains)
  · exact .inl (by simpa [StartState.closeDone, Function.update_noteq same] using found)

/-- Each step whose outcome agrees with its flight's environment keeps the flights agreeing
with `ensureServerRunning`. -/
theorem step (inv : StartInv s) {next : StartState} {event : StartEvent}
    (agrees : s.Agrees cfg envOf event)
    (stepped : s.step (uuidConfigured cfg) event = some next) : Answered cfg envOf next := by
  cases event with
  | call server =>
      cases stepped
      exact answered.update rfl (fun _ _ => nofun) fun _ _ found _ => .inl found
  | lock k =>
      simp only [StartState.step] at stepped
      split at stepped
      · rename_i server found
        cases stepped
        unfold StartState.lock
        split
        · exact answered.setPhase fun _ _ => nofun
        · refine answered.update rfl (fun _ _ same => by cases same; trivial) fun g fl found _ => ?_
          by_cases same : g = s.nextFlight
          · subst same
            simp only [Function.update_same, Option.some.injEq] at found
            subst found
            contradiction
          · exact .inl (by simpa [Function.update_noteq same] using found)
      · contradiction
  | readUUID k =>
      simp only [StartState.step] at stepped
      split at stepped
      · rename_i server f found
        split at stepped <;> cases stepped
        · rename_i configured
          obtain ⟨instanceUUID, mapped⟩ := Option.isSome_iff_exists.mp configured
          exact answered.setPhase fun _ _ same => by
            cases same
            simp only [OwnerStage.Remains, ensureServerRunning, mapped]
        · rename_i unconfigured
          have unmapped : cfg.serverUuidMap.lookup server = none :=
            Option.not_isSome_iff_eq_none.mp unconfigured
          exact answered.storeResult inv found rfl (by simp [ensureServerRunning, unmapped])
      · contradiction
  | startAnswered k started =>
      simp only [StartState.step] at stepped
      split at stepped
      · rename_i server f found
        have remains : ensureServerRunning cfg (envOf f) server = _ :=
          answered.owner k server f _ found
        rw [agrees server f _ found] at stepped
        split at stepped <;> cases stepped
        · rename_i sent
          exact answered.setPhase fun _ _ same => by
            cases same
            rwa [if_pos (of_decide_eq_true sent)] at remains
        · rename_i failed
          exact answered.storeResult inv found rfl
            (by rwa [if_neg (of_decide_eq_false (Bool.eq_false_iff.mpr failed))] at remains)
      · contradiction
  | ready k ready =>
      simp only [StartState.step] at stepped
      split at stepped
      · rename_i server f found
        cases stepped
        exact answered.storeResult inv found rfl
          ((answered.owner k server f _ found).trans (agrees server f _ found))
      · contradiction
  | closeDone k =>
      simp only [StartState.step] at stepped
      split at stepped
      · rename_i server f result found
        cases stepped
        exact answered.closeDone inv found
      · contradiction
  | delete k =>
      simp only [StartState.step] at stepped
      split at stepped
      · rename_i server f result found
        cases stepped
        exact answered.update rfl (fun _ _ => nofun) fun _ _ found _ => .inl found
      · contradiction
  | wake k =>
      simp only [StartState.step] at stepped
      split at stepped
      · rename_i server f found
        split at stepped
        · split at stepped
          · cases stepped
            exact answered.setPhase fun _ _ => nofun
          · contradiction
        · contradiction
      · contradiction

end Answered

theorem answered_runIn (cfg : DynamicServerConfig) (envOf : Nat → Environment) :
    ∀ {s : StartState} (events : List StartEvent) {next : StartState}, StartInv s →
      Answered cfg envOf s → s.runIn cfg envOf events = some next →
        StartInv next ∧ Answered cfg envOf next
  | _, [], _, inv, answered, ran => by
      cases ran
      exact ⟨inv, answered⟩
  | s, event :: events, next, inv, answered, ran => by
      simp only [StartState.runIn, List.foldlM_cons, Option.bind_eq_bind, Option.bind_eq_some]
        at ran
      obtain ⟨stepped, stepEq, rest⟩ := ran
      obtain ⟨event', found, stepEq⟩ := Option.bind_eq_some.mp stepEq
      exact answered_runIn cfg envOf events (inv.step _ stepEq)
        (answered.step inv (StartState.answer_agrees found) stepEq) rest

/-- **Every caller gets the starting caller's answer.**  In every interleaving of calls of
`EnsureServerRunning`, each flight's MCSManager, proxy and context answering as its environment
says, a call that returned `result` for a server, whether it ran the flight or joined it,
returned what `ensureServerRunning` returns for that flight's environment: true only on what
`StartedRunning` lists, and its player's connection is answered as `onServerPreConnect` answers
under that environment. -/
theorem ensureServerRunning_every_caller (cfg : DynamicServerConfig)
    (envOf : Nat → Environment) (events : List StartEvent) {s : StartState}
    (run : StartState.init.runIn cfg envOf events = some s) {k f : Nat} {server : String}
    {result : Bool} (returned : s.calls k = some (server, .returned f result)) :
    ensureServerRunning cfg (envOf f) server = some result ∧
      (result = true → StartedRunning cfg (envOf f) server) ∧
      ∀ instances, isAutoStartServer cfg server = true →
        getInstanceStatus instances ((cfg.serverUuidMap.lookup server).getD "") ≠ 3 →
        onServerPreConnect (some cfg) (some server) instances (envOf f) =
          some (startReply server result) := by
  obtain ⟨inv, answered⟩ :=
    answered_runIn cfg envOf events startInv_init (answered_init cfg envOf) run
  obtain ⟨fl, flFound, flServer, flDone, flResult⟩ := inv.returned k server f result returned
  have ensured : ensureServerRunning cfg (envOf f) server = some result := by
    rw [← flServer, ← flResult]
    exact answered.done f fl flFound flDone
  refine ⟨ensured, fun started => ensureServerRunning_reached (started ▸ ensured),
    fun instances autoStart notRunning => ?_⟩
  simp [onServerPreConnect, autoStart, notRunning, ensured]

/-- Two players join "creative": the second call joins the first one's flight, and both get
the start that succeeded at the fourth poll. -/
theorem ensureServerRunning_every_caller_joined :
    let cfg : DynamicServerConfig :=
      ⟨[("creative", "mcsm-instance-uuid")], ["creative"], 60, 2, 30, 300⟩
    let env : Environment :=
      ⟨some true, fun _ => false, fun i => if i < 3 then some 2 else some 3, true,
        fun _ => false, fun j => decide (1 ≤ j)⟩
    let events : List StartEvent :=
      [.call "creative", .call "creative", .lock 0, .lock 1, .readUUID 0,
        .startAnswered 0 false, .ready 0 false, .closeDone 0, .wake 1, .delete 0]
    ∃ s, StartState.init.runIn cfg (fun _ => env) events = some s ∧
      s.calls 1 = some ("creative", .returned 0 true) ∧
      (ensureServerRunning cfg env "creative" = some true ∧
        (true = true → StartedRunning cfg env "creative") ∧
        ∀ instances, isAutoStartServer cfg "creative" = true →
          getInstanceStatus instances ((cfg.serverUuidMap.lookup "creative").getD "") ≠ 3 →
          onServerPreConnect (some cfg) (some "creative") instances env =
            some (startReply "creative" true)) := by
  intro cfg env events
  have ran : StartState.init.runIn cfg (fun _ => env) events = some _ := rfl
  exact ⟨_, ran, rfl, @ensureServerRunning_every_caller cfg _ events _ ran 1 0 "creative" true rfl⟩

end RmsGate.DynamicServer
