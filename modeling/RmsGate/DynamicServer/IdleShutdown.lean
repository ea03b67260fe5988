import Mathlib.Logic.Function.Basic
import RmsGate.Go.Values

/-!
# Idle shutdown of an auto-start server

Every ten seconds `checkAllAutoStartServersIdle` looks at each auto-start server: it skips a
server in its protection period, cancels the pending shutdown of a server with players, and
calls `scheduleShutdown` for an empty one, which checks the auto-shutdown flag and that no
shutdown is pending, asks for the instance status and, for a running instance, installs a timer
whose callback sends `StopInstance` if the server is still empty.  One server is modelled, with
the clock in Unix milliseconds.  The idle check and each timer callback are goroutines whose
steps are the stretches between the manager's unlocked points: each step reads or writes the
manager's state once.
-/

namespace RmsGate.DynamicServer

structure ShutdownConfig where
  protectionEndTime : Int
  enabled : Bool
  deriving DecidableEq

def ShutdownConfig.new (enabled : Bool) : ShutdownConfig := ⟨0, enabled⟩

def ShutdownConfig.isInProtectionPeriod (cfg : ShutdownConfig) (now : Nat) : Bool :=
  decide ((now : Int) < cfg.protectionEndTime)

structure IdleSettings where
  idleShutdownSeconds : Int
  hasUUID : Bool

/-- Where the idle check of the server is, between two of its steps: each phase names the read
that just ran or the step that comes next. -/
inductive IdlePhase where
  | ready
  | configRead (found : Bool)
  | cancelling
  | scheduling
  | enabledRead (found : Bool)
  | checkingTimers
  | awaitingStatus
  | installing (timer : Nat)
  deriving DecidableEq

namespace IdlePhase

def pastProtection : IdlePhase → Bool
  | .scheduling | .enabledRead _ | .checkingTimers | .awaitingStatus | .installing _ => true
  | _ => false

def pastFlag : IdlePhase → Bool
  | .checkingTimers | .awaitingStatus | .installing _ => true
  | _ => false

def pastTimers : IdlePhase → Bool
  | .awaitingStatus | .installing _ => true
  | _ => false

/-- The check will still read the flag from an entry before it installs a timer. -/
def testsFlag : IdlePhase → Bool
  | .ready | .configRead _ | .cancelling | .scheduling | .enabledRead true => true
  | _ => false

/-- An admin command here cannot slip past the check's tests: outside the check, after a read
that found the entry, or before a cancel. -/
def admitsCommand : IdlePhase → Bool
  | .ready | .configRead true | .cancelling => true
  | _ => false

end IdlePhase

structure ShutdownState where
  now : Nat
  config : Option ShutdownConfig
  /-- The entry of `shutdownTimers`: the timer it holds. -/
  registered : Option Nat
  /-- Timers made by `AfterFunc` that have neither fired nor been stopped, with the time
  they are due. -/
  armed : List (Nat × Int)
  /-- Timers whose callback has started and not yet deleted the entry. -/
  firing : List Nat
  /-- Timers whose callback has deleted the entry and not yet decided. -/
  deciding : List Nat
  nextTimer : Nat
  idle : IdlePhase
  stops : List Nat
  deriving DecidableEq

inductive ShutdownEvent where
  | advance (ms : Nat)
  | readConfig
  /-- The idle check tests the protection period on the entry it read and counts the players;
  `none` when the proxy has no such server. -/
  | idleCheck (players : Option Nat)
  | cancelIdle
  | readEnabled
  /-- `IsAutoShutdownEnabled` tests the flag it read, and `scheduleShutdown` looks up the UUID. -/
  | testEnabled
  /-- `scheduleShutdown` looks at `shutdownTimers` and sends `GetInstanceStatus`. -/
  | testTimers
  | statusReturned (status : Option Int)
  | registerTimer
  | fire (timer : Nat)
  /-- The callback deletes the server's `shutdownTimers` entry, whichever timer it holds. -/
  | unregister (timer : Nat)
  | callback (timer : Nat) (players : Option Nat)
  | setShutdownDelay (delaySeconds : Int)
  | clearProtectionPeriod
  | setAutoShutdownEnabled (enabled : Bool)

namespace ShutdownEvent

def ofCallback : ShutdownEvent → Bool
  | .unregister _ | .callback _ _ => true
  | _ => false

def isAdmin : ShutdownEvent → Bool
  | .setShutdownDelay _ | .clearProtectionPeriod | .setAutoShutdownEnabled _ => true
  | _ => false

end ShutdownEvent

namespace ShutdownState

def start (now : Nat) : ShutdownState := ⟨now, none, none, [], [], [], 0, .ready, []⟩

/-- `IsAutoShutdownEnabled`'s test: a server with no configuration has auto-shutdown on. -/
def isAutoShutdownEnabled (s : ShutdownState) : Bool := s.config.all (·.enabled)

def inProtection (s : ShutdownState) : Bool := s.config.any (·.isInProtectionPeriod s.now)

/-- `cancelShutdown`: stop the registered timer, which does nothing to a timer that fired. -/
def cancelShutdown (s : ShutdownState) : ShutdownState :=
  match s.registered with
  | none => s
  | some timer => { s with armed := s.armed.filter (·.1 ≠ timer), registered := none }

def configOrNew (s : ShutdownState) : ShutdownConfig := s.config.getD (.new true)

/-- The body of the idle check after its read of the entry, which it tests only if it found
one. -/
def idleCheck (s : ShutdownState) (found : Bool) (players : Option Nat) : ShutdownState :=
  if found && s.inProtection then { s with idle := .ready }
  else
    match players with
    | none => { s with idle := .ready }
    | some 0 => { s with idle := .scheduling }
    | some _ => { s with idle := .cancelling }

/-- `scheduleShutdown` after `IsAutoShutdownEnabled`'s read: the flag of an entry it found,
then the UUID. -/
def testEnabled (settings : IdleSettings) (s : ShutdownState) (found : Bool) : ShutdownState :=
  if found && !s.isAutoShutdownEnabled then { s with idle := .ready }
  else if !settings.hasUUID then { s with idle := .ready }
  else { s with idle := .checkingTimers }

/-- The rest of `scheduleShutdown` once the status is known: a running instance gets a timer
due `IdleShutdownSeconds` from now. -/
def installTimer (settings : IdleSettings) (s : ShutdownState) (status : Option Int) :
    ShutdownState :=
  if status = some 3 then
    { s with
      armed := s.armed ++ [(s.nextTimer, s.now + settings.idleShutdownSeconds * 1000)]
      nextTimer := s.nextTimer + 1
      idle := .installing s.nextTimer }
  else { s with idle := .ready }

/-- `SetShutdownDelay`: the protection period ends at `now + int64(delaySeconds)*1000`,
computed in wrapping `int64` arithmetic. -/
def setShutdownDelay (s : ShutdownState) (delaySeconds : Int) : ShutdownState :=
  cancelShutdown
    { s with
      config := some { s.configOrNew with
        protectionEndTime := Go.toInt64 (s.now + Go.toInt64 (delaySeconds * 1000)) } }

def setAutoShutdownEnabled (s : ShutdownState) (enabled : Bool) : ShutdownState :=
  let set := { s with config := some { s.configOrNew with enabled := enabled } }
  if enabled then set
  else
    let cancelled := set.cancelShutdown
    { cancelled with config := cancelled.config.map ({ · with protectionEndTime := 0 }) }

def step (settings : IdleSettings) (s : ShutdownState) : ShutdownEvent → Option ShutdownState
  | .advance ms => some { s with now := s.now + ms }
  | .readConfig =>
      if s.idle = .ready then some { s with idle := .configRead s.config.isSome } else none
  | .idleCheck players =>
      match s.idle with
      | .configRead found => some (s.idleCheck found players)
      | _ => none
  | .cancelIdle =>
      if s.idle = .cancelling then some { s.cancelShutdown with idle := .ready } else none
  | .readEnabled =>
      if s.idle = .scheduling then some { s with idle := .enabledRead s.config.isSome } else none
  | .testEnabled =>
      match s.idle with
      | .enabledRead found => some (s.testEnabled settings found)
      | _ => none
  | .testTimers =>
      if s.idle = .checkingTimers then
        some { s with idle := if s.registered.isSome then .ready else .awaitingStatus }
      else none
  | .statusReturned status =>
      if s.idle = .awaitingStatus then some (s.installTimer settings status) else none
  | .registerTimer =>
      match s.idle with
      | .installing timer => some { s with registered := some timer, idle := .ready }
      | _ => none
  | .fire timer =>
      match s.armed.find? (·.1 = timer) with
      | some (_, due) =>
          if due ≤ s.now then
            some { s with armed := s.armed.filter (·.1 ≠ timer), firing := s.firing ++ [timer] }
          else none
      | none => none
  | .unregister timer =>
      if timer ∈ s.firing then
        some { s with
          firing := s.firing.erase timer
          deciding := s.deciding ++ [timer]
          registered := none }
      else none
  | .callback timer players =>
      if timer ∈ s.deciding then
        some { s with
          deciding := s.deciding.erase timer
          stops := if players = some 0 then s.stops ++ [s.now] else s.stops }
      else none
  | .setShutdownDelay delaySeconds => some (s.setShutdownDelay delaySeconds)
  | .clearProtectionPeriod =>
      some { s with config := s.config.map ({ · with protectionEndTime := 0 }) }
  | .setAutoShutdownEnabled enabled => some (s.setAutoShutdownEnabled enabled)

def run (settings : IdleSettings) (s : ShutdownState) (events : List ShutdownEvent) :
    Option ShutdownState :=
  events.foldlM (step settings) s

/-- A shutdown is on its way: a timer is armed, a callback runs, or the idle check is past its
flag test. -/
def Pending (s : ShutdownState) : Prop :=
  s.armed ≠ [] ∨ s.firing ≠ [] ∨ s.deciding ≠ [] ∨ s.idle.pastFlag = true

def Allowed (s : ShutdownState) : Prop :=
  s.isAutoShutdownEnabled = true ∧ s.inProtection = false

/-- An event of a run in which a fired timer's callback runs to its end before anything else
happens, and no admin command lands between the idle check's tests and the timer's store. -/
def Sequential (s : ShutdownState) (e : ShutdownEvent) : Prop :=
  (e.ofCallback = false → s.firing = [] ∧ s.deciding = []) ∧
    (e.isAdmin = true → s.idle.admitsCommand = true)

instance (s : ShutdownState) (e : ShutdownEvent) : Decidable (s.Sequential e) := by
  unfold Sequential; infer_instance

def stepSequential (settings : IdleSettings) (s : ShutdownState) (e : ShutdownEvent) :
    Option ShutdownState :=
  if s.Sequential e then s.step settings e else none

def runSequential (settings : IdleSettings) (s : ShutdownState) (events : List ShutdownEvent) :
    Option ShutdownState :=
  events.foldlM (stepSequential settings) s

end ShutdownState

/-! ## Commands that land while a shutdown is on its way -/

def emptyCheck : List ShutdownEvent :=
  [.readConfig, .idleCheck (some 0), .readEnabled, .testEnabled, .testTimers]

/-- Five runs in which `StopInstance` is sent against the admin's commands.  The idle check
passes its tests and waits for the status; `SetAutoShutdownEnabled(false)` returns, finding no
timer to cancel; the timer is then installed and stops the server.  The same with
`SetShutdownDelay(3600)`: the server is stopped five minutes into an hour of protection.  A
timer that already fired when `SetAutoShutdownEnabled(false)` calls `Stop` goes on to stop the
server.  A fired timer's delete, late, unregisters the next timer, which no command can then
cancel.  And `SetShutdownDelay(3600)` on a server with no entry yet, between the idle check's
read of `serverConfigs` and its test, is never tested. -/
theorem idleShutdown_ignores_commands :
    let settings : IdleSettings := ⟨300, true⟩
    let timerRuns (timer : Nat) : List ShutdownEvent :=
      [.advance 300000, .fire timer, .unregister timer, .callback timer (some 0)]
    (∃ s, (ShutdownState.start 0).run settings
        (emptyCheck ++ [.setAutoShutdownEnabled false, .statusReturned (some 3), .registerTimer] ++
          timerRuns 0) = some s ∧
      s.stops = [300000] ∧ s.config = some ⟨0, false⟩) ∧
    (∃ s, (ShutdownState.start 0).run settings
        (emptyCheck ++ [.setShutdownDelay 3600, .statusReturned (some 3), .registerTimer] ++
          timerRuns 0) = some s ∧
      s.stops = [300000] ∧ s.config = some ⟨3600000, true⟩) ∧
    (∃ s, (ShutdownState.start 0).run settings
        (emptyCheck ++ [.statusReturned (some 3), .registerTimer, .advance 300000, .fire 0,
          .setAutoShutdownEnabled false, .unregister 0, .callback 0 (some 0)]) = some s ∧
      s.stops = [300000] ∧ s.config = some ⟨0, false⟩) ∧
    (∃ s, (ShutdownState.start 0).run settings
        (emptyCheck ++ [.statusReturned (some 3), .registerTimer, .advance 300000, .fire 0,
          .readConfig, .idleCheck (some 1), .cancelIdle] ++ emptyCheck ++
          [.statusReturned (some 3), .registerTimer, .unregister 0, .callback 0 (some 1),
            .setAutoShutdownEnabled false] ++ timerRuns 1) = some s ∧
      s.stops = [600000] ∧ s.config = some ⟨0, false⟩) ∧
    (∃ s, (ShutdownState.start 0).run settings
        ([.readConfig, .setShutdownDelay 3600] ++ emptyCheck.tail ++
          [.statusReturned (some 3), .registerTimer] ++ timerRuns 0) = some s ∧
      s.stops = [300000] ∧ s.config = some ⟨3600000, true⟩) :=
  ⟨⟨_, rfl, rfl, rfl⟩, ⟨_, rfl, rfl, rfl⟩, ⟨_, rfl, rfl, rfl⟩, ⟨_, rfl, rfl, rfl⟩,
    ⟨_, rfl, rfl, rfl⟩⟩

/-! ## Sequential runs keep the commands -/

namespace IdlePhase

theorem pastTimers_of_pastFlag {p : IdlePhase} (notPast : p.pastFlag = false) :
    p.pastTimers = false := by
  cases p <;> simp_all [pastFlag, pastTimers]

theorem admitsCommand_spec {p : IdlePhase} (admits : p.admitsCommand = true) :
    p.pastProtection = false ∧ p.pastFlag = false ∧ p ≠ .configRead false ∧
      p ≠ .enabledRead false := by
  rcases p with _ | ⟨_ | _⟩ | _ | _ | ⟨_ | _⟩ | _ | _ | _ <;>
    simp_all [admitsCommand, pastProtection, pastFlag]

end IdlePhase

namespace ShutdownState

/-- What holds between the steps of a sequential run. -/
structure ShutdownInv (s : ShutdownState) : Prop where
  /-- Every armed timer is the one `shutdownTimers` holds, or the one about to be stored. -/
  armedRegistered : ∀ t ∈ s.armed, s.registered = some t.1 ∨ s.idle = .installing t.1
  pastTimersUnregistered : s.idle.pastTimers = true → s.registered = none
  callbackAlone : s.firing ≠ [] ∨ s.deciding ≠ [] → s.armed = []
  unread : s.idle = .configRead false ∨ s.idle = .enabledRead false → s.config = none
  unprotected : s.idle.pastProtection = true → s.inProtection = false
  pendingAllowed : s.Pending → s.Allowed

theorem cancelShutdown_settles {s : ShutdownState}
    (armed : ∀ t ∈ s.armed, s.registered = some t.1) :
    s.cancelShutdown = { s with armed := [], registered := none } := by
  unfold cancelShutdown
  split
  · rename_i unset
    have none_armed : s.armed = [] :=
      List.eq_nil_iff_forall_not_mem.2 fun t mem => by simpa [unset] using armed t mem
    cases s
    simp_all
  · rename_i timer set
    rw [List.filter_eq_nil_iff.2 fun t mem => by
      simp [Option.some_inj.1 ((set.symm.trans (armed t mem)))]]

theorem inProtection_advance {s : ShutdownState} (ms : Nat) (over : s.inProtection = false) :
    { s with now := s.now + ms }.inProtection = false := by
  simp only [inProtection, ShutdownConfig.isInProtectionPeriod] at *
  cases found : s.config <;> simp_all
  omega

theorem inProtection_of_none {s : ShutdownState} (none : s.config = none) :
    s.inProtection = false := by
  simp [inProtection, none]

theorem Pending.of_timers {s t : ShutdownState} (pending : t.Pending) (armed : t.armed = s.armed)
    (firing : t.firing = s.firing) (deciding : t.deciding = s.deciding)
    (notPast : t.idle.pastFlag = false) : s.Pending := by
  rcases pending with nonempty | nonempty | nonempty | past
  · exact .inl (armed ▸ nonempty)
  · exact .inr (.inl (firing ▸ nonempty))
  · exact .inr (.inr (.inl (deciding ▸ nonempty)))
  · exact absurd past (by simp [notPast])

theorem shutdownInv_start (now : Nat) : ShutdownInv (start now) :=
  ⟨by simp [start], by simp [start, IdlePhase.pastTimers], by simp [start], by simp [start],
    by simp [start, IdlePhase.pastProtection], by simp [start, Pending, IdlePhase.pastFlag]⟩

namespace ShutdownInv

variable {s : ShutdownState}

theorem armed_eq (inv : ShutdownInv s) {timer : Nat}
    (holds : s.registered = some timer ∨ s.idle = .installing timer) :
    ∀ t ∈ s.armed, t.1 = timer := by
  intro t mem
  have storing : ∀ {k}, s.idle = .installing k → s.registered = none := fun installing =>
    inv.pastTimersUnregistered (by rw [installing]; rfl)
  rcases inv.armedRegistered t mem with registered | installing <;>
    rcases holds with held | installing'
  · exact Option.some_inj.1 (registered.symm.trans held)
  · simp [storing installing'] at registered
  · simp [storing installing] at held
  · exact IdlePhase.installing.inj (installing.symm.trans installing')

theorem registered_of_armed (inv : ShutdownInv s) (notStoring : s.idle.pastTimers = false) :
    ∀ t ∈ s.armed, s.registered = some t.1 :=
  fun t mem => (inv.armedRegistered t mem).resolve_right fun installing => by
    simp [installing, IdlePhase.pastTimers] at notStoring

theorem of_settled (armed : s.armed = []) (firing : s.firing = []) (deciding : s.deciding = [])
    (admits : s.idle.admitsCommand = true) : ShutdownInv s := by
  obtain ⟨protection, flag, notRead, notEnabledRead⟩ := IdlePhase.admitsCommand_spec admits
  exact ⟨by simp [armed], by simp [IdlePhase.pastTimers_of_pastFlag flag],
    fun _ => armed, fun read => read.elim (absurd · notRead) (absurd · notEnabledRead),
    by simp [protection], by simp [Pending, armed, firing, deciding, flag]⟩

theorem setIdle (inv : ShutdownInv s) (registered : ∀ t ∈ s.armed, s.registered = some t.1)
    {p : IdlePhase} (notPast : p.pastFlag = false)
    (read : (p ≠ .configRead false ∧ p ≠ .enabledRead false) ∨ s.config = none)
    (unprotected : p.pastProtection = true → s.inProtection = false) :
    ShutdownInv { s with idle := p } :=
  ⟨fun t mem => .inl (registered t mem), by simp [IdlePhase.pastTimers_of_pastFlag notPast],
    inv.callbackAlone,
    fun unread => read.elim (fun ⟨a, b⟩ => unread.elim (absurd · a) (absurd · b)) id,
    unprotected, fun pending => inv.pendingAllowed (pending.of_timers rfl rfl rfl notPast)⟩

theorem read_of_isSome (s : ShutdownState) (phase : Bool → IdlePhase)
    (found : phase true ≠ .configRead false ∧ phase true ≠ .enabledRead false) :
    (phase s.config.isSome ≠ .configRead false ∧ phase s.config.isSome ≠ .enabledRead false) ∨
      s.config = none := by
  cases isSome : s.config.isSome
  · exact .inr (Option.not_isSome_iff_eq_none.1 (by simp [isSome]))
  · exact .inl found

theorem advance (inv : ShutdownInv s) (ms : Nat) : ShutdownInv { s with now := s.now + ms } :=
  { inv with
    unprotected := fun past => inProtection_advance ms (inv.unprotected past)
    pendingAllowed := fun pending =>
      ⟨(inv.pendingAllowed pending).1, inProtection_advance ms (inv.pendingAllowed pending).2⟩ }

theorem readConfig (inv : ShutdownInv s) (ready : s.idle = .ready) :
    ShutdownInv { s with idle := .configRead s.config.isSome } :=
  inv.setIdle (inv.registered_of_armed (by rw [ready]; rfl)) rfl
    (read_of_isSome s _ ⟨by simp, by simp⟩) (by simp [IdlePhase.pastProtection])

theorem idleCheck (inv : ShutdownInv s) {found : Bool} (read : s.idle = .configRead found)
    (players : Option Nat) : ShutdownInv (s.idleCheck found players) := by
  have registered := inv.registered_of_armed (by rw [read]; rfl)
  unfold ShutdownState.idleCheck
  split
  · exact inv.setIdle registered rfl (.inl ⟨by simp, by simp⟩) (by simp [IdlePhase.pastProtection])
  · rename_i untested
    have unprotected : s.inProtection = false := by
      cases found
      · exact inProtection_of_none (inv.unread (.inl read))
      · simpa using untested
    split
    · exact inv.setIdle registered rfl (.inl ⟨by simp, by simp⟩)
        (by simp [IdlePhase.pastProtection])
    · exact inv.setIdle registered rfl (.inl ⟨by simp, by simp⟩) fun _ => unprotected
    · exact inv.setIdle registered rfl (.inl ⟨by simp, by simp⟩)
        (by simp [IdlePhase.pastProtection])

theorem cancelIdle (inv : ShutdownInv s) (cancelling : s.idle = .cancelling)
    (firing : s.firing = []) (deciding : s.deciding = []) :
    ShutdownInv { s.cancelShutdown with idle := .ready } := by
  rw [cancelShutdown_settles (inv.registered_of_armed (by rw [cancelling]; rfl))]
  exact of_settled rfl firing deciding rfl

theorem readEnabled (inv : ShutdownInv s) (scheduling : s.idle = .scheduling) :
    ShutdownInv { s with idle := .enabledRead s.config.isSome } :=
  inv.setIdle (inv.registered_of_armed (by rw [scheduling]; rfl)) rfl
    (read_of_isSome s _ ⟨by simp, by simp⟩) fun _ => inv.unprotected (by rw [scheduling]; rfl)

theorem testEnabled (inv : ShutdownInv s) {settings : IdleSettings} {found : Bool}
    (read : s.idle = .enabledRead found) : ShutdownInv (s.testEnabled settings found) := by
  have registered := inv.registered_of_armed (by rw [read]; rfl)
  have unprotected := inv.unprotected (by rw [read]; rfl)
  unfold ShutdownState.testEnabled
  split_ifs with disabled
  · exact inv.setIdle registered rfl (.inl ⟨by simp, by simp⟩) (by simp [IdlePhase.pastProtection])
  · exact inv.setIdle registered rfl (.inl ⟨by simp, by simp⟩) (by simp [IdlePhase.pastProtection])
  · have enabled : s.isAutoShutdownEnabled = true := by
      cases found
      · simp [isAutoShutdownEnabled, inv.unread (.inr read)]
      · simpa using disabled
    exact ⟨fun t mem => .inl (registered t mem), by simp [IdlePhase.pastTimers], inv.callbackAlone,
      by simp, fun _ => unprotected, fun _ => ⟨enabled, unprotected⟩⟩

theorem testTimers (inv : ShutdownInv s) (checking : s.idle = .checkingTimers) :
    ShutdownInv { s with idle := if s.registered.isSome then .ready else .awaitingStatus } := by
  have registered := inv.registered_of_armed (by rw [checking]; rfl)
  have allowed := inv.pendingAllowed (.inr (.inr (.inr (by rw [checking]; rfl))))
  split
  · exact inv.setIdle registered rfl (.inl ⟨by simp, by simp⟩) (by simp [IdlePhase.pastProtection])
  · rename_i unset
    have unset : s.registered = none := Option.not_isSome_iff_eq_none.1 unset
    exact ⟨fun t mem => absurd (registered t mem) (by simp [unset]), fun _ => unset, inv.callbackAlone, by simp, fun _ => allowed.2, fun _ => allowed⟩

theorem statusReturned (inv : ShutdownInv s) (settings : IdleSettings) (status : Option Int)
    (awaiting : s.idle = .awaitingStatus) (firing : s.firing = []) (deciding : s.deciding = []) :
    ShutdownInv (s.installTimer settings status) := by
  have unset := inv.pastTimersUnregistered (by rw [awaiting]; rfl)
  have noneArmed : s.armed = [] := List.eq_nil_iff_forall_not_mem.2 fun t mem => by
    rcases inv.armedRegistered t mem with registered | installing
    · simp [unset] at registered
    · simp [awaiting] at installing
  have allowed := inv.pendingAllowed (.inr (.inr (.inr (by rw [awaiting]; rfl))))
  unfold ShutdownState.installTimer
  split
  · exact ⟨by simp [noneArmed], fun _ => unset, by simp [firing, deciding], by simp,
      fun _ => allowed.2, fun _ => allowed⟩
  · exact inv.setIdle (by simp [noneArmed]) rfl (.inl ⟨by simp, by simp⟩)
      (by simp [IdlePhase.pastProtection])

theorem registerTimer (inv : ShutdownInv s) {timer : Nat} (installing : s.idle = .installing timer) :
    ShutdownInv { s with registered := some timer, idle := .ready } :=
  have same := inv.armed_eq (.inr installing)
  have allowed := inv.pendingAllowed (.inr (.inr (.inr (by rw [installing]; rfl))))
  ⟨fun t mem => .inl (by rw [same t mem]), by simp [IdlePhase.pastTimers], inv.callbackAlone,
    by simp, by simp [IdlePhase.pastProtection], fun _ => allowed⟩

theorem fire (inv : ShutdownInv s) {timer t : Nat} {due : Int}
    (found : s.armed.find? (·.1 = timer) = some (t, due)) :
    ShutdownInv { s with armed := s.armed.filter (·.1 ≠ timer), firing := s.firing ++ [timer] } := by
  have mem : (t, due) ∈ s.armed := List.mem_of_find?_eq_some found
  have sameTimer : t = timer := by simpa using List.find?_some found
  have same := inv.armed_eq (sameTimer ▸ inv.armedRegistered _ mem)
  have cleared : s.armed.filter (·.1 ≠ timer) = [] :=
    List.filter_eq_nil_iff.2 fun t mem => by simp [same t mem]
  exact ⟨by simp only [cleared, List.not_mem_nil, false_implies, implies_true],
    inv.pastTimersUnregistered, fun _ => cleared, inv.unread, inv.unprotected,
    fun _ => inv.pendingAllowed (.inl (List.ne_nil_of_mem mem))⟩

theorem unregister (inv : ShutdownInv s) {timer : Nat} (running : timer ∈ s.firing) :
    ShutdownInv { s with
      firing := s.firing.erase timer, deciding := s.deciding ++ [timer], registered := none } :=
  have noneArmed := inv.callbackAlone (.inl (List.ne_nil_of_mem running))
  ⟨by simp [noneArmed], fun _ => rfl, fun _ => noneArmed, inv.unread, inv.unprotected,
    fun _ => inv.pendingAllowed (.inr (.inl (List.ne_nil_of_mem running)))⟩

theorem callback (inv : ShutdownInv s) {timer : Nat} (running : timer ∈ s.deciding)
    (stops : List Nat) :
    ShutdownInv { s with deciding := s.deciding.erase timer, stops := stops } :=
  { inv with
    callbackAlone := fun _ => inv.callbackAlone (.inr (List.ne_nil_of_mem running))
    pendingAllowed := fun _ =>
      inv.pendingAllowed (.inr (.inr (.inl (List.ne_nil_of_mem running)))) }

theorem setShutdownDelay (inv : ShutdownInv s) (delaySeconds : Int)
    (admits : s.idle.admitsCommand = true) (firing : s.firing = []) (deciding : s.deciding = []) :
    ShutdownInv (s.setShutdownDelay delaySeconds) := by
  unfold ShutdownState.setShutdownDelay
  rw [cancelShutdown_settles]
  exacts [of_settled rfl firing deciding admits, inv.registered_of_armed
    (IdlePhase.pastTimers_of_pastFlag (IdlePhase.admitsCommand_spec admits).2.1)]

theorem clearProtectionPeriod (inv : ShutdownInv s) :
    ShutdownInv { s with config := s.config.map ({ · with protectionEndTime := 0 }) } := by
  have cleared : { s with config := s.config.map fun c : ShutdownConfig =>
      { c with protectionEndTime := 0 } }.inProtection = false := by
    cases found : s.config <;>
      simp [inProtection, found, ShutdownConfig.isInProtectionPeriod, Int.ofNat_nonneg]
  refine { inv with
    unread := fun read => by rw [inv.unread read]; rfl
    unprotected := fun _ => cleared
    pendingAllowed := fun pending => ⟨?_, cleared⟩ }
  have enabled := (inv.pendingAllowed pending).1
  simp only [isAutoShutdownEnabled] at enabled ⊢
  cases found : s.config <;> simp_all

theorem setAutoShutdownEnabled (inv : ShutdownInv s) (enabled : Bool)
    (admits : s.idle.admitsCommand = true) (firing : s.firing = []) (deciding : s.deciding = []) :
    ShutdownInv (s.setAutoShutdownEnabled enabled) := by
  obtain ⟨protection, flag, notRead, notEnabledRead⟩ := IdlePhase.admitsCommand_spec admits
  unfold ShutdownState.setAutoShutdownEnabled
  cases enabled with
  | false =>
      simp only [Bool.false_eq_true, if_false]
      rw [cancelShutdown_settles]
      exacts [of_settled rfl firing deciding admits,
        inv.registered_of_armed (IdlePhase.pastTimers_of_pastFlag flag)]
  | true =>
      refine { inv with
        unread := fun read => read.elim (absurd · notRead) (absurd · notEnabledRead)
        unprotected := by simp [protection]
        pendingAllowed := fun pending => ?_ }
      have unprotected := (inv.pendingAllowed pending).2
      simp only [Allowed, isAutoShutdownEnabled, inProtection, configOrNew,
        ShutdownConfig.isInProtectionPeriod] at unprotected ⊢
      cases found : s.config <;> simp_all [ShutdownConfig.new, Int.not_lt, Int.ofNat_nonneg]

theorem step (inv : ShutdownInv s) {settings : IdleSettings} {e : ShutdownEvent}
    {next : ShutdownState} (stepped : s.stepSequential settings e = some next) :
    ShutdownInv next := by
  unfold stepSequential at stepped
  split at stepped
  case isFalse => cases stepped
  case isTrue sequential =>
  obtain ⟨quiet, admitted⟩ := sequential
  cases e with
  | advance ms =>
      cases stepped
      exact inv.advance ms
  | readConfig =>
      simp only [ShutdownState.step, Option.ite_none_right_eq_some, Option.some.injEq] at stepped
      obtain ⟨ready, rfl⟩ := stepped
      exact inv.readConfig ready
  | idleCheck players =>
      simp only [ShutdownState.step] at stepped
      split at stepped <;> cases stepped
      exact inv.idleCheck (by assumption) players
  | cancelIdle =>
      simp only [ShutdownState.step, Option.ite_none_right_eq_some, Option.some.injEq] at stepped
      obtain ⟨cancelling, rfl⟩ := stepped
      exact inv.cancelIdle cancelling (quiet rfl).1 (quiet rfl).2
  | readEnabled =>
      simp only [ShutdownState.step, Option.ite_none_right_eq_some, Option.some.injEq] at stepped
      obtain ⟨scheduling, rfl⟩ := stepped
      exact inv.readEnabled scheduling
  | testEnabled =>
      simp only [ShutdownState.step] at stepped
      split at stepped <;> cases stepped
      exact inv.testEnabled (by assumption)
  | testTimers =>
      simp only [ShutdownState.step, Option.ite_none_right_eq_some, Option.some.injEq] at stepped
      obtain ⟨checking, rfl⟩ := stepped
      exact inv.testTimers checking
  | statusReturned status =>
      simp only [ShutdownState.step, Option.ite_none_right_eq_some, Option.some.injEq] at stepped
      obtain ⟨awaiting, rfl⟩ := stepped
      exact inv.statusReturned settings status awaiting (quiet rfl).1 (quiet rfl).2
  | registerTimer =>
      simp only [ShutdownState.step] at stepped
      split at stepped <;> cases stepped
      exact inv.registerTimer (by assumption)
  | fire timer =>
      simp only [ShutdownState.step] at stepped
      split at stepped
      · rename_i t due found
        simp only [Option.ite_none_right_eq_some, Option.some.injEq] at stepped
        obtain ⟨-, rfl⟩ := stepped
        exact inv.fire found
      · cases stepped
  | unregister timer =>
      simp only [ShutdownState.step, Option.ite_none_right_eq_some, Option.some.injEq] at stepped
      obtain ⟨running, rfl⟩ := stepped
      exact inv.unregister running
  | callback timer players =>
      simp only [ShutdownState.step, Option.ite_none_right_eq_some, Option.some.injEq] at stepped
      obtain ⟨running, rfl⟩ := stepped
      exact inv.callback running _
  | setShutdownDelay delaySeconds =>
      cases stepped
      exact inv.setShutdownDelay delaySeconds (admitted rfl) (quiet rfl).1 (quiet rfl).2
  | clearProtectionPeriod =>
      cases stepped
      exact inv.clearProtectionPeriod
  | setAutoShutdownEnabled enabled =>
      cases stepped
      exact inv.setAutoShutdownEnabled enabled (admitted rfl) (quiet rfl).1 (quiet rfl).2

end ShutdownInv

theorem shutdownInv_runSequential (settings : IdleSettings) :
    ∀ {s next : ShutdownState} {events : List ShutdownEvent}, ShutdownInv s →
      s.runSequential settings events = some next → ShutdownInv next := by
  intro s next events
  induction events generalizing s with
  | nil =>
      intro inv ran
      cases ran
      exact inv
  | cons event events ih =>
      intro inv ran
      simp only [runSequential, List.foldlM_cons, Option.bind_eq_bind, Option.bind_eq_some] at ran
      obtain ⟨stepped, stepEq, rest⟩ := ran
      exact ih (inv.step stepEq) rest

/-! ## The configuration between admin commands -/

theorem cancelShutdown_keeps (s : ShutdownState) :
    s.cancelShutdown.config = s.config ∧ s.cancelShutdown.now = s.now := by
  unfold cancelShutdown
  split <;> exact ⟨rfl, rfl⟩

theorem step_keeps_config {settings : IdleSettings} {s t : ShutdownState} {e : ShutdownEvent}
    (notAdmin : e.isAdmin = false) (stepped : s.step settings e = some t) :
    t.config = s.config ∧ s.now ≤ t.now := by
  cases e with
  | advance ms =>
      cases stepped
      exact ⟨rfl, Nat.le_add_right _ _⟩
  | idleCheck players =>
      simp only [step] at stepped
      split at stepped <;> cases stepped
      unfold idleCheck
      split
      · exact ⟨rfl, le_rfl⟩
      · split <;> exact ⟨rfl, le_rfl⟩
  | cancelIdle =>
      simp only [step, Option.ite_none_right_eq_some, Option.some.injEq] at stepped
      obtain ⟨-, rfl⟩ := stepped
      exact ⟨(cancelShutdown_keeps s).1, (cancelShutdown_keeps s).2.ge⟩
  | testEnabled =>
      simp only [step] at stepped
      split at stepped <;> cases stepped
      unfold testEnabled
      split_ifs <;> exact ⟨rfl, le_rfl⟩
  | statusReturned status =>
      simp only [step, Option.ite_none_right_eq_some, Option.some.injEq] at stepped
      obtain ⟨-, rfl⟩ := stepped
      unfold installTimer
      split <;> exact ⟨rfl, le_rfl⟩
  | registerTimer =>
      simp only [step] at stepped
      split at stepped <;> cases stepped
      exact ⟨rfl, le_rfl⟩
  | fire timer =>
      simp only [step] at stepped
      split at stepped
      · simp only [Option.ite_none_right_eq_some, Option.some.injEq] at stepped
        obtain ⟨-, rfl⟩ := stepped
        exact ⟨rfl, le_rfl⟩
      · cases stepped
  | readConfig | readEnabled | testTimers | unregister | callback =>
      simp only [step, Option.ite_none_right_eq_some, Option.some.injEq] at stepped
      obtain ⟨-, rfl⟩ := stepped
      exact ⟨rfl, le_rfl⟩
  | setShutdownDelay | clearProtectionPeriod | setAutoShutdownEnabled => cases notAdmin

theorem run_keeps_config (settings : IdleSettings) :
    ∀ {events : List ShutdownEvent} {s t : ShutdownState}, (∀ e ∈ events, e.isAdmin = false) →
      s.run settings events = some t → t.config = s.config ∧ s.now ≤ t.now := by
  intro events
  induction events with
  | nil =>
      intro s t _ ran
      cases ran
      exact ⟨rfl, le_rfl⟩
  | cons event events ih =>
      intro s t noAdmin ran
      simp only [run, List.foldlM_cons, Option.bind_eq_bind, Option.bind_eq_some] at ran
      obtain ⟨stepped, stepEq, rest⟩ := ran
      have first := step_keeps_config (noAdmin event (List.mem_cons_self _ _)) stepEq
      have later := ih (fun e mem => noAdmin e (List.mem_cons_of_mem _ mem)) rest
      exact ⟨later.1.trans first.1, first.2.trans later.2⟩

/-! ## Auto-shutdown turned off with nothing on its way -/

/-- Nothing of a shutdown is on its way but armed timers that `shutdownTimers` holds, which
`cancelShutdown` stops, and an idle check that will still read the flag from an entry. -/
structure Cancellable (s : ShutdownState) : Prop where
  armedRegistered : ∀ t ∈ s.armed, s.registered = some t.1
  firing : s.firing = []
  deciding : s.deciding = []
  testsFlag : s.idle.testsFlag = true

/-- Auto-shutdown is off and no shutdown is on its way. -/
structure Off (s : ShutdownState) : Prop where
  disabled : s.isAutoShutdownEnabled = false
  armed : s.armed = []
  firing : s.firing = []
  deciding : s.deciding = []
  testsFlag : s.idle.testsFlag = true

@[simp] theorem cancelShutdown_stops (s : ShutdownState) : s.cancelShutdown.stops = s.stops := by
  unfold cancelShutdown; split <;> rfl

@[simp] theorem setAutoShutdownEnabled_stops (s : ShutdownState) (enabled : Bool) :
    (s.setAutoShutdownEnabled enabled).stops = s.stops := by
  unfold setAutoShutdownEnabled; split <;> simp

theorem Cancellable.off {s : ShutdownState} (cancellable : s.Cancellable) :
    (s.setAutoShutdownEnabled false).Off := by
  have cancelled := cancelShutdown_settles (s := { s with
    config := some { s.configOrNew with enabled := false } }) cancellable.armedRegistered
  simp only [setAutoShutdownEnabled, Bool.false_eq_true, if_false, cancelled]
  exact ⟨rfl, rfl, cancellable.firing, cancellable.deciding, cancellable.testsFlag⟩

/-- Off the admin commands, only the clock and the idle check can move a state that is off:
the check finds the entry and its flag, and sends `StopInstance` no more than the clock. -/
theorem Off.step {settings : IdleSettings} {s t : ShutdownState} {e : ShutdownEvent}
    (off : s.Off) (notAdmin : e.isAdmin = false) (stepped : s.step settings e = some t) :
    t.Off ∧ t.stops = s.stops := by
  have found : s.config.isSome = true := by
    have disabled := off.disabled
    cases config : s.config <;> simp_all [isAutoShutdownEnabled]
  have withIdle : ∀ p : IdlePhase, p.testsFlag = true →
      Off { s with idle := p } ∧ ({ s with idle := p } : ShutdownState).stops = s.stops :=
    fun _ tests => ⟨⟨off.disabled, off.armed, off.firing, off.deciding, tests⟩, rfl⟩
  cases e with
  | advance ms =>
      cases stepped
      exact ⟨⟨off.disabled, off.armed, off.firing, off.deciding, off.testsFlag⟩, rfl⟩
  | readConfig =>
      simp only [ShutdownState.step, Option.ite_none_right_eq_some, Option.some.injEq] at stepped
      obtain ⟨-, rfl⟩ := stepped
      exact withIdle _ rfl
  | idleCheck players =>
      simp only [ShutdownState.step] at stepped
      split at stepped <;> cases stepped
      unfold idleCheck
      split
      · exact withIdle _ rfl
      · split <;> exact withIdle _ rfl
  | cancelIdle =>
      simp only [ShutdownState.step, Option.ite_none_right_eq_some, Option.some.injEq] at stepped
      obtain ⟨-, rfl⟩ := stepped
      rw [cancelShutdown_settles (by simp [off.armed])]
      exact ⟨⟨off.disabled, rfl, off.firing, off.deciding, rfl⟩, rfl⟩
  | readEnabled =>
      simp only [ShutdownState.step, Option.ite_none_right_eq_some, Option.some.injEq] at stepped
      obtain ⟨-, rfl⟩ := stepped
      rw [found]
      exact withIdle _ rfl
  | testEnabled =>
      simp only [ShutdownState.step] at stepped
      split at stepped
      · rename_i foundFlag read
        cases stepped
        have tested : foundFlag = true := by
          cases foundFlag
          · simpa [read, IdlePhase.testsFlag] using off.testsFlag
          · rfl
        simp only [testEnabled, tested, off.disabled, Bool.not_false, Bool.and_self, ↓reduceIte]
        exact ⟨(withIdle .ready rfl).1, trivial⟩
      · cases stepped
  | testTimers | statusReturned | registerTimer =>
      have := off.testsFlag
      simp only [ShutdownState.step] at stepped
      split at stepped <;> simp_all [IdlePhase.testsFlag]
  | fire timer => simp [ShutdownState.step, off.armed] at stepped
  | unregister timer => simp [ShutdownState.step, off.firing] at stepped
  | callback timer players => simp [ShutdownState.step, off.deciding] at stepped
  | setShutdownDelay | clearProtectionPeriod | setAutoShutdownEnabled => cases notAdmin

theorem Off.run (settings : IdleSettings) :
    ∀ {events : List ShutdownEvent} {s t : ShutdownState}, s.Off →
      (∀ e ∈ events, e.isAdmin = false) → s.run settings events = some t → t.stops = s.stops := by
  intro events
  induction events with
  | nil =>
      intro s t _ _ ran
      cases ran
      rfl
  | cons event events ih =>
      intro s t off noAdmin ran
      simp only [ShutdownState.run, List.foldlM_cons, Option.bind_eq_bind, Option.bind_eq_some] at ran
      obtain ⟨stepped, stepEq, rest⟩ := ran
      have first := off.step (noAdmin event (List.mem_cons_self _ _)) stepEq
      exact (ih first.1 (fun e mem => noAdmin e (List.mem_cons_of_mem _ mem)) rest).trans first.2

end ShutdownState

end RmsGate.DynamicServer
