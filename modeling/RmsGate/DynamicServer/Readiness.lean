import RmsGate.Go.Values

/-!
# Waiting for a started server

Past the single-flight bookkeeping, `EnsureServerRunning` looks up the instance's UUID, sends
`StartInstance`, and waits in `waitForServerReady`.  That polls `GetInstanceStatus` up to
`StartupTimeoutSeconds / PollIntervalSeconds` times; once the instance runs (status 3),
`checkServerConnectivity` polls the backends up to `ConnectivityTimeoutSeconds /
PollIntervalSeconds` times; both are Go integer divisions, which panic on a zero interval.  The
configuration is what `loadConfig` returns: the default when config.json is missing or
cannot be read or decoded, otherwise what `json.Unmarshal` made of it, which leaves the field of
an absent key at 0; `init` copies it field by field into the manager's `Config`.  What
MCSManager, the proxy and the manager's context answer is an `Environment`, free at every
attempt.  The sleeps between attempts take no part in the result.
-/

namespace RmsGate.DynamicServer

open RmsGate.Go

structure DynamicServerConfig where
  serverUuidMap : List (String × String)
  autoStartServers : List String
  startupTimeoutSeconds : Int
  pollIntervalSeconds : Int
  connectivityTimeoutSeconds : Int
  idleShutdownSeconds : Int

def defaultConfig : DynamicServerConfig := ⟨[], [], 60, 2, 30, 60⟩

/-- The `"dynamicServer"` object of config.json: each key's value, `none` where it is absent. -/
structure DynamicServerJson where
  serverUuidMap : Option (List (String × String))
  autoStartServers : Option (List String)
  startupTimeoutSeconds : Option Int
  pollIntervalSeconds : Option Int
  connectivityTimeoutSeconds : Option Int
  idleShutdownSeconds : Option Int

def fitsInt (value : Option Int) : Bool := value.all fun n => -2 ^ 63 ≤ n && n < 2 ^ 63

/-- `json.Unmarshal` of the object: absent keys keep the zero value, and a number too large for
an `int` makes the whole decoding fail. -/
def DynamicServerJson.unmarshal (json : DynamicServerJson) : Option DynamicServerConfig :=
  if fitsInt json.startupTimeoutSeconds && fitsInt json.pollIntervalSeconds &&
      fitsInt json.connectivityTimeoutSeconds && fitsInt json.idleShutdownSeconds then
    some ⟨json.serverUuidMap.getD [], json.autoStartServers.getD [],
      json.startupTimeoutSeconds.getD 0, json.pollIntervalSeconds.getD 0,
      json.connectivityTimeoutSeconds.getD 0, json.idleShutdownSeconds.getD 0⟩
  else none

/-- What `loadConfig` finds at config.json: `malformed` bytes `json.Unmarshal` rejects, or a JSON
object `parsed` with its `"dynamicServer"` object if it has one. -/
inductive ConfigFile where
  | missing
  | unreadable
  | malformed
  | parsed (dynamicServer : Option DynamicServerJson)

/-- The `DynamicServer` of the configuration `loadConfig` returns; `none` when it has none, and
then no manager is made. -/
def loadConfig : ConfigFile → Option DynamicServerConfig
  | .missing | .unreadable | .malformed => some defaultConfig
  | .parsed none => none
  | .parsed (some json) => some (json.unmarshal.getD defaultConfig)

def readmeDynamicServer : DynamicServerJson where
  serverUuidMap := some [("creative", "mcsm-instance-uuid")]
  autoStartServers := some ["creative"]
  startupTimeoutSeconds := some 60
  pollIntervalSeconds := none
  connectivityTimeoutSeconds := none
  idleShutdownSeconds := some 300

/-- What the manager's collaborators answer during one `EnsureServerRunning`, at each attempt of
its loops: `StartInstance` (`none` for an error), whether `m.ctx.Done()` is closed in
`waitForServerReady` and in `checkServerConnectivity`, `GetInstanceStatus` (`none` for an
error), whether `m.proxy.Server(serverName)` is registered, and `checkAnyBackendReachable`. -/
structure Environment where
  startInstance : Option Bool
  cancelledWaiting : Nat → Bool
  instanceStatus : Nat → Option Int
  registered : Bool
  cancelledConnecting : Nat → Bool
  reachable : Nat → Bool

def connectivityLoop (env : Environment) (attempt : Nat) : Nat → Bool
  | 0 => false
  | remaining + 1 =>
      if env.cancelledConnecting attempt then false
      else if env.reachable attempt then true
      else connectivityLoop env (attempt + 1) remaining

def checkServerConnectivity (cfg : DynamicServerConfig) (env : Environment) : Option Bool :=
  if env.registered then
    (intDiv cfg.connectivityTimeoutSeconds cfg.pollIntervalSeconds).map fun maxAttempts =>
      connectivityLoop env 0 maxAttempts.toNat
  else some false

def readinessLoop (cfg : DynamicServerConfig) (env : Environment) (attempt : Nat) :
    Nat → Option Bool
  | 0 => some false
  | remaining + 1 =>
      if env.cancelledWaiting attempt then some false
      else
        match env.instanceStatus attempt with
        | none => readinessLoop cfg env (attempt + 1) remaining
        | some status =>
            if status = 3 then checkServerConnectivity cfg env
            else if status = 0 ∨ status = 1 ∨ status = 2 then
              readinessLoop cfg env (attempt + 1) remaining
            else some false

def waitForServerReady (cfg : DynamicServerConfig) (env : Environment) : Option Bool :=
  (intDiv cfg.startupTimeoutSeconds cfg.pollIntervalSeconds).bind fun maxAttempts =>
    readinessLoop cfg env 0 maxAttempts.toNat

/-- `EnsureServerRunning` for the caller that starts the server; `none` for a panic. -/
def ensureServerRunning (cfg : DynamicServerConfig) (env : Environment) (serverName : String) :
    Option Bool :=
  match cfg.serverUuidMap.lookup serverName with
  | none => some false
  | some _ => if env.startInstance = some true then waitForServerReady cfg env else some false

/-! ## Division by the poll interval -/

/-- The README's configuration leaves out `pollIntervalSeconds`, which decodes to 0: once
`StartInstance` succeeds for "creative", `waitForServerReady` divides by zero, whatever the
collaborators answer. -/
theorem ensureServerRunning_panics_on_readme_config (env : Environment) :
    ∃ cfg, loadConfig (.parsed (some readmeDynamicServer)) = some cfg ∧
      cfg.pollIntervalSeconds = 0 ∧
      ensureServerRunning cfg { env with startInstance := some true } "creative" = none :=
  ⟨_, rfl, rfl, rfl⟩

section Total

variable {cfg : DynamicServerConfig} (poll : cfg.pollIntervalSeconds ≠ 0) (env : Environment)
include poll

theorem checkServerConnectivity_isSome : (checkServerConnectivity cfg env).isSome := by
  unfold checkServerConnectivity
  split
  · simpa [Option.isSome_map] using (intDiv_isSome_iff _ _).mpr poll
  · rfl

theorem readinessLoop_isSome (attempt remaining : Nat) :
    (readinessLoop cfg env attempt remaining).isSome := by
  induction remaining generalizing attempt with
  | zero => rfl
  | succ remaining ih =>
      unfold readinessLoop
      split
      · rfl
      · split
        · exact ih _
        · split
          · exact checkServerConnectivity_isSome poll env
          · split
            · exact ih _
            · rfl

/-- **A non-zero poll interval rules out every panic**: `EnsureServerRunning` then returns a
boolean, whatever the collaborators answer. -/
theorem ensureServerRunning_total (serverName : String) :
    ∃ started, ensureServerRunning cfg env serverName = some started := by
  apply Option.isSome_iff_exists.mp
  unfold ensureServerRunning waitForServerReady
  split
  · rfl
  · split
    · obtain ⟨maxAttempts, divided⟩ :=
        Option.isSome_iff_exists.mp ((intDiv_isSome_iff _ _).mpr poll)
      rw [divided, Option.some_bind]
      exact readinessLoop_isSome poll env 0 _
    · rfl

end Total

theorem ensureServerRunning_total_default :
    defaultConfig.pollIntervalSeconds ≠ 0 ∧
      ∃ started, ensureServerRunning defaultConfig
        ⟨some true, fun _ => false, fun _ => some 3, true, fun _ => false, fun _ => true⟩
        "creative" = some started :=
  ⟨by decide, @ensureServerRunning_total defaultConfig (by decide) _ "creative"⟩

/-! ## What a `true` result rests on -/

/-- Attempt `i` of a polling loop with this timeout is one the loop makes, below
`timeout / PollIntervalSeconds`, and the manager's context was not cancelled at it or before. -/
def PolledAt (cfg : DynamicServerConfig) (timeout : Int) (cancelled : Nat → Bool) (i : Nat) :
    Prop :=
  (∃ maxAttempts, intDiv timeout cfg.pollIntervalSeconds = some maxAttempts ∧
    i < maxAttempts.toNat) ∧ ∀ k ≤ i, cancelled k = false

/-- What a `true` from `EnsureServerRunning` rests on: a poll of `waitForServerReady` reported
status 3, and an attempt of `checkServerConnectivity` reached a backend. -/
structure StartedRunning (cfg : DynamicServerConfig) (env : Environment) (serverName : String) :
    Prop where
  configured : (cfg.serverUuidMap.lookup serverName).isSome
  started : env.startInstance = some true
  running : ∃ i, PolledAt cfg cfg.startupTimeoutSeconds env.cancelledWaiting i ∧
    env.instanceStatus i = some 3
  registered : env.registered = true
  reachable : ∃ j, PolledAt cfg cfg.connectivityTimeoutSeconds env.cancelledConnecting j ∧
    env.reachable j = true

theorem uncancelled_succ {cancelled : Nat → Bool} {attempt j : Nat}
    (now : cancelled attempt = false) (later : ∀ k, attempt + 1 ≤ k → k ≤ j → cancelled k = false) :
    ∀ k, attempt ≤ k → k ≤ j → cancelled k = false := fun k lo hi =>
  (Nat.eq_or_lt_of_le lo).elim (fun same => same ▸ now) fun above => later k above hi

theorem connectivityLoop_reached {env : Environment} :
    ∀ {attempt remaining : Nat}, connectivityLoop env attempt remaining = true →
      ∃ j, attempt ≤ j ∧ j < attempt + remaining ∧ env.reachable j = true ∧
        ∀ k, attempt ≤ k → k ≤ j → env.cancelledConnecting k = false := by
  intro attempt remaining
  induction remaining generalizing attempt with
  | zero => simp [connectivityLoop]
  | succ remaining ih =>
      unfold connectivityLoop
      split_ifs with cancelled reached
      · simp
      · exact fun _ => ⟨attempt, le_rfl, by omega, reached, fun k lo hi =>
          (show k = attempt by omega) ▸ Bool.eq_false_iff.mpr cancelled⟩
      · intro looped
        obtain ⟨j, lo, hi, reached', later⟩ := ih looped
        exact ⟨j, by omega, by omega, reached',
          uncancelled_succ (Bool.eq_false_iff.mpr cancelled) later⟩

theorem checkServerConnectivity_reached {cfg : DynamicServerConfig} {env : Environment}
    (connected : checkServerConnectivity cfg env = some true) :
    env.registered = true ∧ ∃ j, PolledAt cfg cfg.connectivityTimeoutSeconds
      env.cancelledConnecting j ∧ env.reachable j = true := by
  unfold checkServerConnectivity at connected
  split at connected
  · obtain ⟨maxAttempts, divided, looped⟩ := Option.map_eq_some'.mp connected
    obtain ⟨j, -, below, reached, uncancelled⟩ := connectivityLoop_reached looped
    exact ⟨‹_›, j, ⟨⟨maxAttempts, divided, by omega⟩, fun k => uncancelled k k.zero_le⟩, reached⟩
  · simp at connected

theorem readinessLoop_reached {cfg : DynamicServerConfig} {env : Environment} :
    ∀ {attempt remaining : Nat}, readinessLoop cfg env attempt remaining = some true →
      (∃ i, attempt ≤ i ∧ i < attempt + remaining ∧ env.instanceStatus i = some 3 ∧
        ∀ k, attempt ≤ k → k ≤ i → env.cancelledWaiting k = false) ∧
      checkServerConnectivity cfg env = some true := by
  intro attempt remaining
  induction remaining generalizing attempt with
  | zero => simp [readinessLoop]
  | succ remaining ih =>
      unfold readinessLoop
      split
      · simp
      · rename_i cancelled
        have later : readinessLoop cfg env (attempt + 1) remaining = some true →
            (∃ i, attempt ≤ i ∧ i < attempt + (remaining + 1) ∧ env.instanceStatus i = some 3 ∧
              ∀ k, attempt ≤ k → k ≤ i → env.cancelledWaiting k = false) ∧
            checkServerConnectivity cfg env = some true := fun looped => by
          obtain ⟨⟨i, lo, hi, running, uncancelled⟩, connected⟩ := ih looped
          exact ⟨⟨i, by omega, by omega, running,
            uncancelled_succ (Bool.eq_false_iff.mpr cancelled) uncancelled⟩, connected⟩
        split
        · exact later
        · rename_i status reported
          split
          · rename_i running
            exact fun connected => ⟨⟨attempt, le_rfl, by omega, by rw [reported, running],
              fun k lo hi => (show k = attempt by omega) ▸ Bool.eq_false_iff.mpr cancelled⟩,
              connected⟩
          · split
            · exact later
            · simp

theorem ensureServerRunning_reached {cfg : DynamicServerConfig} {env : Environment}
    {serverName : String} (started : ensureServerRunning cfg env serverName = some true) :
    StartedRunning cfg env serverName := by
  unfold ensureServerRunning waitForServerReady at started
  split at started
  · simp at started
  · rename_i instanceUUID found
    split at started
    · rename_i sent
      obtain ⟨maxAttempts, divided, looped⟩ := Option.bind_eq_some.mp started
      obtain ⟨⟨i, -, below, running, uncancelled⟩, connected⟩ := readinessLoop_reached looped
      obtain ⟨registered, reachable⟩ := checkServerConnectivity_reached connected
      exact ⟨by rw [found]; rfl, sent,
        ⟨i, ⟨⟨maxAttempts, divided, by omega⟩, fun k => uncancelled k k.zero_le⟩, running⟩,
        registered, reachable⟩
    · simp at started

/-- `EnsureServerRunning` reports the server running only after `StartInstance` succeeded for
the server's UUID, a poll of `waitForServerReady` within its attempts and before a cancel
reported status 3, and an attempt of `checkServerConnectivity` within its attempts and before a
cancel reached a backend of the registered server. -/
theorem ensureServerRunning_true_after_reachable {cfg : DynamicServerConfig} {env : Environment}
    {serverName : String} (started : ensureServerRunning cfg env serverName = some true) :
    StartedRunning cfg env serverName :=
  ensureServerRunning_reached started

theorem ensureServerRunning_true_after_reachable_creative :
    let cfg : DynamicServerConfig :=
      ⟨[("creative", "mcsm-instance-uuid")], ["creative"], 60, 2, 30, 300⟩
    let env : Environment :=
      ⟨some true, fun _ => false, fun i => if i < 3 then some 2 else some 3, true,
        fun _ => false, fun j => decide (1 ≤ j)⟩
    ensureServerRunning cfg env "creative" = some true ∧ StartedRunning cfg env "creative" := by
  intro cfg env
  have started : ensureServerRunning cfg env "creative" = some true := rfl
  exact ⟨started, ensureServerRunning_true_after_reachable started⟩

end RmsGate.DynamicServer
