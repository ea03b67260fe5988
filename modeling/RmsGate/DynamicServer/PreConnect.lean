import RmsGate.DynamicServer.Readiness

/-!
# Connecting a player to an auto-start server

`onServerPreConnect` runs before the proxy connects a player to a server.  With dynamic server
management on, for a server in `AutoStartServers` it asks MCSManager for the status of the
instance under the server's UUID, the empty string when `ServerUUIDMap` has none, and lets the
player through when the status is 3.  Otherwise it tells the player the server is starting,
calls `EnsureServerRunning`, and when that returns false tells the player the startup timed out
and denies the connection.
`GetInstanceStatus` reads the first page of the daemon's instances and returns the status of the
first one with the UUID; it returns 2 when the request fails, the answer is not 200 or cannot be
decoded, or no instance has the UUID, and `onServerPreConnect` ignores its error.  The caller
modelled here is the one whose `EnsureServerRunning` starts the server; a caller that joins a
start in flight gets its result (`Joining`).
-/

namespace RmsGate.DynamicServer

def isAutoStartServer (cfg : DynamicServerConfig) (name : String) : Bool :=
  cfg.autoStartServers.contains name

/-- `GetInstanceStatus`, given the instances of the answer's first page, each a UUID and a
status; `none` when there is no decoded answer with status 200. -/
def getInstanceStatus (instances : Option (List (String × Int))) (instanceUUID : String) : Int :=
  match instances with
  | none => 2
  | some list => ((list.find? (·.1 == instanceUUID)).map (·.2)).getD 2

/-- A message sent to the player: `fmt.Sprintf` of `MsgStarting` or of `MsgStartupTimeout` with
the server's name. -/
inductive PlayerMessage where
  | starting (serverName : String)
  | startupTimeout (serverName : String)
  deriving DecidableEq

/-- What `onServerPreConnect` does to the event: the messages it sends, and whether it denies
the connection. -/
structure PreConnect where
  messages : List PlayerMessage
  denied : Bool
  deriving DecidableEq

def startReply (serverName : String) (started : Bool) : PreConnect :=
  if started then ⟨[.starting serverName], false⟩
  else ⟨[.starting serverName, .startupTimeout serverName], true⟩

/-- `onServerPreConnect`, given the manager's configuration when dynamic server management is
enabled and the event's server; `none` for a panic of `EnsureServerRunning`. -/
def onServerPreConnect (dynamicServer : Option DynamicServerConfig) (server : Option String)
    (instances : Option (List (String × Int))) (env : Environment) : Option PreConnect :=
  match dynamicServer, server with
  | none, _ => some ⟨[], false⟩
  | some _, none => some ⟨[], false⟩
  | some cfg, some serverName =>
      if !isAutoStartServer cfg serverName then some ⟨[], false⟩
      else
        let instanceUUID := (cfg.serverUuidMap.lookup serverName).getD ""
        if getInstanceStatus instances instanceUUID = 3 then some ⟨[], false⟩
        else
          (ensureServerRunning cfg env serverName).map (startReply serverName)

theorem onServerPreConnect_admitted {cfg : DynamicServerConfig} {serverName : String}
    {instances : Option (List (String × Int))} {env : Environment} {result : PreConnect}
    (autoStart : isAutoStartServer cfg serverName = true)
    (ran : onServerPreConnect (some cfg) (some serverName) instances env = some result)
    (admitted : result.denied = false) :
    getInstanceStatus instances ((cfg.serverUuidMap.lookup serverName).getD "") = 3 ∨
      ensureServerRunning cfg env serverName = some true := by
  simp only [onServerPreConnect, autoStart, Bool.not_true, Bool.false_eq_true, if_false] at ran
  split at ran
  · exact .inl ‹_›
  · right
    obtain ⟨started, ensured, rfl⟩ := Option.map_eq_some'.mp ran
    cases started
    · cases admitted
    · exact ensured

/-- **Who gets onto an auto-start server.**  A player whose connection to an auto-start server
`onServerPreConnect` lets through found MCSManager reporting the instance running, or started
it: `StartInstance` succeeded, a poll within the startup attempts and before a cancel reported
status 3, and an attempt within the connectivity attempts reached a backend.  This holds for
every configuration and every answer of MCSManager, the proxy and the backends. -/
theorem onServerPreConnect_admits_running {cfg : DynamicServerConfig} {serverName : String}
    {instances : Option (List (String × Int))} {env : Environment} {result : PreConnect}
    (autoStart : isAutoStartServer cfg serverName = true)
    (ran : onServerPreConnect (some cfg) (some serverName) instances env = some result)
    (admitted : result.denied = false) :
    getInstanceStatus instances ((cfg.serverUuidMap.lookup serverName).getD "") = 3 ∨
      StartedRunning cfg env serverName :=
  (onServerPreConnect_admitted autoStart ran admitted).imp id ensureServerRunning_reached

theorem onServerPreConnect_admits_running_started :
    let cfg : DynamicServerConfig :=
      ⟨[("creative", "mcsm-instance-uuid")], ["creative"], 60, 2, 30, 300⟩
    let env : Environment :=
      ⟨some true, fun _ => false, fun _ => some 3, true, fun _ => false, fun _ => true⟩
    isAutoStartServer cfg "creative" = true ∧
      onServerPreConnect (some cfg) (some "creative") (some [("mcsm-instance-uuid", 0)]) env =
        some ⟨[.starting "creative"], false⟩ ∧
      (getInstanceStatus (some [("mcsm-instance-uuid", 0)]) "mcsm-instance-uuid" = 3 ∨
        StartedRunning cfg env "creative") := by
  intro cfg env
  have autoStart : isAutoStartServer cfg "creative" = true := rfl
  have ran : onServerPreConnect (some cfg) (some "creative") (some [("mcsm-instance-uuid", 0)])
      env = some ⟨[.starting "creative"], false⟩ := rfl
  exact ⟨autoStart, ran, onServerPreConnect_admits_running autoStart ran rfl⟩

/-- **An auto-start server without a UUID cannot be joined.**  When `ServerUUIDMap` has no
entry for a server in `AutoStartServers`, and no instance of the daemon has the empty UUID,
every connection to it is told the server is starting and then denied, whatever MCSManager
answers: `EnsureServerRunning` gives up before it sends `StartInstance`. -/
theorem onServerPreConnect_denies_without_uuid {cfg : DynamicServerConfig} {serverName : String}
    (autoStart : isAutoStartServer cfg serverName = true)
    (noUuid : cfg.serverUuidMap.lookup serverName = none)
    {instances : Option (List (String × Int))}
    (noEmpty : ∀ list, instances = some list → ∀ inst ∈ list, inst.1 ≠ "") (env : Environment) :
    onServerPreConnect (some cfg) (some serverName) instances env =
      some ⟨[.starting serverName, .startupTimeout serverName], true⟩ := by
  have notRunning : getInstanceStatus instances "" = 2 := by
    unfold getInstanceStatus
    split
    · rfl
    · rename_i list
      rw [List.find?_eq_none.mpr fun inst mem => by simpa using noEmpty list rfl inst mem]
      rfl
  simp [onServerPreConnect, autoStart, noUuid, notRunning, ensureServerRunning, startReply]

theorem onServerPreConnect_denies_without_uuid_survival :
    let cfg : DynamicServerConfig := ⟨[("creative", "mcsm-instance-uuid")],
      ["creative", "survival"], 60, 2, 30, 300⟩
    isAutoStartServer cfg "survival" = true ∧ cfg.serverUuidMap.lookup "survival" = none ∧
      (∀ list, some [("mcsm-instance-uuid", (3 : Int))] = some list → ∀ inst ∈ list,
        inst.1 ≠ "") ∧
      onServerPreConnect (some cfg) (some "survival") (some [("mcsm-instance-uuid", 3)])
          ⟨some true, fun _ => false, fun _ => some 3, true, fun _ => false, fun _ => true⟩ =
        some ⟨[.starting "survival", .startupTimeout "survival"], true⟩ := by
  intro cfg
  have noEmpty : ∀ list, some [("mcsm-instance-uuid", (3 : Int))] = some list →
      ∀ inst ∈ list, inst.1 ≠ "" := by
    rintro list ⟨⟩ inst mem
    simp only [List.mem_singleton] at mem
    subst mem
    decide
  exact ⟨rfl, rfl, noEmpty,
    @onServerPreConnect_denies_without_uuid cfg "survival" rfl rfl _ noEmpty _⟩

end RmsGate.DynamicServer
