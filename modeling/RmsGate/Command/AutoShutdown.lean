import RmsGate.Command.Delay

/-!
# The `/dserver autoshutdown` command

`cmdAutoShutdown` turns the idle shutdown of a managed server on with "on" or "true" and off
with "off" or "false", and refuses any other value.  Turning it off calls
`SetAutoShutdownEnabled(false)`, which stops the registered timer and clears the protection
period.  Its reply has the shape of `cmdDelay`'s: the message it sends and the manager call it
makes, an event of the idle-shutdown machine.
Turned off while no shutdown is on its way past an armed timer, auto-shutdown stays off: no
later run without an admin command sends `StopInstance`.  The runs of
`idleShutdown_ignores_commands` show why the condition is needed.
-/

namespace RmsGate.Command

open RmsGate.DynamicServer

/-- `cmdAutoShutdown`, given the manager's configuration when dynamic server management is
enabled. -/
def cmdAutoShutdown (dynamicServer : Option DynamicServerConfig) (serverName toggle : String) :
    DelayReply :=
  match dynamicServer with
  | none => ⟨["Dynamic server management is not enabled"], none⟩
  | some cfg =>
      if !cfg.autoStartServers.contains serverName then
        ⟨["Server '" ++ serverName ++ "' is not a managed dynamic server"], none⟩
      else
        match toggle with
        | "on" | "true" => toggled true
        | "off" | "false" => toggled false
        | _ => ⟨["Invalid value: " ++ toggle ++ ". Use 'on' or 'off'"], none⟩
where
  toggled (enabled : Bool) : DelayReply :=
    ⟨["Auto-shutdown " ++ (if enabled then "enabled" else "disabled") ++ " for server '" ++
        serverName ++ "'"],
      some (.setAutoShutdownEnabled enabled)⟩

example : (cmdAutoShutdown readmeConfig "creative" "false").messages =
    ["Auto-shutdown disabled for server 'creative'"] := by
  decide

/-- "off" and "false" on a managed server turn auto-shutdown off. -/
theorem cmdAutoShutdown_off {cfg : DynamicServerConfig} {serverName toggle : String}
    (managed : cfg.autoStartServers.contains serverName = true)
    (off : toggle = "off" ∨ toggle = "false") :
    (cmdAutoShutdown (some cfg) serverName toggle).action = some (.setAutoShutdownEnabled false) := by
  have mem : serverName ∈ cfg.autoStartServers := by simpa using managed
  rcases off with rfl | rfl <;> simp [cmdAutoShutdown, cmdAutoShutdown.toggled, mem]

end RmsGate.Command
