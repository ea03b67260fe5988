import RmsGate.LoadBalancer.Orchestrator

/-!
# The `/lb disable` and `/lb enable` commands

`cmdLBDisable` and `cmdLBEnable` call `DisableBackend` or `EnableBackend` with the server and
backend arguments and report whether the call found the backend.  The two differ only in the
call and in the success message, so both are `cmdLBSetDisabled` with their own call and
message.
A reply that the backend was not found comes with a load balancer left as it was, and the two
commands in turn on an enabled backend give the load balancer back.
-/

namespace RmsGate.Command

open RmsGate.LoadBalancer

/-- The message of `/lb disable` and `/lb enable`, and the load balancer the call leaves;
`none` when the load balancer is not enabled. -/
def cmdLBSetDisabled (done : String → String → String)
    (call : Balancer → String → String → Bool × Balancer) (loadBalancer : Option Balancer)
    (serverName backendAddr : String) : String × Option Balancer :=
  match loadBalancer with
  | none => ("Load balancer is not enabled", none)
  | some lb =>
      let result := call lb serverName backendAddr
      (if result.1 then done serverName backendAddr
        else "Backend '" ++ backendAddr ++ "' not found for server '" ++ serverName ++ "'",
        some result.2)

def cmdLBDisable (loadBalancer : Option Balancer) (serverName backendAddr : String) :
    String × Option Balancer :=
  cmdLBSetDisabled
    (fun serverName backendAddr =>
      "Backend '" ++ backendAddr ++ "' disabled for server '" ++ serverName ++ "'")
    Balancer.disableBackend loadBalancer serverName backendAddr

def cmdLBEnable (loadBalancer : Option Balancer) (serverName backendAddr : String) :
    String × Option Balancer :=
  cmdLBSetDisabled
    (fun serverName backendAddr =>
      "Backend '" ++ backendAddr ++ "' enabled for server '" ++ serverName ++ "'")
    Balancer.enableBackend loadBalancer serverName backendAddr

theorem cmdLBSetDisabled_not_found (done : String → String → String) (disabled : Bool) {lb : Balancer}
    {serverName backendAddr : String}
    (notFound : (lb.setBackendDisabled serverName backendAddr disabled).1 = false) :
    cmdLBSetDisabled done (fun lb serverName backendAddr =>
        lb.setBackendDisabled serverName backendAddr disabled) (some lb) serverName backendAddr =
      ("Backend '" ++ backendAddr ++ "' not found for server '" ++ serverName ++ "'", some lb) := by
  simp only [cmdLBSetDisabled, notFound, Bool.false_eq_true, if_false,
    Balancer.setBackendDisabled_not_found notFound]

/-- **Disabling and enabling a backend by command is a round trip.**  On a registered pool
whose first backend with the address is enabled, "/lb disable server backend" reports the
backend disabled, and "/lb enable server backend" then reports it enabled and gives back the
load balancer as it was. -/
theorem cmdLBDisable_cmdLBEnable {lb : Balancer} {serverName backendAddr : String} {pool : Pool}
    {b : Backend} (registered : lb.servers serverName = some pool)
    (first : pool.backends.find? (·.addr == backendAddr) = some b) (enabled : b.disabled = false) :
    ∃ disabledLb,
      cmdLBDisable (some lb) serverName backendAddr =
          ("Backend '" ++ backendAddr ++ "' disabled for server '" ++ serverName ++ "'",
            some disabledLb) ∧
        cmdLBEnable (some disabledLb) serverName backendAddr =
          ("Backend '" ++ backendAddr ++ "' enabled for server '" ++ serverName ++ "'", some lb) := by
  obtain ⟨found, restored⟩ := Balancer.disableBackend_enableBackend registered first enabled
  refine ⟨(lb.disableBackend serverName backendAddr).2, ?_, ?_⟩
  · simp only [cmdLBDisable, cmdLBSetDisabled, found, if_true]
  · simp only [cmdLBEnable, cmdLBSetDisabled, restored, if_true]

theorem cmdLBDisable_cmdLBEnable_lobby :
    let backend : Backend := ⟨"a:25565", 100, 0, 0, 0, true, false, [], 20, 0, ∅, 100⟩
    let lb : Balancer :=
      ⟨fun name => if name = "lobby" then some ⟨[backend], .healthScore, []⟩ else none,
        HistoryManager.new⟩
    lb.servers "lobby" = some ⟨[backend], .healthScore, []⟩ ∧
      [backend].find? (·.addr == "a:25565") = some backend ∧ backend.disabled = false ∧
      ∃ disabledLb,
        cmdLBDisable (some lb) "lobby" "a:25565" =
            ("Backend 'a:25565' disabled for server 'lobby'", some disabledLb) ∧
          cmdLBEnable (some disabledLb) "lobby" "a:25565" =
            ("Backend 'a:25565' enabled for server 'lobby'", some lb) := by
  intro backend lb
  have registered : lb.servers "lobby" = some ⟨[backend], .healthScore, []⟩ := rfl
  have first : [backend].find? (·.addr == "a:25565") = some backend := rfl
  exact ⟨registered, first, rfl, cmdLBDisable_cmdLBEnable registered first rfl⟩

end RmsGate.Command
