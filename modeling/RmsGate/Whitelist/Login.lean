import RmsGate.Go.Values

/-!
# The whitelist check at login

`onLogin` asks the whitelist service about every player who logs in.  `Check` posts the
player's username and UUID as JSON to the configured `APIUrl`, with one trailing slash trimmed
and `/api/whitelist` appended, under a context that expires after `TimeoutSeconds` seconds.  An
answer of 200 is `Allowed` and one of 403 is `NotInWhitelist`; any other status, like a request
that cannot be built or sent, is `ServerError`.  `onLogin` denies the last two, with
`MsgNotInWhitelist` and `MsgServerError`, so a login passes exactly when the service answers
200 at that URL.  The README documents
`apiUrl` as the service's base URL, but the one of `defaultConfig`, which `loadConfig` writes to
a missing config.json and returns when the file cannot be read or decoded, already ends in
`/api/whitelist`: its checks go to `/api/whitelist/api/whitelist`.
-/

namespace RmsGate.Whitelist

open RmsGate.Go

inductive CheckResult where
  | allowed
  | notInWhitelist
  | serverError
  deriving DecidableEq

/-- `whitelistRequest`, the body `Check` posts. -/
structure WhitelistRequest where
  username : String
  uuid : String
  deriving DecidableEq

/-- The fields of `Config` that the login reads. -/
structure WhitelistConfig where
  apiUrl : String
  timeoutSeconds : Int
  msgNotInWhitelist : String
  msgServerError : String

def defaultConfig : WhitelistConfig :=
  ⟨"http://localhost:8080/api/whitelist", 10, "您当前不在白名单中", "500服务器内部错误，请联系管理员"⟩

/-- `strings.TrimSuffix`, on characters: a suffix of a UTF-8 string that is itself UTF-8 starts
at a character boundary. -/
def trimSuffix (s suffix : String) : String :=
  if suffix.toList.isSuffixOf s.toList then ⟨s.toList.take (s.length - suffix.length)⟩ else s

def apiURL (baseURL : String) : String := trimSuffix baseURL "/" ++ "/api/whitelist"

def requestTimeout (timeoutSeconds : Int) : Int := toInt64 (timeoutSeconds * 1000000000)

/-- `Check`, given what `client.Do` makes of a POST of a body to a URL under a timeout: the
answer's status code, or `none` when the request cannot be built or sent or its context expires
first.  `json.Marshal` of two strings does not fail. -/
def check (post : String → WhitelistRequest → Int → Option Nat)
    (username uuid baseURL : String) (timeoutSeconds : Int) : CheckResult :=
  match post (apiURL baseURL) ⟨username, uuid⟩ (requestTimeout timeoutSeconds) with
  | some 200 => .allowed
  | some 403 => .notInWhitelist
  | _ => .serverError

/-- `onLogin`: the text of the `Deny` it calls, `none` when it lets the player in. -/
def onLogin (cfg : WhitelistConfig) (post : String → WhitelistRequest → Int → Option Nat)
    (username uuid : String) : Option String :=
  match check post username uuid cfg.apiUrl cfg.timeoutSeconds with
  | .allowed => none
  | .notInWhitelist => some cfg.msgNotInWhitelist
  | .serverError => some cfg.msgServerError

theorem check_eq_allowed (post : String → WhitelistRequest → Int → Option Nat)
    (username uuid baseURL : String) (timeoutSeconds : Int) :
    check post username uuid baseURL timeoutSeconds = .allowed ↔
      post (apiURL baseURL) ⟨username, uuid⟩ (requestTimeout timeoutSeconds) = some 200 := by
  unfold check
  split <;> simp_all

theorem onLogin_eq_none (cfg : WhitelistConfig)
    (post : String → WhitelistRequest → Int → Option Nat) (username uuid : String) :
    onLogin cfg post username uuid = none ↔
      check post username uuid cfg.apiUrl cfg.timeoutSeconds = .allowed := by
  unfold onLogin
  split <;> simp_all

/-- **A login passes only on a 200.**  For every configuration and every player, whatever the
whitelist service and the network do, `onLogin` lets the player in exactly when the POST of the
player's name and UUID to the configured URL is answered with status 200: a 403, any other
status, a refused or timed-out connection and a URL that cannot be parsed all deny the login. -/
theorem onLogin_admits_only_ok (cfg : WhitelistConfig)
    (post : String → WhitelistRequest → Int → Option Nat) (username uuid : String) :
    onLogin cfg post username uuid = none ↔
      post (apiURL cfg.apiUrl) ⟨username, uuid⟩ (requestTimeout cfg.timeoutSeconds) = some 200 :=
  (onLogin_eq_none cfg post username uuid).trans
    (check_eq_allowed post username uuid cfg.apiUrl cfg.timeoutSeconds)

theorem apiURL_endpoint (base : String) :
    apiURL (base ++ "/api/whitelist") = base ++ "/api/whitelist/api/whitelist" := by
  have kept : trimSuffix (base ++ "/api/whitelist") "/" = base ++ "/api/whitelist" := by
    rw [trimSuffix, if_neg]
    simp [List.isSuffixOf, String.data_append]
  rw [apiURL, kept, String.append_assoc]
  rfl

/-- **A configured endpoint is doubled.**  When `APIUrl` already ends in `/api/whitelist`, as the
one of `defaultConfig` does, every login's check goes to `/api/whitelist/api/whitelist` under the
same base, and a login passes exactly when the service answers 200 there: a service that follows
the README at that base denies every login. -/
theorem onLogin_doubles_endpoint {cfg : WhitelistConfig} {base : String}
    (endpoint : cfg.apiUrl = base ++ "/api/whitelist")
    (post : String → WhitelistRequest → Int → Option Nat) (username uuid : String) :
    onLogin cfg post username uuid = none ↔
      post (base ++ "/api/whitelist/api/whitelist") ⟨username, uuid⟩
        (requestTimeout cfg.timeoutSeconds) = some 200 := by
  rw [onLogin_eq_none, check_eq_allowed, endpoint, apiURL_endpoint]

example : onLogin defaultConfig (fun url _ _ =>
      if url = "http://localhost:8080/api/whitelist" then some 200 else some 404)
    "Alice" "uuid-of-alice" ≠ none := fun admitted =>
  absurd ((onLogin_doubles_endpoint
    (show defaultConfig.apiUrl = "http://localhost:8080" ++ "/api/whitelist" by decide) _ _ _).mp
    admitted) (by decide)

end RmsGate.Whitelist
