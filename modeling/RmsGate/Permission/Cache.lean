import Mathlib.Logic.Function.Basic
import RmsGate.Go.Scan
import RmsGate.Go.Unicode

/-!
# The permission cache

`GetPermissionLevel` reads, under the read lock, whether the cache has expired and the
lowercased name's level.  On a hit it returns that level.  Otherwise it calls
`fetchPermissions`, whose request to the permission API is a suspension point.  A response
with `success` replaces the whole cache with its users and restarts the TTL, and the call then
reads the cache again.  A failed request returns the level read before, or 0.  Calls run
concurrently and the responses arrive in any order.
A call is numbered when it issues its request, so the numbers give the order of the requests.
The state also keeps the list of responses installed, with the request each answers, which the
code does not record.
-/

namespace RmsGate.Permission

/-! ## Go's `strings`, on the characters of a string -/

/-- `strings.ToLower`: `unicode.ToLower` on every rune. -/
def toLower (s : String) : String := ⟨s.data.map Go.toLower⟩

def trimPrefix (s pre : String) : String :=
  if pre.data.isPrefixOf s.data then ⟨s.data.drop pre.data.length⟩ else s

def fieldsFrom : List Char → List Char → List String
  | [], word => if word.isEmpty then [] else [⟨word.reverse⟩]
  | c :: rest, word =>
      if Go.isSpace c then (if word.isEmpty then [] else [⟨word.reverse⟩]) ++ fieldsFrom rest []
      else fieldsFrom rest (c :: word)

/-- `strings.Fields`: the maximal runs of characters that are not `unicode.IsSpace`, whose
ranges are those of `fmt`'s table. -/
def fields (s : String) : List String := fieldsFrom s.data []

/-! ## The manager -/

def levelAdmin : Int := 3

/-- Go's zero `time.Time`, in Unix milliseconds: the `cacheExpiry` of a new manager. -/
def zeroTime : Int := -62135596800000

structure PermissionUser where
  username : String
  permissionLevel : Int
  deriving DecidableEq

/-- The outcome of one `fetchPermissions`. -/
inductive FetchResult where
  | failed
  | unsuccessful
  | users (users : List PermissionUser)

/-- The cache `fetchPermissions` builds from a response: the last entry for a name wins. -/
def buildCache (users : List PermissionUser) : String → Option Int :=
  users.foldl (fun cache user => Function.update cache (toLower user.username)
    (some user.permissionLevel)) fun _ => none

/-- A `GetPermissionLevel` call past its first read. -/
inductive LookupPhase where
  /-- Its request is out; `cached` is the level the first read found. -/
  | fetching (cached : Option Int)
  | rereading

structure LookupCall where
  username : String
  phase : LookupPhase

structure PermissionState where
  now : Nat
  cache : String → Option Int
  cacheExpiry : Int
  cacheTTL : Nat
  calls : Nat → Option LookupCall
  nextCall : Nat
  /-- The responses installed so far, each with the call whose request it answers. -/
  installs : List (Nat × List PermissionUser)
  returned : List (String × Int)

inductive PermissionEvent where
  | advance (ms : Nat)
  /-- A `GetPermissionLevel` call reads the cache, and on a miss sends its request. -/
  | lookup (username : String)
  | respond (call : Nat) (result : FetchResult)
  | reread (call : Nat)

namespace PermissionState

def new (cacheTTLSeconds : Nat) : PermissionState :=
  ⟨0, fun _ => none, zeroTime, cacheTTLSeconds * 1000, fun _ => none, 0, [], []⟩

/-- `time.Now().After(p.cacheExpiry)`. -/
def expired (s : PermissionState) : Bool := decide (s.cacheExpiry < s.now)

def needsFetch (s : PermissionState) (username : String) : Bool :=
  s.expired || (s.cache (toLower username)).isNone

def lookup (s : PermissionState) (username : String) : PermissionState :=
  if s.needsFetch username then
    { s with
      calls := Function.update s.calls s.nextCall
        (some ⟨username, .fetching (s.cache (toLower username))⟩)
      nextCall := s.nextCall + 1 }
  else { s with returned := s.returned ++ [(username, (s.cache (toLower username)).getD 0)] }

def respond (s : PermissionState) (k : Nat) (username : String) (cached : Option Int) :
    FetchResult → PermissionState
  | .failed =>
      { s with
        calls := Function.update s.calls k none
        returned := s.returned ++ [(username, cached.getD 0)] }
  | .unsuccessful => { s with calls := Function.update s.calls k (some ⟨username, .rereading⟩) }
  | .users users =>
      { s with
        cache := buildCache users
        cacheExpiry := s.now + s.cacheTTL
        calls := Function.update s.calls k (some ⟨username, .rereading⟩)
        installs := s.installs ++ [(k, users)] }

def step (s : PermissionState) : PermissionEvent → Option PermissionState
  | .advance ms => some { s with now := s.now + ms }
  | .lookup username => some (s.lookup username)
  | .respond k result =>
      match s.calls k with
      | some ⟨username, .fetching cached⟩ => some (s.respond k username cached result)
      | _ => none
  | .reread k =>
      match s.calls k with
      | some ⟨username, .rereading⟩ =>
          some { s with
            calls := Function.update s.calls k none
            returned := s.returned ++ [(username, (s.cache (toLower username)).getD 0)] }
      | _ => none

def run (s : PermissionState) (events : List PermissionEvent) : Option PermissionState :=
  events.foldlM step s

theorem run_cons (s : PermissionState) (e : PermissionEvent) (events : List PermissionEvent) :
    s.run (e :: events) = (s.step e).bind fun next => next.run events := by
  simp [run, List.foldlM_cons]

end PermissionState

def isAdmin (level : Int) : Bool := decide (level > levelAdmin)

def isAdminCommand (adminCommands : List String) (cmd : String) : Bool :=
  match fields (toLower (trimPrefix cmd "/")) with
  | [] => false
  | cmdName :: _ => adminCommands.any fun adminCmd => toLower adminCmd == cmdName

/-- `CanExecute`, given the level `GetPermissionLevel` returns for the player. -/
def canExecute (adminCommands : List String) (cmd : String) (level : Int) : Bool :=
  !isAdminCommand adminCommands cmd || isAdmin level

/-! ## A slow response undoes a newer one -/

/-- Two lookups miss and send their requests; between them the API revokes alice's level 4.
The second request's answer arrives first and is installed; the first's arrives later and
replaces it, so alice is an admin again and may run `/op`: later lookups hit the stale cache
until the TTL runs out. -/
theorem stale_response_regrants :
    ∃ s, (PermissionState.new 60).run
        [.lookup "alice", .lookup "bob", .respond 1 (.users [⟨"alice", 0⟩]),
          .respond 0 (.users [⟨"alice", 4⟩]), .reread 0, .reread 1, .lookup "Alice"] = some s ∧
      s.installs.map Prod.fst = [1, 0] ∧
      s.returned = [("alice", 4), ("bob", 0), ("Alice", 4)] ∧
      canExecute ["op"] "/op alice" 4 = true :=
  ⟨_, rfl, rfl, rfl, by decide⟩

/-! ## The cache is the last response to arrive -/

namespace PermissionState

def lastInstalled (installs : List (Nat × List PermissionUser)) : List PermissionUser :=
  (installs.getLast?.map Prod.snd).getD []

theorem step_cache {s next : PermissionState} {e : PermissionEvent}
    (stepped : s.step e = some next) :
    (next.cache = s.cache ∧ next.installs = s.installs) ∨
      ∃ k users, next.cache = buildCache users ∧ next.installs = s.installs ++ [(k, users)] := by
  cases e with
  | advance ms => cases stepped; exact .inl ⟨rfl, rfl⟩
  | lookup username =>
      cases stepped
      unfold lookup
      split <;> exact .inl ⟨rfl, rfl⟩
  | respond k result =>
      simp only [step] at stepped
      split at stepped
      · cases stepped
        cases result with
        | failed => exact .inl ⟨rfl, rfl⟩
        | unsuccessful => exact .inl ⟨rfl, rfl⟩
        | users users => exact .inr ⟨k, users, rfl, rfl⟩
      · cases stepped
  | reread k =>
      simp only [step] at stepped
      split at stepped
      · cases stepped; exact .inl ⟨rfl, rfl⟩
      · cases stepped

theorem cache_run {s next : PermissionState} {events : List PermissionEvent}
    (last : s.cache = buildCache (lastInstalled s.installs)) (ran : s.run events = some next) :
    next.cache = buildCache (lastInstalled next.installs) := by
  induction events generalizing s with
  | nil => cases ran; exact last
  | cons e events ih =>
      rw [run_cons, Option.bind_eq_some] at ran
      obtain ⟨stepped, stepEq, rest⟩ := ran
      refine ih ?_ rest
      rcases step_cache stepEq with ⟨cache, installs⟩ | ⟨k, users, cache, installs⟩
      · rw [cache, installs, last]
      · simp [cache, installs, lastInstalled]

end PermissionState

/-- Under every interleaving of lookups and every order of responses, the cache is exactly the
user map of the last successful response to arrive, whichever request it answers; nothing of
an earlier response is kept. -/
theorem cache_is_last_arrival (cacheTTLSeconds : Nat) (events : List PermissionEvent)
    {s : PermissionState} (ran : (PermissionState.new cacheTTLSeconds).run events = some s) :
    s.cache = buildCache (PermissionState.lastInstalled s.installs) :=
  PermissionState.cache_run rfl ran

/-! ## Requests that do not overlap are installed in order -/

namespace LookupPhase

def isFetching : LookupPhase → Bool
  | .fetching _ => true
  | .rereading => false

end LookupPhase

namespace PermissionState

def outstanding (s : PermissionState) : Bool :=
  (List.range s.nextCall).any fun k => (s.calls k).any (·.phase.isFetching)

def issuesRequest (s : PermissionState) : PermissionEvent → Bool
  | .lookup username => s.needsFetch username
  | _ => false

/-- An event of a run where no request is sent while another is out. -/
def Sequential (s : PermissionState) (e : PermissionEvent) : Prop :=
  s.issuesRequest e = true → s.outstanding = false

instance (s : PermissionState) (e : PermissionEvent) : Decidable (s.Sequential e) := by
  unfold Sequential; infer_instance

def stepSequential (s : PermissionState) (e : PermissionEvent) : Option PermissionState :=
  if s.Sequential e then s.step e else none

def runSequential (s : PermissionState) (events : List PermissionEvent) :
    Option PermissionState :=
  events.foldlM stepSequential s

def Fetching (s : PermissionState) (k : Nat) : Prop :=
  ∃ username cached, s.calls k = some ⟨username, .fetching cached⟩

/-- What holds between the steps of a run where requests do not overlap. -/
structure InstallOrder (s : PermissionState) : Prop where
  fresh : ∀ k, s.nextCall ≤ k → s.calls k = none
  installsBefore : ∀ i ∈ s.installs, i.1 < s.nextCall
  sorted : (s.installs.map Prod.fst).Pairwise (· < ·)
  fetchingAfter : ∀ k, s.Fetching k → ∀ i ∈ s.installs, i.1 < k
  fetchingOne : ∀ k k', s.Fetching k → s.Fetching k' → k = k'

theorem installOrder_new (cacheTTLSeconds : Nat) : InstallOrder (new cacheTTLSeconds) :=
  ⟨fun _ _ => rfl, by simp [new], by simp [new], by simp [new], fun k _ ⟨_, _, h⟩ => by
    simp [new] at h⟩

theorem not_fetching_of_outstanding {s : PermissionState}
    (fresh : ∀ k, s.nextCall ≤ k → s.calls k = none) (quiet : s.outstanding = false) (k : Nat) :
    ¬ s.Fetching k := by
  rintro ⟨username, cached, found⟩
  have below : k < s.nextCall := by
    by_contra beyond
    simp [fresh k (by omega)] at found
  simp only [outstanding, List.any_eq_false, List.mem_range] at quiet
  simpa [found, LookupPhase.isFetching] using quiet k below

theorem fetching_update {s t : PermissionState} {k j : Nat} {entry : Option LookupCall}
    (calls : t.calls = Function.update s.calls k entry)
    (notFetching : ∀ c, entry = some c → c.phase.isFetching = false) (fetching : t.Fetching j) :
    j ≠ k ∧ s.Fetching j := by
  obtain ⟨username, cached, found⟩ := fetching
  rw [calls] at found
  by_cases same : j = k
  · subst j
    simp only [Function.update_same] at found
    simpa [LookupPhase.isFetching] using notFetching _ found
  · exact ⟨same, username, cached, by simpa [Function.update_noteq same] using found⟩

namespace InstallOrder

variable {s : PermissionState}

theorem below (order : InstallOrder s) {k : Nat} (present : (s.calls k).isSome) :
    k < s.nextCall := by
  by_contra past
  simp [order.fresh k (by omega)] at present

theorem settle (order : InstallOrder s) {t : PermissionState} {k : Nat} {entry : Option LookupCall}
    (calls : t.calls = Function.update s.calls k entry) (nextCall : t.nextCall = s.nextCall)
    (installs : t.installs = s.installs)
    (notFetching : ∀ c, entry = some c → c.phase.isFetching = false)
    (present : (s.calls k).isSome) : InstallOrder t where
  fresh j beyond := by
    have := order.below present
    rw [calls, Function.update_noteq (by omega), order.fresh j (by omega)]
  installsBefore := by rw [installs, nextCall]; exact order.installsBefore
  sorted := by rw [installs]; exact order.sorted
  fetchingAfter j fetching := by
    rw [installs]; exact order.fetchingAfter j (fetching_update calls notFetching fetching).2
  fetchingOne j j' fetching fetching' :=
    order.fetchingOne j j' (fetching_update calls notFetching fetching).2
      (fetching_update calls notFetching fetching').2

theorem lookup (order : InstallOrder s) (username : String)
    (sequential : s.Sequential (.lookup username)) : InstallOrder (s.lookup username) := by
  unfold PermissionState.lookup
  split
  · rename_i needs
    have quiet := not_fetching_of_outstanding order.fresh (sequential needs)
    have fetching_new : ∀ j, Fetching { s with
        calls := Function.update s.calls s.nextCall
          (some ⟨username, .fetching (s.cache (toLower username))⟩)
        nextCall := s.nextCall + 1 } j → j = s.nextCall := fun j ⟨u, c, found⟩ => by
      by_contra other
      exact quiet j ⟨u, c, by simpa [Function.update_noteq other] using found⟩
    refine ⟨fun j (beyond : s.nextCall + 1 ≤ j) => ?_, fun i mem => ?_, order.sorted,
      fun j fetching => ?_,
      fun j j' fetching fetching' => by rw [fetching_new j fetching, fetching_new j' fetching']⟩
    · simp [Function.update_noteq (show j ≠ s.nextCall by omega), order.fresh j (by omega)]
    · exact Nat.lt_succ_of_lt (order.installsBefore i mem)
    · rw [fetching_new j fetching]
      exact order.installsBefore
  · exact { order with }

theorem install (order : InstallOrder s) {k : Nat} {username : String} {cached : Option Int}
    (found : s.calls k = some ⟨username, .fetching cached⟩) (users : List PermissionUser) :
    InstallOrder (s.respond k username cached (.users users)) := by
  have fetching : s.Fetching k := ⟨username, cached, found⟩
  have below := order.below (k := k) (by simp [found])
  have settled : InstallOrder { s with
      calls := Function.update s.calls k (some ⟨username, .rereading⟩) } :=
    order.settle rfl rfl rfl (by simp [LookupPhase.isFetching]) (by simp [found])
  refine ⟨settled.fresh, fun i mem => ?_, ?_, fun j fetching' => ?_, settled.fetchingOne⟩
  · rcases List.mem_append.1 mem with mem | mem
    · exact order.installsBefore i mem
    · rw [List.mem_singleton.1 mem]
      exact below
  · show ((s.installs ++ [(k, users)]).map Prod.fst).Pairwise (· < ·)
    rw [List.map_append, List.pairwise_append]
    refine ⟨order.sorted, List.pairwise_singleton _ _, fun a mem b last => ?_⟩
    obtain ⟨i, imem, rfl⟩ := List.mem_map.1 mem
    rw [List.mem_singleton.1 last]
    exact order.fetchingAfter k fetching i imem
  · obtain ⟨other, fetching'⟩ := fetching_update rfl (by simp [LookupPhase.isFetching]) fetching'
    exact absurd (order.fetchingOne j k fetching' fetching) other

theorem respond (order : InstallOrder s) {k : Nat} {username : String} {cached : Option Int}
    (found : s.calls k = some ⟨username, .fetching cached⟩) (result : FetchResult) :
    InstallOrder (s.respond k username cached result) := by
  cases result with
  | failed => exact order.settle rfl rfl rfl (by simp) (by simp [found])
  | unsuccessful =>
      exact order.settle rfl rfl rfl (by simp [LookupPhase.isFetching]) (by simp [found])
  | users users => exact order.install found users

theorem step (order : InstallOrder s) {e : PermissionEvent} {next : PermissionState}
    (stepped : s.stepSequential e = some next) : InstallOrder next := by
  unfold stepSequential at stepped
  split at stepped
  case isFalse => cases stepped
  case isTrue sequential =>
  cases e with
  | advance ms => cases stepped; exact { order with }
  | lookup username => cases stepped; exact order.lookup username sequential
  | respond k result =>
      simp only [PermissionState.step] at stepped
      split at stepped
      · rename_i username cached found
        cases stepped
        exact order.respond found result
      · cases stepped
  | reread k =>
      simp only [PermissionState.step] at stepped
      split at stepped
      · rename_i username found
        cases stepped
        exact order.settle rfl rfl rfl (by simp) (by simp [found])
      · cases stepped

end InstallOrder

theorem installOrder_runSequential :
    ∀ {s next : PermissionState} {events : List PermissionEvent}, InstallOrder s →
      s.runSequential events = some next → InstallOrder next := by
  intro s next events
  induction events generalizing s with
  | nil =>
      intro order ran
      cases ran
      exact order
  | cons event events ih =>
      intro order ran
      simp only [runSequential, List.foldlM_cons, Option.bind_eq_bind, Option.bind_eq_some] at ran
      obtain ⟨stepped, stepEq, rest⟩ := ran
      exact ih (order.step stepEq) rest

end PermissionState

/-- When no lookup sends a request while another is out, each response installed answers a
later request than the one installed before it, so the cache is always the answer to the
latest request answered with success. -/
theorem sequential_installs_in_request_order (cacheTTLSeconds : Nat)
    (events : List PermissionEvent) {s : PermissionState}
    (ran : (PermissionState.new cacheTTLSeconds).runSequential events = some s) :
    (s.installs.map Prod.fst).Pairwise (· < ·) :=
  (PermissionState.installOrder_runSequential (PermissionState.installOrder_new cacheTTLSeconds)
    ran).sorted

theorem sequential_installs_in_request_order_revoked :
    let events : List PermissionEvent :=
      [.lookup "alice", .respond 0 (.users [⟨"alice", 4⟩]), .reread 0, .advance 61000,
        .lookup "alice", .respond 1 (.users [⟨"alice", 0⟩]), .reread 1]
    ∃ s, (PermissionState.new 60).runSequential events = some s ∧
      (s.installs.map Prod.fst).Pairwise (· < ·) ∧ s.installs.map Prod.fst = [0, 1] ∧
      s.returned = [("alice", 4), ("alice", 0)] := by
  intro events
  refine ⟨_, rfl, ?_, rfl, rfl⟩
  exact sequential_installs_in_request_order 60 events rfl

end RmsGate.Permission
