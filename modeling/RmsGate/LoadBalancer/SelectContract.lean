import RmsGate.LoadBalancer.HealthScore

/-!
# What `Dial` can rely on from `Select`

Every strategy returns `nil` exactly when no backend is available, and otherwise an
available backend of the pool; each also returns the backend its own rule names.  For
least-connections the rule holds while counts are non-negative: its loop reads `-1` as
"no minimum yet", so a count that has wrapped below zero is always replaced.
-/

namespace RmsGate.LoadBalancer

open RmsGate.Go

theorem Strategy.select_selectsAvailable (strategy : Strategy) (env : SelectEnv)
    (history : Option HistoryManager) {backends : List Backend}
    (reachable : strategy = .healthScore → ∀ b ∈ backends, b.Reachable) :
    SelectsAvailable backends (strategy.select env history backends).1 := by
  cases strategy with
  | roundRobin counter => exact roundRobinSelect_selectsAvailable counter backends
  | leastConnections => exact leastConnectionsSelect_selectsAvailable backends
  | healthScore => exact healthScoreSelect_selectsAvailable env history (reachable rfl)
  | sequential => exact sequentialSelect_selectsAvailable backends
  | random => exact randomSelect_selectsAvailable env backends

/-- `Select` returns `nil` exactly when no backend is available and otherwise an available
backend of the pool; sequential returns the first available backend, least-connections the
first one of least count when no count is negative, round-robin the entry after the counter,
and health-score always has a candidate with a non-negative combined score. -/
theorem select_contract (strategy : Strategy) (env : SelectEnv)
    (history : Option HistoryManager) {backends : List Backend}
    (reachable : strategy = .healthScore → ∀ b ∈ backends, b.Reachable) :
    let chosen := (strategy.select env history backends).1
    let available := filterAvailable backends
    (chosen = none ↔ ∀ b ∈ backends, b.isAvailable = false) ∧
      (∀ i b, chosen = some (i, b) → backends[i]? = some b ∧ b.isAvailable = true) ∧
      (strategy = .sequential → chosen = backends.enum.find? fun entry => entry.2.isAvailable) ∧
      (strategy = .leastConnections → (∀ entry ∈ available, 0 ≤ entry.2.currentConns) →
        chosen = available.find? fun entry =>
          available.all fun other => entry.2.currentConns ≤ other.2.currentConns) ∧
      (∀ counter, strategy = .roundRobin counter → available ≠ [] →
        chosen = available[(counter + 1).toNat % available.length]?) ∧
      (strategy = .healthScore → available ≠ [] → ∃ entry ∈ available,
        0 ≤ combinedScore env history (referenceLatency available) (referenceJitter available)
          entry) := by
  intro chosen available
  obtain ⟨noneIff, chosenMem⟩ := strategy.select_selectsAvailable env history reachable
  refine ⟨noneIff.trans filterAvailable_eq_nil, fun i b some => ?_, ?_, ?_, ?_, ?_⟩
  · exact mem_filterAvailable.mp (chosenMem _ some)
  · rintro rfl
    rfl
  · rintro rfl nonneg
    exact leastConnectionsSelect_first_least nonneg
  · rintro counter rfl nonempty
    exact roundRobinSelect_fst counter nonempty
  · rintro rfl nonempty
    exact exists_combinedScore_nonneg env history (reachable rfl) nonempty

theorem select_contract_health_score :
    let fresh : Backend :=
      { addr := "192.168.1.10:25565", maxConnections := 50, currentConns := 0, failCount := 0,
        successCount := 0, healthy := true, disabled := false, latencyWindow := [],
        windowSize := 20, lastCheckTime := 0, players := ∅, trustCoeff := 100 }
    let probed : Backend := { fresh with addr := "192.168.1.11:25565", latencyWindow := [10] }
    let env : SelectEnv := ⟨fun _ => 0, fun _ => none⟩
    let backends := [fresh, probed]
    let chosen := (Strategy.healthScore.select env (some HistoryManager.new) backends).1
    let available := filterAvailable backends
    (Strategy.healthScore = .healthScore → ∀ b ∈ backends, b.Reachable) ∧
      (chosen = none ↔ ∀ b ∈ backends, b.isAvailable = false) ∧
      (∀ i b, chosen = some (i, b) → backends[i]? = some b ∧ b.isAvailable = true) ∧
      (Strategy.healthScore = .sequential →
        chosen = backends.enum.find? fun entry => entry.2.isAvailable) ∧
      (Strategy.healthScore = .leastConnections → (∀ entry ∈ available, 0 ≤ entry.2.currentConns) →
        chosen = available.find? fun entry =>
          available.all fun other => entry.2.currentConns ≤ other.2.currentConns) ∧
      (∀ counter, Strategy.healthScore = .roundRobin counter → available ≠ [] →
        chosen = available[(counter + 1).toNat % available.length]?) ∧
      (Strategy.healthScore = .healthScore → available ≠ [] → ∃ entry ∈ available,
        0 ≤ combinedScore env (some HistoryManager.new) (referenceLatency available)
          (referenceJitter available) entry) := by
  intro fresh probed env backends chosen available
  have reachable : Strategy.healthScore = .healthScore → ∀ b ∈ backends, b.Reachable := by
    simp only [backends, List.mem_cons, List.mem_singleton, List.not_mem_nil, or_false]
    rintro - b (rfl | rfl)
    · exact .init (show newBackend "192.168.1.10:25565" 50 20 = some _ from rfl)
    · exact .step (.init (show newBackend "192.168.1.11:25565" 50 20 = some _ from rfl))
        (.recordLatency (show (0 : Int) ≤ 10000000 by norm_num) rfl)
  exact ⟨reachable, select_contract .healthScore env (some HistoryManager.new) reachable⟩

/-! ## A wrapped count -/

/-- `AddPlayer` with one name, `count` times, from a fresh backend. -/
def addPlayerTimes (b : Backend) (name : String) : Nat → Backend
  | 0 => b
  | count + 1 => (addPlayerTimes b name count).addPlayer name

theorem addPlayerTimes_reachable {b : Backend} (reachable : b.Reachable) (name : String) :
    ∀ count, (addPlayerTimes b name count).Reachable
  | 0 => reachable
  | count + 1 => .step (addPlayerTimes_reachable reachable name count) (.addPlayer _ name)

/-- Below the top of the `int32` range every `AddPlayer` counts one more. -/
theorem addPlayerTimes_below {b : Backend} (fresh : b.currentConns = 0) (name : String) :
    ∀ count, count < 2 ^ 31 - 1 →
      addPlayerTimes b name (count + 1) =
        { b with players := insert name b.players, currentConns := (count : Int) + 1 }
  | 0, _ => by simp [addPlayerTimes, Backend.addPlayer, fresh, toInt32]
  | count + 1, below => by
      rw [addPlayerTimes, addPlayerTimes_below fresh name count (by omega)]
      simp only [Backend.addPlayer, Finset.insert_idem]
      rw [toInt32_add_one (x := (count : Int) + 1) (by omega) (by omega)]
      push_cast
      rfl

/-- After `2^31` attachments of one name, the connection count of an unbounded backend has
wrapped to `-2^31`, and least-connections then prefers a backend with one player. -/
theorem leastConnections_skips_wrapped_count :
    let fresh : Backend :=
      { addr := "192.168.1.10:25565", maxConnections := 0, currentConns := 0, failCount := 0,
        successCount := 0, healthy := true, disabled := false, latencyWindow := [],
        windowSize := 20, lastCheckTime := 0, players := ∅, trustCoeff := 100 }
    let wrapped : Backend := { fresh with currentConns := -2 ^ 31, players := {"steve"} }
    let loaded : Backend :=
      { fresh with addr := "192.168.1.11:25565", currentConns := 1, players := {"alex"} }
    wrapped.Reachable ∧ loaded.Reachable ∧
      leastConnectionsSelect [wrapped, loaded] = some (1, loaded) ∧
      wrapped.currentConns < loaded.currentConns := by
  intro fresh wrapped loaded
  have built : fresh.Reachable :=
    .init (show newBackend "192.168.1.10:25565" 0 20 = some fresh from rfl)
  have builtOther : { fresh with addr := "192.168.1.11:25565" }.Reachable :=
    .init (show newBackend "192.168.1.11:25565" 0 20 = some _ from rfl)
  have wraps : addPlayerTimes fresh "steve" (2147483646 + 1 + 1) = wrapped := by
    rw [addPlayerTimes, addPlayerTimes_below rfl "steve" 2147483646 (by norm_num)]
    decide
  have attached : addPlayerTimes { fresh with addr := "192.168.1.11:25565" } "alex" 1 = loaded :=
    rfl
  refine ⟨wraps ▸ addPlayerTimes_reachable built "steve" _,
    attached ▸ addPlayerTimes_reachable builtOther "alex" 1, by decide, by decide⟩

end RmsGate.LoadBalancer
