import RmsGate.LoadBalancer.BackendInvariant
import RmsGate.LoadBalancer.History
import Mathlib.Data.Finset.Max

/-!
# Selection strategies

The five strategies of `GetStrategy`.  A strategy sees the pool's backends and returns a
pointer into the pool or `nil`; here a backend is returned with its position in the pool.
Only round-robin has state, its `atomic.Uint64` counter.  `HealthScoreStrategy` reads the
clock through `HistoricalScore`, once per scored backend, and `RandomStrategy` reads
`crypto/rand`: both readings come from a `SelectEnv`.
-/

namespace RmsGate.LoadBalancer

open RmsGate.Go

/-- `filterAvailable`, each backend paired with its position in the pool. -/
def filterAvailable (backends : List Backend) : List (Nat × Backend) :=
  backends.enum.filter fun entry => entry.2.isAvailable

/-- What one `Select` call reads from its environment. -/
structure SelectEnv where
  /-- The period `getPeriodIndex` reads while the backend at a position is scored. -/
  periodAt : Nat → Fin 96
  /-- `rand.Int(rand.Reader, bound)`: an index below the bound, or an error. -/
  randInt : (bound : Nat) → Option (Fin bound)

inductive Strategy where
  | roundRobin (counter : UInt64)
  | leastConnections
  | healthScore
  | sequential
  | random
  deriving DecidableEq

def getStrategy : String → Strategy
  | "round-robin" => .roundRobin 0
  | "least-connections" => .leastConnections
  | "health-score" => .healthScore
  | "sequential" => .sequential
  | "random" => .random
  | _ => .healthScore

def Strategy.name : Strategy → String
  | .roundRobin _ => "round-robin"
  | .leastConnections => "least-connections"
  | .healthScore => "health-score"
  | .sequential => "sequential"
  | .random => "random"

/-- `RoundRobinStrategy.Select`: the counter is incremented before it is reduced. -/
def roundRobinSelect (counter : UInt64) (backends : List Backend) :
    Option (Nat × Backend) × UInt64 :=
  let available := filterAvailable backends
  if available.length = 0 then (none, counter)
  else
    let next := counter + 1
    (available[next.toNat % available.length]?, next)

/-- One iteration of the least-connections loop; `-1` stands for "no minimum yet". -/
def leastConnectionsStep (acc : Option (Nat × Backend) × Int) (entry : Nat × Backend) :
    Option (Nat × Backend) × Int :=
  if acc.2 < 0 ∨ entry.2.currentConns < acc.2 then (some entry, entry.2.currentConns) else acc

def leastConnectionsSelect (backends : List Backend) : Option (Nat × Backend) :=
  let available := filterAvailable backends
  if available.length = 0 then none
  else (available.foldl leastConnectionsStep (none, -1)).1

def minPositiveStep (least v : ℚ) : ℚ := if v > 0 ∧ (least < 0 ∨ v < least) then v else least

def minPositive (values : List ℚ) : ℚ := values.foldl minPositiveStep (-1)

def orOne (least : ℚ) : ℚ := if least ≤ 0 then 1 else least

def referenceLatency (available : List (Nat × Backend)) : ℚ :=
  orOne (minPositive (available.map fun entry => entry.2.avgLatency))

def referenceJitter (available : List (Nat × Backend)) : ℚ :=
  orOne (minPositive (available.map fun entry => entry.2.jitter))

def historyAdjustment (env : SelectEnv) (history : Option HistoryManager)
    (entry : Nat × Backend) : Int :=
  match history with
  | none => 0
  | some hm =>
      hm.historicalScore (env.periodAt entry.1) entry.2.addr entry.2.avgLatency entry.2.jitter

/-- The score the second loop of `HealthScoreStrategy.Select` compares. -/
def combinedScore (env : SelectEnv) (history : Option HistoryManager)
    (minLatency minJitter : ℚ) (entry : Nat × Backend) : Int :=
  entry.2.relativeHealthScore minLatency minJitter + historyAdjustment env history entry

def bestScoreStep {α : Type} (score : α → Int) (acc : Option α × Int) (entry : α) :
    Option α × Int :=
  if score entry > acc.2 then (some entry, score entry) else acc

def healthScoreSelect (env : SelectEnv) (history : Option HistoryManager)
    (backends : List Backend) : Option (Nat × Backend) :=
  let available := filterAvailable backends
  if available.length = 0 then none
  else
    let score := combinedScore env history (referenceLatency available) (referenceJitter available)
    (available.foldl (bestScoreStep score) (none, -1)).1

def sequentialSelect (backends : List Backend) : Option (Nat × Backend) :=
  backends.enum.find? fun entry => entry.2.isAvailable

/-- `RandomStrategy.Select`: index `0` when the random source fails. -/
def randomSelect (env : SelectEnv) (backends : List Backend) : Option (Nat × Backend) :=
  let available := filterAvailable backends
  if available.length = 0 then none
  else
    match env.randInt available.length with
    | none => available[0]?
    | some n => available[n.val]?

/-- `Select` of each strategy, with the strategy's state after the call. -/
def Strategy.select : Strategy → SelectEnv → Option HistoryManager → List Backend →
    Option (Nat × Backend) × Strategy
  | .roundRobin counter, _, _, backends =>
      let chosen := roundRobinSelect counter backends
      (chosen.1, .roundRobin chosen.2)
  | .leastConnections, _, _, backends => (leastConnectionsSelect backends, .leastConnections)
  | .healthScore, env, history, backends => (healthScoreSelect env history backends, .healthScore)
  | .sequential, _, _, backends => (sequentialSelect backends, .sequential)
  | .random, env, _, backends => (randomSelect env backends, .random)

/-! ## The available backends -/

theorem mem_filterAvailable {backends : List Backend} {entry : Nat × Backend} :
    entry ∈ filterAvailable backends ↔
      backends[entry.1]? = some entry.2 ∧ entry.2.isAvailable = true := by
  simp [filterAvailable, List.mem_enum_iff_getElem?]

theorem filterAvailable_eq_nil {backends : List Backend} :
    filterAvailable backends = [] ↔ ∀ b ∈ backends, b.isAvailable = false := by
  simp only [filterAvailable, List.filter_eq_nil_iff, Bool.not_eq_true]
  constructor
  · intro none b mem
    obtain ⟨i, lt, rfl⟩ := List.getElem_of_mem mem
    exact none (i, backends[i]) (List.mem_enum_iff_getElem?.mpr (List.getElem?_eq_getElem lt))
  · exact fun none entry mem => none entry.2 (List.snd_mem_of_mem_enum mem)

/-! ## Scans that keep the first strictly better entry -/

section Scan

variable {α : Type} (score : α → Int)

theorem find?_congr_mem {p q : α → Bool} :
    ∀ {l : List α}, (∀ x ∈ l, p x = q x) → l.find? p = l.find? q
  | [], _ => rfl
  | x :: rest, same => by
      rw [List.find?_cons, List.find?_cons, same x (List.mem_cons_self _ _),
        find?_congr_mem fun y mem => same y (List.mem_cons_of_mem _ mem)]

theorem foldl_bestScoreStep_of_le :
    ∀ {l : List α} {acc : Option α × Int}, (∀ x ∈ l, score x ≤ acc.2) →
      l.foldl (bestScoreStep score) acc = acc
  | [], _, _ => rfl
  | x :: rest, acc, le => by
      have keep : bestScoreStep score acc x = acc := if_neg (not_lt.mpr (le x (by simp)))
      rw [List.foldl_cons, keep, foldl_bestScoreStep_of_le fun y mem => le y (by simp [mem])]

theorem foldl_bestScoreStep_find {top : Int} :
    ∀ {l : List α} {acc : Option α × Int}, (∃ x ∈ l, score x = top) →
      (∀ x ∈ l, score x ≤ top) → acc.2 < top →
      (l.foldl (bestScoreStep score) acc).1 = l.find? fun x => score x = top
  | [], _, attained, _, _ => by simp at attained
  | x :: rest, acc, attained, le, beats => by
      rw [List.foldl_cons]
      by_cases isTop : score x = top
      · have taken : bestScoreStep score acc x = (some x, top) := by
          rw [bestScoreStep, if_pos (by omega), isTop]
        rw [taken, foldl_bestScoreStep_of_le score fun y mem => le y (by simp [mem]),
          List.find?_cons_of_pos _ (by simpa using isTop)]
      · rw [List.find?_cons_of_neg _ (by simpa using isTop)]
        have below : score x < top := lt_of_le_of_ne (le x (by simp)) isTop
        refine foldl_bestScoreStep_find ?_ (fun y mem => le y (by simp [mem])) ?_
        · obtain ⟨y, mem, eq⟩ := attained
          rcases List.mem_cons.mp mem with rfl | mem
          · exact absurd eq isTop
          · exact ⟨y, mem, eq⟩
        · unfold bestScoreStep
          split
          exacts [below, beats]

theorem foldl_bestScoreStep_some :
    ∀ {l : List α} (acc : Option α × Int), (∃ x ∈ l, acc.2 < score x) →
      ∃ y ∈ l, (l.foldl (bestScoreStep score) acc).1 = some y
  | [], _, beats => by simp at beats
  | x :: rest, acc, beats => by
      rw [List.foldl_cons]
      by_cases better : acc.2 < score x
      · rw [show bestScoreStep score acc x = (some x, score x) from if_pos better]
        by_cases later : ∃ y ∈ rest, score x < score y
        · obtain ⟨y, mem, chosen⟩ := foldl_bestScoreStep_some (some x, score x) later
          exact ⟨y, List.mem_cons_of_mem _ mem, chosen⟩
        · push_neg at later
          exact ⟨x, List.mem_cons_self _ _, by rw [foldl_bestScoreStep_of_le score later]⟩
      · rw [show bestScoreStep score acc x = acc from if_neg better]
        obtain ⟨y, mem, chosen⟩ := foldl_bestScoreStep_some acc (by
          obtain ⟨z, mem, lt⟩ := beats
          rcases List.mem_cons.mp mem with rfl | mem
          · exact absurd lt better
          · exact ⟨z, mem, lt⟩)
        exact ⟨y, List.mem_cons_of_mem _ mem, chosen⟩

end Scan

/-! ## Least connections -/

section LeastConnections

theorem foldl_leastConnectionsStep_of_le :
    ∀ {l : List (Nat × Backend)} {acc : Option (Nat × Backend) × Int}, 0 ≤ acc.2 →
      (∀ x ∈ l, acc.2 ≤ x.2.currentConns) → l.foldl leastConnectionsStep acc = acc
  | [], _, _, _ => rfl
  | x :: rest, acc, nonneg, le => by
      have keep : leastConnectionsStep acc x = acc := by
        rw [leastConnectionsStep, if_neg]
        have := le x (by simp)
        omega
      rw [List.foldl_cons, keep,
        foldl_leastConnectionsStep_of_le nonneg fun y mem => le y (by simp [mem])]

theorem foldl_leastConnectionsStep_find {least : Int} (nonneg : 0 ≤ least) :
    ∀ {l : List (Nat × Backend)} {acc : Option (Nat × Backend) × Int},
      (∃ x ∈ l, x.2.currentConns = least) → (∀ x ∈ l, least ≤ x.2.currentConns) →
      (acc.2 < 0 ∨ least < acc.2) →
      (l.foldl leastConnectionsStep acc).1 = l.find? fun x => x.2.currentConns = least
  | [], _, attained, _, _ => by simp at attained
  | x :: rest, acc, attained, le, open_ => by
      rw [List.foldl_cons]
      by_cases isLeast : x.2.currentConns = least
      · have taken : leastConnectionsStep acc x = (some x, least) := by
          rw [leastConnectionsStep, if_pos (by omega), isLeast]
        rw [taken, foldl_leastConnectionsStep_of_le nonneg fun y mem => le y (by simp [mem]),
          List.find?_cons_of_pos _ (by simpa using isLeast)]
      · rw [List.find?_cons_of_neg _ (by simpa using isLeast)]
        have above : least < x.2.currentConns := lt_of_le_of_ne (le x (by simp)) (Ne.symm isLeast)
        refine foldl_leastConnectionsStep_find nonneg ?_ (fun y mem => le y (by simp [mem])) ?_
        · obtain ⟨y, mem, eq⟩ := attained
          rcases List.mem_cons.mp mem with rfl | mem
          · exact absurd eq isLeast
          · exact ⟨y, mem, eq⟩
        · unfold leastConnectionsStep
          split
          exacts [.inr above, open_]

theorem foldl_leastConnectionsStep_mem :
    ∀ (l : List (Nat × Backend)) (acc : Option (Nat × Backend) × Int),
      (l.foldl leastConnectionsStep acc).1 = acc.1 ∨
        ∃ y ∈ l, (l.foldl leastConnectionsStep acc).1 = some y
  | [], _ => .inl rfl
  | x :: rest, acc => by
      rw [List.foldl_cons]
      rcases foldl_leastConnectionsStep_mem rest (leastConnectionsStep acc x)
        with same | ⟨y, mem, chosen⟩
      · by_cases taken : acc.2 < 0 ∨ x.2.currentConns < acc.2
        · have step : leastConnectionsStep acc x = (some x, x.2.currentConns) := if_pos taken
          rw [step] at same ⊢
          exact .inr ⟨x, List.mem_cons_self _ _, same⟩
        · have step : leastConnectionsStep acc x = acc := if_neg taken
          rw [step] at same ⊢
          exact .inl same
      · exact .inr ⟨y, List.mem_cons_of_mem _ mem, chosen⟩

end LeastConnections

/-! ## What each strategy returns -/

/-- The contract `Dial` relies on: `nil` exactly when nothing is available, otherwise an
available backend of the pool. -/
def SelectsAvailable (backends : List Backend) (chosen : Option (Nat × Backend)) : Prop :=
  (chosen = none ↔ filterAvailable backends = []) ∧
    ∀ entry, chosen = some entry → entry ∈ filterAvailable backends

theorem selectsAvailable_of_getElem? {backends : List Backend} {n : Nat}
    (lt : n < (filterAvailable backends).length) :
    SelectsAvailable backends (filterAvailable backends)[n]? := by
  refine ⟨⟨fun none => ?_, fun empty => ?_⟩, fun entry chosen => List.getElem?_mem chosen⟩
  · simp [List.getElem?_eq_getElem lt] at none
  · simp [empty] at lt

theorem roundRobinSelect_fst (counter : UInt64) {backends : List Backend}
    (nonempty : filterAvailable backends ≠ []) :
    (roundRobinSelect counter backends).1 =
      (filterAvailable backends)[(counter + 1).toNat % (filterAvailable backends).length]? := by
  simp [roundRobinSelect, List.length_eq_zero.not.mpr nonempty]

theorem roundRobinSelect_selectsAvailable (counter : UInt64) (backends : List Backend) :
    SelectsAvailable backends (roundRobinSelect counter backends).1 := by
  by_cases empty : filterAvailable backends = []
  · simp [SelectsAvailable, roundRobinSelect, empty]
  · rw [roundRobinSelect_fst counter empty]
    exact selectsAvailable_of_getElem? (Nat.mod_lt _ (List.length_pos.mpr empty))

theorem leastConnectionsSelect_selectsAvailable (backends : List Backend) :
    SelectsAvailable backends (leastConnectionsSelect backends) := by
  unfold leastConnectionsSelect
  dsimp only
  split
  · rename_i empty
    simp [SelectsAvailable, List.length_eq_zero.mp empty]
  · rename_i nonempty
    obtain ⟨first, rest, split⟩ := List.exists_cons_of_ne_nil (List.length_eq_zero.not.mp nonempty)
    simp only [split, List.foldl_cons]
    have firstTaken : leastConnectionsStep (none, -1) first = (some first, first.2.currentConns) :=
      if_pos (.inl (by decide))
    rw [firstTaken]
    have landed : ∃ y ∈ filterAvailable backends,
        (rest.foldl leastConnectionsStep (some first, first.2.currentConns)).1 = some y := by
      rw [split]
      rcases foldl_leastConnectionsStep_mem rest (some first, first.2.currentConns) with
        same | ⟨y, mem, chosen⟩
      · exact ⟨first, List.mem_cons_self _ _, same⟩
      · exact ⟨y, List.mem_cons_of_mem _ mem, chosen⟩
    obtain ⟨y, mem, chosen⟩ := landed
    refine ⟨⟨fun none => by simp [chosen] at none, fun empty => by simp [split] at empty⟩, ?_⟩
    intro entry some
    rw [chosen, Option.some.injEq] at some
    exact some ▸ mem

/-- For non-negative counts, least-connections returns the first available backend whose
count is minimal. -/
theorem leastConnectionsSelect_first_least {backends : List Backend}
    (nonneg : ∀ entry ∈ filterAvailable backends, 0 ≤ entry.2.currentConns) :
    leastConnectionsSelect backends = (filterAvailable backends).find? fun entry =>
      (filterAvailable backends).all fun other => entry.2.currentConns ≤ other.2.currentConns := by
  set available := filterAvailable backends
  unfold leastConnectionsSelect
  dsimp only
  split
  · rename_i empty
    simp [available, List.length_eq_zero.mp empty]
  · rename_i nonempty
    have nonempty' : available.toFinset.Nonempty :=
      List.toFinset_nonempty_iff _ |>.mpr (List.length_eq_zero.not.mp nonempty)
    obtain ⟨least, leastMem, minimal⟩ :=
      available.toFinset.exists_min_image (fun entry => entry.2.currentConns) nonempty'
    simp only [List.mem_toFinset] at leastMem minimal
    rw [foldl_leastConnectionsStep_find (nonneg least leastMem) ⟨least, leastMem, rfl⟩
      (fun x mem => minimal x mem) (.inl (by decide))]
    refine find?_congr_mem fun x mem => ?_
    have xAbove := minimal x mem
    rw [Bool.eq_iff_iff, decide_eq_true_iff, List.all_eq_true]
    constructor
    · intro eq other otherMem
      exact decide_eq_true (eq ▸ minimal other otherMem)
    · intro all
      have := of_decide_eq_true (all least leastMem)
      omega

theorem sequentialSelect_selectsAvailable (backends : List Backend) :
    SelectsAvailable backends (sequentialSelect backends) := by
  refine ⟨⟨fun none => ?_, fun empty => ?_⟩, fun entry chosen => ?_⟩
  · rw [sequentialSelect, List.find?_eq_none] at none
    exact List.filter_eq_nil_iff.mpr none
  · rw [sequentialSelect, List.find?_eq_none]
    exact List.filter_eq_nil_iff.mp empty
  · rw [sequentialSelect] at chosen
    exact List.mem_filter.mpr ⟨List.mem_of_find?_eq_some chosen, List.find?_some (p := fun entry : Nat × Backend => entry.2.isAvailable) chosen⟩

theorem randomSelect_selectsAvailable (env : SelectEnv) (backends : List Backend) :
    SelectsAvailable backends (randomSelect env backends) := by
  unfold randomSelect
  dsimp only
  split
  · rename_i empty
    simp [SelectsAvailable, List.length_eq_zero.mp empty]
  · rename_i nonempty
    split
    · exact selectsAvailable_of_getElem? (Nat.pos_of_ne_zero nonempty)
    · exact selectsAvailable_of_getElem? (Fin.isLt _)

end RmsGate.LoadBalancer
