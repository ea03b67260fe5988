import RmsGate.LoadBalancer.History

/-!
# Persisting the history

`Record` updates the cached `PeriodStats` of a period under the manager's lock and then starts
`savePeriodStats` in a goroutine of its own, handing it the pointer to that shared record.
The goroutine returns at once when no database was opened; otherwise it evaluates the
arguments of its `INSERT OR REPLACE` from the record as it stands when it runs, and executes
the statement, which fails once `Close` has closed the database.  `StartAutoSave` runs `Close`
when the load balancer shuts down, without waiting for these goroutines.
Each goroutine is two steps here: the read of the shared record, and the execution.
-/

namespace RmsGate.LoadBalancer

/-- A `savePeriodStats` goroutine that has not finished: the address and period it saves, and
the arguments it evaluated from the shared record, once it has. -/
structure PendingSave where
  addr : String
  period : Fin 96
  row : Option PeriodStats

structure PersistState where
  history : HistoryManager
  /-- `period_stats`, keyed by `backend_addr` and `period_index`. -/
  table : String → Nat → Option PeriodStats
  saves : List PendingSave
  hasDB : Bool
  dbOpen : Bool

inductive PersistEvent where
  | record (period : Fin 96) (addr : String) (latency jitter : ℚ)
  | readStats (save : Nat)
  | exec (save : Nat)
  | close

namespace PersistState

/-- A new manager over a database with no rows, so `loadFromDB` loads nothing. -/
def opened : PersistState := ⟨HistoryManager.new, fun _ _ => none, [], true, true⟩

def writeRow (s : PersistState) (addr : String) (row : PeriodStats) :
    String → Nat → Option PeriodStats :=
  Function.update s.table addr (Function.update (s.table addr) row.periodIndex (some row))

def step (s : PersistState) : PersistEvent → Option PersistState
  | .record period addr latency jitter =>
      some { s with
        history := s.history.record period addr latency jitter
        saves := s.saves ++ [⟨addr, period, none⟩] }
  | .readStats k =>
      match s.saves[k]? with
      | some ⟨addr, period, none⟩ =>
          if s.hasDB then
            some { s with
              saves := s.saves.set k
                ⟨addr, period, some ((s.history.historyOf addr).periodStats period)⟩ }
          else some { s with saves := s.saves.eraseIdx k }
      | _ => none
  | .exec k =>
      match s.saves[k]? with
      | some ⟨addr, _, some row⟩ =>
          some { s with
            saves := s.saves.eraseIdx k
            table := if s.dbOpen then s.writeRow addr row else s.table }
      | _ => none
  | .close => some { s with dbOpen := false }

def run (s : PersistState) (events : List PersistEvent) : Option PersistState :=
  events.foldlM step s

end PersistState

/-! ## Saves that lose or undo a sample -/

/-- Two runs in which `period_stats` ends up behind the cache.  A `Close` that comes before a
save's statement loses the sample: the row is never written.  And two saves of one period
whose statements run in the other order leave the first sample's row over the second's,
although every save finished before `Close`. -/
theorem asyncSaves_lose_samples :
    (∃ s, PersistState.opened.run
        [.record 0 "a" 10 1, .close, .readStats 0, .exec 0] = some s ∧
      s.table "a" 0 = none ∧
      (s.history.getCurrentPeriodStats 0 "a").map (·.samples) = some 1) ∧
    (∃ s, PersistState.opened.run
        [.record 0 "a" 10 1, .readStats 0, .record 0 "a" 20 2, .readStats 1, .exec 1, .exec 0,
          .close] = some s ∧
      s.saves = [] ∧
      (s.table "a" 0).map (fun row => (row.avgLatency, row.samples)) = some (10, 1) ∧
      (s.history.getCurrentPeriodStats 0 "a").map (·.samples) = some 2) :=
  ⟨⟨_, rfl, rfl, rfl⟩, ⟨_, rfl, rfl, by decide, rfl⟩⟩

/-! ## Synchronous saves keep the table equal to the cache -/

@[simp] theorem PeriodStats.record_samples (stats : PeriodStats) (latency jitter : ℚ) :
    (stats.record latency jitter).samples = stats.samples + 1 := by
  unfold PeriodStats.record; split <;> rfl

@[simp] theorem PeriodStats.record_periodIndex (stats : PeriodStats) (latency jitter : ℚ) :
    (stats.record latency jitter).periodIndex = stats.periodIndex := by
  unfold PeriodStats.record; split <;> rfl

namespace HistoryManager

def expectedRow (hm : HistoryManager) (addr : String) (period : Fin 96) : Option PeriodStats :=
  let stats := (hm.historyOf addr).periodStats period
  if stats.samples = 0 then none else some stats

theorem historyOf_record (hm : HistoryManager) (period : Fin 96) (addr other : String)
    (latency jitter : ℚ) :
    (hm.record period addr latency jitter).historyOf other =
      if other = addr then
        ⟨Function.update (hm.historyOf addr).periodStats period
          (((hm.historyOf addr).periodStats period).record latency jitter)⟩
      else hm.historyOf other := by
  unfold record historyOf
  split
  · subst other
    simp
  · simp [Function.update_noteq, *]

def WellIndexed (hm : HistoryManager) : Prop :=
  ∀ addr (period : Fin 96),
    0 ≤ ((hm.historyOf addr).periodStats period).samples ∧
      ((hm.historyOf addr).periodStats period).periodIndex = period

theorem wellIndexed_new : WellIndexed new := fun _ _ => ⟨le_refl _, rfl⟩

theorem WellIndexed.record {hm : HistoryManager} (indexed : WellIndexed hm) (period : Fin 96)
    (addr : String) (latency jitter : ℚ) :
    WellIndexed (hm.record period addr latency jitter) := by
  intro other slot
  rw [historyOf_record]
  split
  · subst other
    by_cases same : slot = period
    · subst slot
      have := indexed addr period
      simp only [Function.update_same, PeriodStats.record_samples, PeriodStats.record_periodIndex]
      omega
    · simpa [Function.update_noteq same] using indexed addr slot
  · exact indexed other slot

end HistoryManager

namespace PersistState

/-- The table holds, for every period, the row its cached statistics would write. -/
structure Mirrors (s : PersistState) : Prop where
  indexed : s.history.WellIndexed
  rows : ∀ addr (period : Fin 96), s.table addr period = s.history.expectedRow addr period

/-- A `Record` whose save runs to its end before anything else. -/
def syncRecord (period : Fin 96) (addr : String) (latency jitter : ℚ) : List PersistEvent :=
  [.record period addr latency jitter, .readStats 0, .exec 0]

theorem syncRecord_run {s : PersistState} (idle : s.saves = []) (hasDB : s.hasDB = true)
    (dbOpen : s.dbOpen = true) (period : Fin 96) (addr : String) (latency jitter : ℚ) :
    let history := s.history.record period addr latency jitter
    s.run (syncRecord period addr latency jitter) =
      some { s with
        history := history
        table := s.writeRow addr ((history.historyOf addr).periodStats period)
        saves := [] } := by
  simp [run, syncRecord, step, writeRow, idle, hasDB, dbOpen]

theorem Mirrors.syncRecord {s : PersistState} (mirrors : s.Mirrors) (period : Fin 96)
    (addr : String) (latency jitter : ℚ) :
    let history := s.history.record period addr latency jitter
    Mirrors { s with
      history := history
      table := s.writeRow addr ((history.historyOf addr).periodStats period)
      saves := [] } := by
  intro history
  have indexed := mirrors.indexed.record period addr latency jitter
  refine ⟨indexed, fun other slot => ?_⟩
  have before := mirrors.rows other slot
  have index := (mirrors.indexed addr period).2
  simp only [HistoryManager.expectedRow, writeRow, history, HistoryManager.historyOf_record] at before ⊢
  by_cases other_addr : other = addr
  · subst other_addr
    by_cases slot_eq : slot = period
    · subst slot_eq
      have counted := (mirrors.indexed other slot).1
      simp only [if_true, Function.update_same, PeriodStats.record_periodIndex, index,
        PeriodStats.record_samples]
      rw [if_neg (by omega)]
    · have index_ne : (slot : Nat) ≠ ((s.history.historyOf other).periodStats period).periodIndex := by
        rw [index]; exact Fin.val_ne_of_ne slot_eq
      simpa [Function.update_noteq slot_eq, Function.update_noteq index_ne] using before
  · simpa [other_addr, Function.update_noteq other_addr] using before

theorem mirrors_opened : opened.Mirrors :=
  ⟨HistoryManager.wellIndexed_new, fun _ _ => rfl⟩

theorem run_append (s : PersistState) (first rest : List PersistEvent) :
    s.run (first ++ rest) = (s.run first).bind fun s => s.run rest := by
  simp [run, List.foldlM_append]

/-- A sample `Record` takes: the period of the clock, the address and the measurements. -/
structure Sample where
  period : Fin 96
  addr : String
  latency : ℚ
  jitter : ℚ

def syncEvents : List Sample → List PersistEvent
  | [] => []
  | x :: rest => syncRecord x.period x.addr x.latency x.jitter ++ syncEvents rest

theorem Mirrors.syncEvents_run :
    ∀ (samples : List Sample) {s : PersistState}, s.Mirrors → s.saves = [] → s.hasDB = true →
      s.dbOpen = true →
      ∃ next, s.run (syncEvents samples) = some next ∧ next.Mirrors ∧ next.saves = [] ∧
        next.hasDB = true ∧ next.dbOpen = true
  | [], s, mirrors, idle, hasDB, dbOpen => ⟨s, rfl, mirrors, idle, hasDB, dbOpen⟩
  | x :: rest, s, mirrors, idle, hasDB, dbOpen => by
      obtain ⟨next, ran, later⟩ :=
        Mirrors.syncEvents_run rest (mirrors.syncRecord x.period x.addr x.latency x.jitter)
          rfl hasDB dbOpen
      exact ⟨next, by rw [syncEvents, run_append, syncRecord_run idle hasDB dbOpen]; exact ran,
        later⟩

end PersistState

/-- Over a new database, when each `Record`'s save runs to its end before the next event and
`Close` comes last, the run completes and `period_stats` holds, for every period, exactly the
row of its cached statistics: a row for each period with a sample, and none for the others. -/
theorem syncSaves_table_matches_cache (samples : List PersistState.Sample) :
    ∃ s, PersistState.opened.run (PersistState.syncEvents samples ++ [.close]) = some s ∧
      ∀ addr (period : Fin 96), s.table addr period = s.history.expectedRow addr period := by
  obtain ⟨synced, ran, mirrors, -⟩ :=
    PersistState.Mirrors.syncEvents_run samples PersistState.mirrors_opened rfl rfl rfl
  exact ⟨{ synced with dbOpen := false },
    by rw [PersistState.run_append, ran]; rfl, mirrors.rows⟩

end RmsGate.LoadBalancer
