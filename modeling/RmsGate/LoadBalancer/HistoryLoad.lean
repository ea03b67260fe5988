import RmsGate.LoadBalancer.HistoryPersistence

/-!
# Loading the history back

`NewHistoryManager` opens the database, creates `period_stats` when it is missing, and runs
`loadFromDB`, which reads every row into the empty cache: a row first gives its address the
history `Record` would make for it, every period at zero under its own label, and then
replaces its period when the index is in `0..95`.  The rows come in whatever order `SELECT`
returns them.  A row is scanned into `string, int, string, float64, float64, int`, the types
`savePeriodStats` writes, so the scan of a row it wrote never fails.
The main result is the round trip of a restart: over the table that synchronous saves leave
behind, `loadFromDB` rebuilds exactly the cache of the manager that wrote it.
-/

namespace RmsGate.LoadBalancer

/-- A row of `period_stats`, as `loadFromDB` scans it. -/
structure StatsRow where
  addr : String
  periodIndex : Int
  periodLabel : String
  avgLatency : ℚ
  avgJitter : ℚ
  samples : Int
  deriving DecidableEq

/-- The arguments of `savePeriodStats`'s `INSERT OR REPLACE` for a record. -/
def StatsRow.ofStats (addr : String) (stats : PeriodStats) : StatsRow :=
  ⟨addr, stats.periodIndex, stats.periodLabel, stats.avgLatency, stats.avgJitter, stats.samples⟩

def StatsRow.stats (row : StatsRow) : PeriodStats :=
  { avgLatency := row.avgLatency, avgJitter := row.avgJitter, samples := row.samples,
    periodIndex := row.periodIndex.toNat, periodLabel := row.periodLabel }

@[simp] theorem StatsRow.ofStats_stats (addr : String) (stats : PeriodStats) :
    (StatsRow.ofStats addr stats).stats = stats := rfl

def HoldsRow (table : String → Nat → Option PeriodStats) (row : StatsRow) : Prop :=
  0 ≤ row.periodIndex ∧ table row.addr row.periodIndex.toNat = some row.stats

namespace HistoryManager

def loadRow (hm : HistoryManager) (row : StatsRow) : HistoryManager :=
  let history := hm.historyOf row.addr
  let history : BackendHistory :=
    if inRange : 0 ≤ row.periodIndex ∧ row.periodIndex < 96 then
      ⟨Function.update history.periodStats ⟨row.periodIndex.toNat, by omega⟩ row.stats⟩
    else history
  ⟨Function.update hm.cache row.addr (some history)⟩

/-- `NewHistoryManager`, given what its `SELECT` returned: `none` when `initDB` opened no
database or the query failed, and the cache then stays empty. -/
def newHistoryManager (query : Option (List StatsRow)) : HistoryManager :=
  match query with
  | none => new
  | some rows => rows.foldl loadRow new

theorem loadRow_cache_isSome (hm : HistoryManager) (row : StatsRow) (addr : String) :
    ((hm.loadRow row).cache addr).isSome = ((hm.cache addr).isSome || row.addr == addr) := by
  unfold loadRow
  by_cases same : addr = row.addr
  · subst same
    simp
  · simp [Function.update_noteq same, Ne.symm same]

theorem loadRow_periodStats (hm : HistoryManager) (row : StatsRow) (addr : String)
    (period : Fin 96) :
    ((hm.loadRow row).historyOf addr).periodStats period =
      if row.addr = addr ∧ row.periodIndex = period then row.stats
      else (hm.historyOf addr).periodStats period := by
  unfold loadRow
  by_cases same : addr = row.addr
  · subst same
    simp only [historyOf, Function.update_same, Option.getD_some, true_and]
    split_ifs with inRange index index
    · have slot : (⟨row.periodIndex.toNat, by omega⟩ : Fin 96) = period := Fin.ext (by simp [index])
      simp only [Function.update_apply, if_pos slot.symm]
    · have : (⟨row.periodIndex.toNat, by omega⟩ : Fin 96) ≠ period := by
        intro eq; apply index; rw [← eq]; simp; omega
      simp [Function.update_noteq this.symm]
    · omega
    · rfl
  · simp [historyOf, Function.update_noteq same, Ne.symm same]

theorem foldl_loadRow_cache_isSome (addr : String) :
    ∀ (rows : List StatsRow) (hm : HistoryManager),
      ((rows.foldl loadRow hm).cache addr).isSome ↔
        (hm.cache addr).isSome ∨ ∃ row ∈ rows, row.addr = addr
  | [], hm => by simp
  | row :: rows, hm => by
      rw [List.foldl_cons, foldl_loadRow_cache_isSome addr rows, loadRow_cache_isSome]
      simp only [Bool.or_eq_true, beq_iff_eq, List.mem_cons, exists_eq_or_imp]
      tauto

theorem foldl_loadRow_periodStats (addr : String) (period : Fin 96) (stats : PeriodStats) :
    ∀ (rows : List StatsRow) (hm : HistoryManager),
      ((hm.historyOf addr).periodStats period = stats ∨
          ∃ row ∈ rows, row.addr = addr ∧ row.periodIndex = period) →
      (∀ row ∈ rows, row.addr = addr → row.periodIndex = period → row.stats = stats) →
      ((rows.foldl loadRow hm).historyOf addr).periodStats period = stats
  | [], hm, start, _ => by simpa using start
  | row :: rows, hm, start, agree => by
      rw [List.foldl_cons]
      refine foldl_loadRow_periodStats addr period stats rows _ ?_
        fun other mem => agree other (List.mem_cons_of_mem _ mem)
      rw [loadRow_periodStats]
      by_cases key : row.addr = addr ∧ row.periodIndex = period
      · exact .inl (by rw [if_pos key]; exact agree row (List.mem_cons_self _ _) key.1 key.2)
      · rw [if_neg key]
        rcases start with start | ⟨other, mem, key'⟩
        · exact .inl start
        · rcases List.mem_cons.mp mem with rfl | mem
          · exact absurd key' key
          · exact .inr ⟨other, mem, key'⟩

end HistoryManager

/-! ## What a history keeps for its unsampled periods -/

namespace HistoryManager

/-- The periods without a sample are as `Record` made them, and every cached address has a
sampled period. -/
structure Sampled (hm : HistoryManager) : Prop where
  fresh : ∀ addr (period : Fin 96), ((hm.historyOf addr).periodStats period).samples = 0 →
    (hm.historyOf addr).periodStats period = BackendHistory.empty.periodStats period
  cached : ∀ addr, (hm.cache addr).isSome →
    ∃ period : Fin 96, ((hm.historyOf addr).periodStats period).samples ≠ 0

theorem sampled_new : Sampled new := ⟨fun _ _ _ => rfl, fun _ none => by simp [new] at none⟩

theorem Sampled.record {hm : HistoryManager} (indexed : hm.WellIndexed) (sampled : hm.Sampled)
    (period : Fin 96) (addr : String) (latency jitter : ℚ) :
    (hm.record period addr latency jitter).Sampled := by
  have counted : ((hm.historyOf addr).periodStats period).samples + 1 ≠ 0 := by
    have := (indexed addr period).1; omega
  constructor
  · intro other slot zero
    rw [historyOf_record] at zero ⊢
    split_ifs at zero ⊢ with same
    · by_cases at_period : slot = period
      · subst at_period
        simp only [Function.update_same, PeriodStats.record_samples] at zero
        exact absurd zero counted
      · simp only [Function.update_noteq at_period] at zero ⊢
        exact sampled.fresh _ _ zero
    · exact sampled.fresh other slot zero
  · intro other cached
    rw [historyOf_record]
    by_cases same : other = addr
    · subst same
      exact ⟨period, by simpa using counted⟩
    · have kept : (hm.record period addr latency jitter).cache other = hm.cache other := by
        simp [HistoryManager.record, Function.update_noteq same]
      simpa [same] using sampled.cached other (kept ▸ cached)

end HistoryManager

/-! ## The round trip of a restart -/

namespace PersistState

/-- What survives a restart: the table mirrors the cache, holds no row past period 95, and the
cache keeps its unsampled periods as `Record` made them. -/
structure Restorable (s : PersistState) : Prop where
  mirrors : s.Mirrors
  inRange : ∀ addr n, 96 ≤ n → s.table addr n = none
  sampled : s.history.Sampled

theorem restorable_opened : opened.Restorable :=
  ⟨mirrors_opened, fun _ _ _ => rfl, HistoryManager.sampled_new⟩

theorem Restorable.syncRecord {s : PersistState} (restorable : s.Restorable) (period : Fin 96)
    (addr : String) (latency jitter : ℚ) :
    let history := s.history.record period addr latency jitter
    Restorable { s with
      history := history
      table := s.writeRow addr ((history.historyOf addr).periodStats period)
      saves := [] } := by
  intro history
  have mirrors := restorable.mirrors.syncRecord period addr latency jitter
  refine ⟨mirrors, fun other n beyond => ?_,
    restorable.sampled.record restorable.mirrors.indexed period addr latency jitter⟩
  have index := (mirrors.indexed addr period).2
  have written : n ≠ ((history.historyOf addr).periodStats period).periodIndex := by
    rw [index]; omega
  by_cases same : other = addr
  · subst same
    simpa [writeRow, Function.update_noteq written] using restorable.inRange other n beyond
  · simpa [writeRow, Function.update_noteq same] using restorable.inRange other n beyond

theorem Restorable.syncEvents_run :
    ∀ (samples : List Sample) {s : PersistState}, s.Restorable → s.saves = [] →
      s.hasDB = true → s.dbOpen = true →
      ∃ next, s.run (syncEvents samples) = some next ∧ next.Restorable ∧ next.saves = [] ∧
        next.hasDB = true ∧ next.dbOpen = true
  | [], s, restorable, idle, hasDB, dbOpen => ⟨s, rfl, restorable, idle, hasDB, dbOpen⟩
  | x :: rest, s, restorable, idle, hasDB, dbOpen => by
      obtain ⟨next, ran, later⟩ :=
        Restorable.syncEvents_run rest
          (restorable.syncRecord x.period x.addr x.latency x.jitter) rfl hasDB dbOpen
      exact ⟨next, by rw [syncEvents, run_append, syncRecord_run idle hasDB dbOpen]; exact ran,
        later⟩

theorem Restorable.holdsRow {s : PersistState} (restorable : s.Restorable) (addr : String)
    (period : Fin 96) (sampled : ((s.history.historyOf addr).periodStats period).samples ≠ 0) :
    HoldsRow s.table (.ofStats addr ((s.history.historyOf addr).periodStats period)) := by
  have index := (restorable.mirrors.indexed addr period).2
  refine ⟨Int.ofNat_nonneg _, ?_⟩
  show s.table addr (((s.history.historyOf addr).periodStats period).periodIndex : Int).toNat =
    some ((s.history.historyOf addr).periodStats period)
  rw [Int.toNat_ofNat, index, restorable.mirrors.rows]
  simp [HistoryManager.expectedRow, sampled]

theorem Restorable.of_holdsRow {s : PersistState} (restorable : s.Restorable) {row : StatsRow}
    (holds : HoldsRow s.table row) :
    ∃ period : Fin 96, row.periodIndex = period ∧
      ((s.history.historyOf row.addr).periodStats period).samples ≠ 0 ∧
      row.stats = (s.history.historyOf row.addr).periodStats period := by
  obtain ⟨nonneg, entry⟩ := holds
  have below : row.periodIndex.toNat < 96 := by
    by_contra beyond
    rw [restorable.inRange _ _ (by omega)] at entry
    cases entry
  refine ⟨⟨_, below⟩, by simp [nonneg], ?_⟩
  have rows := restorable.mirrors.rows row.addr ⟨_, below⟩
  rw [HistoryManager.expectedRow] at rows
  simp only at rows
  rw [entry] at rows
  split at rows
  · cases rows
  · exact ⟨‹_›, Option.some.inj rows⟩

end PersistState

theorem BackendHistory.eq_of_periodStats {history other : BackendHistory}
    (same : ∀ period, history.periodStats period = other.periodStats period) :
    history = other := by
  cases history; cases other; congr; funext period; exact same period

theorem PersistState.Restorable.load_periodStats {s : PersistState} (restorable : s.Restorable)
    {rows : List StatsRow} (selected : ∀ row, row ∈ rows ↔ HoldsRow s.table row) (addr : String)
    (slot : Fin 96) :
    ((rows.foldl HistoryManager.loadRow HistoryManager.new).historyOf addr).periodStats slot =
      (s.history.historyOf addr).periodStats slot := by
  apply HistoryManager.foldl_loadRow_periodStats
  · by_cases zero : ((s.history.historyOf addr).periodStats slot).samples = 0
    · exact .inl (restorable.sampled.fresh addr slot zero).symm
    · have index := (restorable.mirrors.indexed addr slot).2
      exact .inr ⟨_, (selected _).mpr (restorable.holdsRow addr slot zero), rfl,
        by simp [StatsRow.ofStats, index]⟩
  · rintro row mem rfl index
    obtain ⟨period, at_period, -, stats⟩ := restorable.of_holdsRow ((selected row).mp mem)
    obtain rfl : period = slot := Fin.ext (by omega)
    exact stats

/-- Loading every row of the table of a restorable state gives back its cache, whatever order
the rows come in. -/
theorem PersistState.Restorable.load {s : PersistState} (restorable : s.Restorable)
    {rows : List StatsRow} (selected : ∀ row, row ∈ rows ↔ HoldsRow s.table row) :
    HistoryManager.newHistoryManager (some rows) = s.history := by
  show rows.foldl HistoryManager.loadRow HistoryManager.new = s.history
  apply HistoryManager.eq_of_cache
  intro addr
  have named : ((rows.foldl HistoryManager.loadRow HistoryManager.new).cache addr).isSome ↔
      ∃ row ∈ rows, row.addr = addr :=
    (HistoryManager.foldl_loadRow_cache_isSome addr rows _).trans (by simp [HistoryManager.new])
  cases cached : s.history.cache addr with
  | none =>
      apply Option.not_isSome_iff_eq_none.mp
      rw [named]
      rintro ⟨row, mem, rfl⟩
      obtain ⟨period, -, sampled, -⟩ := restorable.of_holdsRow ((selected row).mp mem)
      apply sampled
      simp [HistoryManager.historyOf, cached, BackendHistory.empty]
  | some history =>
      obtain ⟨period, sampled⟩ := restorable.sampled.cached addr (by simp [cached])
      obtain ⟨loaded, isLoaded⟩ := Option.isSome_iff_exists.mp (named.mpr
        ⟨_, (selected _).mpr (restorable.holdsRow addr period sampled), rfl⟩)
      rw [isLoaded]
      congr 1
      apply BackendHistory.eq_of_periodStats
      intro slot
      simpa [HistoryManager.historyOf, isLoaded, cached] using
        restorable.load_periodStats selected addr slot

/-- **A restart rebuilds the cache.**  Over a new database, when each `Record`'s save runs to
its end before the next event and the load balancer then shuts down, `NewHistoryManager` over
the same database loads back exactly the cache the manager had, whatever order `SELECT`
returns the rows of `period_stats` in. -/
theorem restart_restores_history (samples : List PersistState.Sample) :
    ∃ s, PersistState.opened.run (PersistState.syncEvents samples ++ [.close]) = some s ∧
      ∀ rows : List StatsRow, (∀ row, row ∈ rows ↔ HoldsRow s.table row) →
        HistoryManager.newHistoryManager (some rows) = s.history := by
  obtain ⟨synced, ran, restorable, -⟩ :=
    PersistState.Restorable.syncEvents_run samples PersistState.restorable_opened rfl rfl rfl
  exact ⟨{ synced with dbOpen := false }, by rw [PersistState.run_append, ran]; rfl,
    fun _ selected => restorable.load selected⟩

theorem restart_restores_history_one_sample :
    ∃ s, PersistState.opened.run (PersistState.syncEvents [⟨0, "a", 10, 1⟩] ++ [.close]) =
        some s ∧
      HistoryManager.newHistoryManager (some [⟨"a", 0, "00:00-00:15", 10, 1, 1⟩]) = s.history := by
  obtain ⟨s, ran, restores⟩ := restart_restores_history [⟨0, "a", 10, 1⟩]
  refine ⟨s, ran, restores _ fun row => ?_⟩
  rw [PersistState.run_append, PersistState.syncEvents, PersistState.syncEvents, List.append_nil,
    PersistState.syncRecord_run rfl rfl rfl] at ran
  simp only [Option.some_bind, PersistState.run, List.foldlM_cons, List.foldlM_nil,
    PersistState.step] at ran
  cases ran
  have saved : ((PersistState.opened.history.record 0 "a" 10 1).historyOf "a").periodStats 0 =
      StatsRow.stats ⟨"a", 0, "00:00-00:15", 10, 1, 1⟩ := by decide
  rw [saved]
  constructor
  · intro mem
    rw [List.mem_singleton.mp mem]
    exact ⟨le_refl _, rfl⟩
  · rintro ⟨nonneg, entry⟩
    obtain ⟨addr, periodIndex, periodLabel, avgLatency, avgJitter, samples⟩ := row
    simp only [PersistState.writeRow, StatsRow.stats, Function.update_apply] at entry
    by_cases same : addr = "a"
    · rw [if_pos same, Function.update_apply] at entry
      split_ifs at entry with index
      · simp only [Option.some.injEq, PeriodStats.mk.injEq] at entry
        obtain ⟨rfl, rfl, rfl, -, rfl⟩ := entry
        obtain rfl : periodIndex = 0 := by simp only at index nonneg; omega
        subst same
        exact List.mem_singleton_self _
      · cases entry
    · rw [if_neg same] at entry
      cases entry

end RmsGate.LoadBalancer
