import RmsGate.LoadBalancer.Backend

/-!
# The sliding latency window

`RecordLatency` keeps the newest `windowSize` samples.  For a positive size it never
panics and the window is exactly the tail of the samples; for size zero the eviction
branch slices an empty window, so the first sample already panics.
-/

namespace RmsGate.LoadBalancer

open RmsGate.Go

def newest {α : Type} (k : Nat) (l : List α) : List α := l.drop (l.length - k)

theorem newest_length_le {α : Type} (k : Nat) (l : List α) : (newest k l).length ≤ k := by
  simp only [newest, List.length_drop]
  omega

theorem newest_append_newest {α : Type} (k : Nat) (l more : List α) :
    newest k (newest k l ++ more) = newest k (l ++ more) := by
  simp only [newest, ← List.drop_append_of_le_length (Nat.sub_le l.length k), List.drop_drop,
    List.length_append, List.length_drop]
  congr 1
  omega

namespace Backend

/-- Feed samples to `RecordLatency` in order, stopping at the first panic. -/
def recordLatencies (b : Backend) : List Int → Option Backend
  | [] => some b
  | latency :: rest => (b.recordLatency latency).bind fun next => next.recordLatencies rest

theorem recordLatency_of_le {b : Backend} (positive : 0 < b.windowSize)
    (within : (b.latencyWindow.length : Int) ≤ b.windowSize) (latency : Int) :
    b.recordLatency latency =
      some { b with
        latencyWindow := newest b.windowSize.toNat (b.latencyWindow ++ [milliseconds latency]) } := by
  by_cases full : b.windowSize ≤ b.latencyWindow.length
  · have evictOne : b.latencyWindow.length + 1 - b.windowSize.toNat = 1 := by omega
    have slice : sliceFrom b.latencyWindow 1 = some (b.latencyWindow.drop 1) := if_pos (by omega)
    simp only [recordLatency, full, ↓reduceIte, slice, Option.map_some', newest,
      List.length_append, List.length_singleton, evictOne,
      List.drop_append_of_le_length (by omega : 1 ≤ b.latencyWindow.length)]
  · have keepAll : b.latencyWindow.length + 1 - b.windowSize.toNat = 0 := by omega
    simp only [recordLatency, full, ↓reduceIte, Option.map_some', newest, List.length_append,
      List.length_singleton, keepAll, List.drop_zero]

/-- For a positive window size, every sample sequence is recorded without a panic and the
window holds the newest `windowSize` millisecond values. -/
theorem recordLatencies_of_le {b : Backend} (positive : 0 < b.windowSize)
    (within : (b.latencyWindow.length : Int) ≤ b.windowSize) (samples : List Int) :
    b.recordLatencies samples =
      some { b with
        latencyWindow :=
          newest b.windowSize.toNat (b.latencyWindow ++ samples.map milliseconds) } := by
  induction samples generalizing b with
  | nil =>
      have keepAll : b.latencyWindow.length - b.windowSize.toNat = 0 := by omega
      simp [recordLatencies, newest, keepAll]
  | cons latency rest ih =>
      let next := { b with
        latencyWindow := newest b.windowSize.toNat (b.latencyWindow ++ [milliseconds latency]) }
      have nextWithin : (next.latencyWindow.length : Int) ≤ next.windowSize := by
        have := newest_length_le b.windowSize.toNat (b.latencyWindow ++ [milliseconds latency])
        simp only [next]
        omega
      rw [recordLatencies, recordLatency_of_le positive within, Option.some_bind,
        ih (b := next) positive nextWithin]
      simp only [next, newest_append_newest, List.map_cons, List.append_assoc,
        List.singleton_append]

theorem recordLatency_zero_window {b : Backend} (zero : b.windowSize = 0)
    (empty : b.latencyWindow = []) (latency : Int) : b.recordLatency latency = none := by
  simp [recordLatency, zero, empty, sliceFrom]

end Backend

/-- A freshly built backend of window size zero panics on its first latency sample. -/
theorem newBackend_zero_window_panics (addr : String) (maxConns latency : Int) :
    ∃ b, newBackend addr maxConns 0 = some b ∧ b.recordLatency latency = none :=
  ⟨_, rfl, Backend.recordLatency_zero_window rfl rfl latency⟩

/-- From `NewBackend` with a positive size, every sample sequence is recorded without a panic,
and the window is the newest `windowSize` samples in milliseconds, in arrival order. -/
theorem newBackend_recordLatencies {addr : String} {maxConns windowSize : Int}
    (positive : 0 < windowSize) (samples : List Int) :
    ∃ b after, newBackend addr maxConns windowSize = some b ∧
      b.recordLatencies samples = some after ∧
      after.latencyWindow = newest windowSize.toNat (samples.map milliseconds) ∧
      (after.latencyWindow.length : Int) ≤ windowSize := by
  have built : newBackend addr maxConns windowSize = some _ := if_neg (by omega)
  refine ⟨_, _, built, Backend.recordLatencies_of_le positive (by simp; omega) samples, ?_, ?_⟩
  · simp
  · have := newest_length_le windowSize.toNat (samples.map milliseconds)
    simp only [List.nil_append]
    omega

theorem newBackend_recordLatencies_twenty :
    ∃ b after, newBackend "192.168.1.10:25565" 50 20 = some b ∧
      b.recordLatencies [12000000, 9000000, 31000000] = some after ∧
      after.latencyWindow =
        newest (20 : Int).toNat ([12000000, 9000000, 31000000].map milliseconds) ∧
      (after.latencyWindow.length : Int) ≤ 20 :=
  newBackend_recordLatencies (by decide) _

end RmsGate.LoadBalancer
