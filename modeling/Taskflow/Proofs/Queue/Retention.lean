import Taskflow.Proofs.Time.Iso
import Taskflow.Proofs.Queue.Load
/-!
How long completed tasks are kept.
-/

namespace Taskflow.Queue

open Json

/-- The text a task's last touch is read from: `updated`, else `created`. -/
def touchText (t : Value) : Value := t.getD "updated" (t.getD "created" .null)

theorem isStale_of_offset (now : Time.Civil) {t : Value} {st : Time.Stamp}
    (ho : st.offset.isSome) (ht : touchText t = .str st.iso) : isStale now t = false := by
  unfold isStale lastTouch
  rw [show t.getD "updated" (t.getD "created" .null) = .str st.iso from ht]
  dsimp only
  rcases hr : Time.readIso st.iso with e | st'
  · simp
  · simp [Time.readIso_stamp_offset ho hr]

/-- A task last touched at a reading in range, written without an offset, is stale exactly
when it is completed and that reading lies `retentionDays` or more whole days back. -/
theorem isStale_of_civil (now : Time.Civil) {t : Value} {c : Time.Civil} (hc : c.Valid)
    (ht : touchText t = .str c.iso) :
    isStale now t = true ↔
      (t.getD "status" .null).same (.str "completed") = true ∧ retentionDays ≤ now.daysBetween c := by
  unfold isStale lastTouch
  rw [show t.getD "updated" (t.getD "created" .null) = .str c.iso from ht]
  dsimp only
  rw [Time.readIso_civil_iso hc]
  simp

/-- Purging keeps, in order, the tasks that are not stale, and reports a change exactly when one
went; a task last touched at a stamp the store writes is never stale. -/
theorem purge_keeps_store_stamped (now : Time.Civil) {L : List Value}
    (hobj : ∀ t ∈ L, t.isObj = true) :
    ∃ changed, purge now (.arr L) = .ok (L.filter (fun t => !isStale now t), changed) ∧
      (changed = true ↔ ∃ t ∈ L, isStale now t = true) ∧
      (∀ t (c : Time.Civil), touchText t = .str (Time.manila c).iso → isStale now t = false) ∧
      (∀ t (c : Time.Civil), c.Valid → touchText t = .str c.iso →
        (isStale now t = true ↔ (t.getD "status" .null).same (.str "completed") = true ∧
          retentionDays ≤ now.daysBetween c)) := by
  have hfind : L.find? (fun t => !t.isObj) = none :=
    List.find?_eq_none.2 fun t ht => by simp [hobj t ht]
  refine ⟨_, by simp only [purge, hfind]; rfl, ?_, fun t c ht => isStale_of_offset now rfl ht,
    fun t c hc ht => isStale_of_civil now hc ht⟩
  rw [decide_eq_true_iff, List.length_filter_lt_length_iff_exists]
  simp

/-- The store's own task, completed two weeks before a read at noon. -/
theorem purge_keeps_store_stamped_two_weeks :
    let now : Time.Civil := { year := 2025, month := 1, day := 15, hour := 12 }
    let L : List Value := [.obj [("status", .str "completed"),
      ("created", .str "2025-01-01T20:00:00+08:00"), ("updated", .str "2025-01-01T20:00:00+08:00")]]
    (∀ t ∈ L, t.isObj = true) ∧
      ∃ changed, purge now (.arr L) = .ok (L.filter (fun t => !isStale now t), changed) ∧
        (changed = true ↔ ∃ t ∈ L, isStale now t = true) ∧
        (∀ t (c : Time.Civil), touchText t = .str (Time.manila c).iso → isStale now t = false) ∧
        (∀ t (c : Time.Civil), c.Valid → touchText t = .str c.iso →
          (isStale now t = true ↔ (t.getD "status" .null).same (.str "completed") = true ∧
            retentionDays ≤ now.daysBetween c)) := by
  intro now L
  have hobj : ∀ t ∈ L, t.isObj = true := by simp [L, Value.isObj]
  exact ⟨hobj, purge_keeps_store_stamped now hobj⟩

end Taskflow.Queue
