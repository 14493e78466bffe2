import Taskflow.Proofs.Workspace.Duplicates
import Taskflow.Proofs.Queue.Operations
/-!
How recent a task is, as the store and the sync judge it: by its timestamp texts.
-/

namespace Taskflow.Workspace

open Json Queue

/-! ## Creation texts and the open tasks -/

/-- The `created` text of a task; an absent one counts as empty. -/
def createdOf (t : Value) : String :=
  match t.getD "created" (.str "") with
  | .str s => s
  | _ => ""

def Created (t : Value) : Prop := ∃ s, t.getD "created" (.str "") = .str s

def openTasks (L : List Value) : List Value :=
  L.filter fun t => !(t.getD "status" .null).same (.str "completed")

theorem openTasks_sublist (L : List Value) : (openTasks L).Sublist L := List.filter_sublist

theorem openOf_eq_mergeSort {L : List Value} (hL : ∀ t ∈ openTasks L, t.isObj = true ∧ Created t) :
    openOf L = (openTasks L).mergeSort (descBy createdOf) := by
  have hsort := sortByKey_desc_eq_mergeSort createdOf (fun t => t.lookup "created" (.str ""))
    (openTasks L) fun t ht => by
      obtain ⟨hobj, s, hs⟩ := hL t ht
      rw [lookup_eq_getD hobj, hs, createdOf, hs]
  unfold openOf
  exact congrArg Sorting.items hsort

theorem openTasks_fresh (c : Time.Civil) (L : List Value) : openTasks (fresh c L) = openTasks L := by
  unfold openTasks fresh
  rw [List.filter_filter]
  congr 1
  funext t
  cases h : (t.getD "status" .null).same (.str "completed") <;> simp [isStale, h]

/-- Listing the open tasks of a tidy store whose `created` values are texts gives every task not
completed, each once, from the greatest `created` text down, tasks with equal texts in file
order. -/
theorem listOpen_newest_first {c : Time.Civil} {L : List Value} {w : Workspace}
    (hw : StoreAt .execution c L w) (hL : Tidy L) (hc : ∀ t ∈ L, Created t) :
    ∃ r, (listOpen.run.run w).1 = .ok r ∧ SortedDesc createdOf (openTasks L) r := by
  obtain ⟨r, hr, -, hrl⟩ := Triple.run_ok (triple_listOpen_ok hL) hw
  have hopen : ∀ t ∈ openTasks (fresh c L), t.isObj = true ∧ Created t := fun t ht => by
    rw [openTasks_fresh] at ht
    have htL := (openTasks_sublist L).subset ht
    exact ⟨(hL t htL).2, hc t htL⟩
  refine ⟨r, hr, ?_⟩
  rw [hrl, openOf_eq_mergeSort hopen, openTasks_fresh]
  exact sortedDesc_mergeSort createdOf (openTasks L)

/-! ## The task a sync reports -/

def busyOf (L : List Value) : List Value :=
  L.filter fun t => (t.getD "status" .null).same (.str "in_progress")

/-- The tasks a sync picks from: those in progress, or all when none is. -/
def poolOf (L : List Value) : List Value := if (busyOf L).isEmpty then L else busyOf L

theorem poolOf_sublist (L : List Value) : (poolOf L).Sublist L := by
  unfold poolOf
  split
  · exact List.Sublist.refl L
  · exact List.filter_sublist

theorem poolOf_ne_nil {L : List Value} (h : L ≠ []) : poolOf L ≠ [] := by
  unfold poolOf
  split
  · exact h
  · next hb => simpa using hb

section Filter

variable {m : Type → Type} [Monad m] [LawfulMonad m] {α : Type} {p : α → m Bool} {q : α → Bool}

theorem filterAuxM_eq_pure :
    ∀ (xs acc : List α), (∀ x ∈ xs, p x = pure (q x)) →
      List.filterAuxM p xs acc = pure ((xs.filter q).reverse ++ acc)
  | [], acc, _ => by simp [List.filterAuxM]
  | x :: xs, acc, h => by
    have ih := filterAuxM_eq_pure xs (if q x then x :: acc else acc)
      fun y hy => h y (List.mem_cons_of_mem x hy)
    simp only [List.filterAuxM, h x List.mem_cons_self, pure_bind, cond_eq_ite, ih]
    cases hq : q x <;> simp [hq]

theorem filterM_eq_pure_of_forall {xs : List α} (h : ∀ x ∈ xs, p x = pure (q x)) :
    xs.filterM p = pure (xs.filter q) := by
  simp [List.filterM, filterAuxM_eq_pure xs [] h]

end Filter

/-- On a list of stamped objects, the task a sync reports is the first of its pool ranked
latest first; an empty list has none. -/
theorem activeTask_eq {L : List Value} (hL : ∀ t ∈ L, t.isObj = true ∧ Stamped t) :
    activeTask (.arr L) = .ok (keptOf (poolOf L)) := by
  cases L with
  | nil => simp [activeTask, Value.truthy, keptOf, poolOf, busyOf, pure, Except.pure]
  | cons t L =>
    unfold activeTask
    simp only [Value.truthy, List.isEmpty_cons, Bool.not_false, Bool.not_true, Bool.false_eq_true,
      if_false, Value.elems, bind, Except.bind]
    rw [filterM_eq_pure_of_forall
      (q := fun t : Value => (t.getD "status" .null).same (.str "in_progress"))]
    · -- the pool is ranked by its `updated` texts, with no fault
      have hsort := sortByKey_updated fun x hx => hL x ((poolOf_sublist (t :: L)).subset hx)
      unfold poolOf busyOf at hsort ⊢
      dsimp only [pure, Except.pure]
      rw [hsort]
      rfl
    · intro x hx
      rw [lookup_eq_getD (hL x hx).1]

theorem activeTask_latest {L : List Value} (hL : ∀ t ∈ L, t.isObj = true ∧ Stamped t)
    (hne : L ≠ []) : ∃ t, activeTask (.arr L) = .ok (some t) ∧ FirstLatest (poolOf L) t := by
  obtain ⟨t, ht, hlatest⟩ := head_laterFirst (poolOf_ne_nil hne)
  refine ⟨t, ?_, hlatest⟩
  rw [activeTask_eq hL, keptOf, ht]

/-- The cursor session written is that of `t`, when it can be built. -/
def CursorReports (t : Value) (iso : String) (w : Workspace) : Prop :=
  ∀ c, cursorRecord iso (some t) = .ok c → w.files.cursorCopy = some (Value.write .fileAscii c)

/-- The task summary written is that of `t`, when it can be built. -/
def TaskReports (t : Value) (iso : String) (w : Workspace) : Prop :=
  ∀ r, taskRecord iso (some t) = .ok r → w.files.taskCopy = some (Value.write .fileAscii r)

/-- What the memory files a sync writes say about the task `t`, at the reading `iso`: the cursor
session and the task summary are those of `t`, and the interruption state names `t`'s id as
the current task. -/
structure SyncReports (t : Value) (iso : String) (w : Workspace) : Prop where
  cursor : CursorReports t iso w
  task : TaskReports t iso w
  interruption : w.files.interruptionCopy = some (Value.write .fileAscii (.obj
    [("current_task", t.getD "id" .null), ("interrupted_tasks", .arr []), ("last_updated", .str iso)]))

section Sync

variable {q : Queue} {c : Time.Civil} {L : List Value} {t : Value}

theorem triple_autoSync_reports (ht : activeTask (.arr L) = .ok (some t)) (htruthy : t.truthy = true) :
    Triple (StoreAt q c L) autoSync (fun _ => SyncReports t (Time.manila c).iso) (fun _ => False) := by
  unfold autoSync
  refine Triple.bind triple_manilaNow fun stamp => Triple.pure_pre fun hstamp => ?_
  subst hstamp
  refine Triple.bind (Triple.attempt (R := fun _ => SyncReports t (Time.manila c).iso)
    (E := fun _ => False) ?_
    (fun _ _ h => h) (fun _ _ h => h.elim)) fun r => ?_
  · refine Triple.bind (Triple.read (Q := fun tasks _ => True ∧ tasks = Value.arr L)
      fun w hw => ⟨trivial, hw.stored⟩) fun tasks => Triple.pure_pre fun htasks => ?_
    subst htasks
    refine Triple.lift_ok_bind ht ?_
    extract_lets current total note task
    have hcurrent : current = t.getD "id" .null := by simp [current, Option.filter, htruthy]
    -- the join points of the do block, last first: each step adds one part of the report
    have h_total : ∀ u, Triple (SyncReports t (Time.manila c).iso) (total u)
        (fun _ => SyncReports t (Time.manila c).iso) (fun _ => False) :=
      fun _ => Triple.lift_ok_bind rfl (Triple.ret _ fun _ h => h)
    have h_note : ∀ u, Triple (fun w => CursorReports t (Time.manila c).iso w ∧
        TaskReports t (Time.manila c).iso w) (note u)
        (fun _ => SyncReports t (Time.manila c).iso) (fun _ => False) := fun _ => by
      refine Triple.bind (Triple.update (R := fun _ => SyncReports t (Time.manila c).iso)
        fun w h => ⟨h.1, h.2, by rw [hcurrent]⟩) fun _ => ?_
      split
      · exact Triple.bind (Triple.update fun w h => ⟨h.cursor, h.task, h.interruption⟩) h_total
      · exact h_total ()
    have h_task : ∀ u, Triple (CursorReports t (Time.manila c).iso) (task u)
        (fun _ => SyncReports t (Time.manila c).iso) (fun _ => False) := fun _ => by
      simp only [task]
      split
      · next r hr =>
        refine Triple.bind (Triple.update fun w h => ⟨h, fun r' hr' => ?_⟩) h_note
        rw [hr] at hr'
        cases hr'
        rfl
      · next hr =>
        exact (h_note ()).conseq (fun w h => ⟨h, fun r' hr' => absurd hr' (hr r')⟩)
          (fun _ _ h => h) (fun _ h => h)
    split
    · next c' hc =>
      refine Triple.bind (Triple.update fun w _ c'' hc'' => ?_) h_task
      rw [hc] at hc''
      cases hc''
      rfl
    · next hc =>
      exact (h_task ()).conseq (fun w _ c'' hc'' => absurd hc'' (hc c''))
        (fun _ _ h => h) (fun _ h => h)
  · split <;> exact Triple.ret _ fun _ h => h

end Sync

theorem FirstLatest.mem {g : List Value} {t : Value} (h : FirstLatest g t) : t ∈ g := by
  obtain ⟨pre, post, rfl, -, -⟩ := h
  exact List.mem_append_right pre List.mem_cons_self

/-- Recency, as the store and the sync judge it, is the order of the stamp texts: the listing
sorts by `created`, and the sync reports the task whose `updated` text none exceeds. -/
theorem recency_by_stamp_text {c : Time.Civil} {L : List Value} {w : Workspace}
    (hw : StoreAt .execution c L w) (hL : Tidy L) (hc : ∀ t ∈ L, Created t)
    (hu : ∀ t ∈ L, Stamped t) (htruthy : ∀ t ∈ L, t.truthy = true) :
    (∃ r, (listOpen.run.run w).1 = .ok r ∧ SortedDesc createdOf (openTasks L) r) ∧
      (L ≠ [] → ∃ t, FirstLatest (poolOf L) t ∧ activeTask (.arr L) = .ok (some t) ∧
        SyncReports t (Time.manila c).iso (autoSync.run.run w).2) := by
  refine ⟨listOpen_newest_first hw hL hc, fun hne => ?_⟩
  obtain ⟨t, ht, hlatest⟩ := activeTask_latest (fun t ht => ⟨(hL t ht).2, hu t ht⟩) hne
  have htL : t ∈ L := (poolOf_sublist L).subset hlatest.mem
  obtain ⟨_, -, hreports⟩ := Triple.run_ok (triple_autoSync_reports ht (htruthy t htL)) hw
  exact ⟨t, hlatest, ht, hreports⟩

/-- Two tasks in progress stamped with different offsets: the one created at 10:00+08:00, an
hour before the other at 03:00Z, has the greater text. -/
theorem recency_by_stamp_text_offsets :
    let a : Value := .obj [("id", .str "a"), ("created", .str "2025-01-15T10:00:00+08:00"),
      ("updated", .str "2025-01-15T10:00:00+08:00")]
    let b : Value := .obj [("id", .str "b"), ("created", .str "2025-01-15T03:00:00Z"),
      ("updated", .str "2025-01-15T03:00:00Z")]
    let c : Time.Civil := { year := 2025, month := 1, day := 15, hour := 12 }
    let w : Workspace := { clock := c, files := { tasks := some (Value.write .file (.arr [a, b])) } }
    createdOf b < createdOf a ∧
      (∃ r, (listOpen.run.run w).1 = .ok r ∧ SortedDesc createdOf (openTasks [a, b]) r) ∧
      ([a, b] ≠ [] → ∃ t, FirstLatest (poolOf [a, b]) t ∧ activeTask (.arr [a, b]) = .ok (some t) ∧
        SyncReports t (Time.manila c).iso (autoSync.run.run w).2) := by
  intro a b c w
  have hplain : (Value.arr [a, b]).Plain := .arr fun x hx => by
    simp only [List.mem_cons, List.mem_nil_iff, or_false] at hx
    rcases hx with rfl | rfl
    all_goals
      refine .obj (by decide) fun kv hkv => ?_
      simp only [List.mem_cons, List.mem_nil_iff, or_false] at hkv
      rcases hkv with rfl | rfl | rfl
      all_goals constructor
  have hw : StoreAt .execution c [a, b] w := ⟨rfl, rfl, by
    show (readJson? (some (Value.write .file (.arr [a, b])))).getD (.arr []) = .arr [a, b]
    rw [readJson_write hplain]
    rfl⟩
  have hL : Tidy [a, b] := fun x hx => ⟨(Value.Plain.arr_iff.1 hplain) x hx, by
    simp only [List.mem_cons, List.mem_nil_iff, or_false] at hx
    rcases hx with rfl | rfl <;> rfl⟩
  have hfields : ∀ x ∈ [a, b], Created x ∧ Stamped x ∧ x.truthy = true := by
    intro x hx
    simp only [List.mem_cons, List.mem_nil_iff, or_false] at hx
    rcases hx with rfl | rfl
    all_goals exact ⟨⟨_, rfl⟩, ⟨_, rfl⟩, rfl⟩
  exact ⟨by decide, recency_by_stamp_text hw hL (fun x hx => (hfields x hx).1)
    (fun x hx => (hfields x hx).2.1) fun x hx => (hfields x hx).2.2⟩


end Taskflow.Workspace
