import Taskflow.Workspace.Interruptions
import Taskflow.Proofs.Queue.Completion
/-!
Resuming the waiting tasks.
-/

namespace Taskflow.Workspace

open Json Queue

def HasIds (L : List Value) : Prop := ∀ t ∈ L, ∃ v, t.item "id" = .ok v

/-- A waiting entry resuming can read: it carries a description and a task id. -/
def Resumable (e : Value) : Prop :=
  (∃ d, e.item "description" = .ok d) ∧ ∃ v, e.item "task_id" = .ok v

def firstWithId (data : List Value) (id : Value) : Option Nat := (ids data).findIdx? (·.same id)

/-- Position `k` holds the first task with the id one of the entries names. -/
def Named (data es : List Value) (k : Nat) : Prop :=
  ∃ e ∈ es, firstWithId data (e.getD "task_id" .null) = some k

instance (data es : List Value) (k : Nat) : Decidable (Named data es k) :=
  inferInstanceAs (Decidable (∃ e ∈ es, firstWithId data (e.getD "task_id" .null) = some k))

/-- `t'` is `t` put back in progress at clock `c`: status and stamp are new, and every other
member is as it was. -/
def Reopened (c : Time.Civil) (t t' : Value) : Prop :=
  t'.get? "status" = some (.str "in_progress") ∧
    t'.get? "updated" = some (.str (Time.manila c).iso) ∧
    ∀ k, k ≠ "status" → k ≠ "updated" → t'.get? k = t.get? k

/-- `L'` is `data` with every task some entry names reopened and every other task unchanged. -/
def Resumed (c : Time.Civil) (es data L' : List Value) : Prop :=
  L'.length = data.length ∧ ∀ k < data.length,
    (Named data es k → Reopened c (data.getD k .null) (L'.getD k .null)) ∧
    (¬ Named data es k → L'.getD k .null = data.getD k .null)

/-- The workspace after resuming the entries `es` from the list `L` at clock `c`: the tracker
is cleared and the store holds the first read of `L` resumed by the entries. -/
def AfterResume (c : Time.Civil) (es L : List Value) (w : Workspace) : Prop :=
  w.interruptions = {} ∧ ∃ L', StoreAt .execution c L' w ∧ Resumed c es (fresh c L) L'

/-! ## Members and positions -/

section Members

theorem item_eq_of_get? {x y : Value} {k : String} (hx : x.isObj = true) (hy : y.isObj = true)
    (h : x.get? k = y.get? k) : x.item k = y.item k := by
  cases x <;> cases y <;> simp only [Value.isObj, Bool.false_eq_true] at hx hy
  next kvs kvs' =>
    simp only [Value.get?] at h
    simp only [Value.item]
    cases h₁ : kvs.find? (·.1 == k) <;> cases h₂ : kvs'.find? (·.1 == k) <;>
      simp_all

theorem isObj_of_get? {x v : Value} {k : String} (h : x.get? k = some v) : x.isObj = true := by
  cases x <;> first | rfl | simp [Value.get?] at h

theorem getD_set_self {L : List Value} {i : Nat} (hi : i < L.length) (t d : Value) :
    (L.set i t).getD i d = t := by
  simp [List.getD_eq_getElem?_getD, hi]

theorem getD_set_of_ne {L : List Value} {i k : Nat} (h : i ≠ k) (t d : Value) :
    (L.set i t).getD k d = L.getD k d := by
  simp [List.getD_eq_getElem?_getD, h]

theorem HasIds.isObj_getD {L : List Value} (h : HasIds L) {k : Nat} (hk : k < L.length) :
    (L.getD k .null).isObj = true := by
  rw [← List.getElem_eq_getD (h := hk)]
  obtain ⟨_, hv⟩ := h _ (List.getElem_mem hk)
  exact isObj_of_item hv

end Members

/-! ## The first task with an id -/

section Find

variable {data : List Value}

/-- On tasks that all carry an id, the store's search finds the first with the id. -/
theorem findTask_go_eq (id : Value) : ∀ {data : List Value}, HasIds data → ∀ k,
    findTask.go id data k = .ok ((firstWithId data id).map (· + k))
  | [], _, _ => rfl
  | t :: data, h, k => by
    obtain ⟨v, hv⟩ := h t List.mem_cons_self
    have hrest := findTask_go_eq id (fun u hu => h u (List.mem_cons_of_mem t hu)) (k + 1)
    simp only [findTask.go, hv, bind, Except.bind, firstWithId, ids, List.map_cons,
      List.findIdx?_cons, getD_of_item hv]
    by_cases hs : v.same id = true
    · simp [hs, pure, Except.pure]
    · simp only [hs, Bool.false_eq_true, ↓reduceIte, hrest, firstWithId, ids, Option.map_map]
      congr 2
      funext j
      simp only [Function.comp_apply]
      omega

theorem findTask_eq_firstWithId (h : HasIds data) (id : Value) :
    findTask data id = .ok (firstWithId data id) := by
  simp [findTask, findTask_go_eq id h]

/-- The status update on tasks that all carry an id: it never faults, and it changes the first
task with the id, if any. -/
theorem setStatusOutcome_of_hasIds (h : HasIds data) (c : Time.Civil) (id status : Value) :
    setStatusOutcome c id status data = match firstWithId data id with
      | none => ⟨data, none⟩
      | some i => ⟨data.set i (((data.getD i .null).set "status" status).set "updated"
          (.str (Time.manila c).iso)), none⟩ := by
  unfold setStatusOutcome
  rw [findTask_eq_firstWithId h]
  cases firstWithId data id <;> rfl

end Find

/-! ## Reopened tasks -/

section Reopened

variable {c : Time.Civil} {t t' : Value}

theorem Reopened.not_stale (h : Reopened c t t') (now : Time.Civil) : isStale now t' = false := by
  simp [isStale, Value.getD, h.1, Value.same]

/-- A task stamped in progress, from one that has the members of `t` but status and stamp. -/
theorem reopened_stamped {x : Value} (hx : x.isObj = true)
    (hframe : ∀ k, k ≠ "status" → k ≠ "updated" → x.get? k = t.get? k) :
    Reopened c t
      ((x.set "status" (.str "in_progress")).set "updated" (.str (Time.manila c).iso)) := by
  refine ⟨?_, get?_set_self (by rw [isObj_set]; exact hx) _ _, fun k hs hu => ?_⟩
  · rw [get?_set_ne (by decide), get?_set_self hx]
  · rw [get?_set_ne (Ne.symm hu), get?_set_ne (Ne.symm hs), hframe k hs hu]

theorem named_append {data pre : List Value} {e : Value} {k : Nat} :
    Named data (pre ++ [e]) k ↔
      Named data pre k ∨ firstWithId data (e.getD "task_id" .null) = some k := by
  simp only [Named, List.mem_append, List.mem_singleton]
  constructor
  · rintro ⟨x, hx | rfl, hk⟩
    · exact .inl ⟨x, hx, hk⟩
    · exact .inr hk
  · rintro (⟨x, hx, hk⟩ | hk)
    · exact ⟨x, .inl hx, hk⟩
    · exact ⟨e, .inr rfl, hk⟩

end Reopened

/-! ## Resumed lists -/

section Resumed

variable {c : Time.Civil} {es pre data L : List Value}

theorem Resumed.nil (c : Time.Civil) (data : List Value) : Resumed c [] data data :=
  ⟨rfl, fun _ _ => ⟨fun ⟨_, h, _⟩ => (nomatch h), fun _ => rfl⟩⟩

/-- A resumed task has every member of the task it was but status and stamp. -/
theorem Resumed.get?_getD (h : Resumed c es data L) {k : Nat} (hk : k < data.length) (key : String)
    (hs : key ≠ "status") (hu : key ≠ "updated") :
    (L.getD k .null).get? key = (data.getD k .null).get? key := by
  by_cases hn : Named data es k
  · exact ((h.2 k hk).1 hn).2.2 key hs hu
  · rw [(h.2 k hk).2 hn]

theorem Resumed.isObj_getD (h : Resumed c es data L) {k : Nat} (hk : k < data.length)
    (hd : (data.getD k .null).isObj = true) : (L.getD k .null).isObj = true := by
  by_cases hn : Named data es k
  · exact isObj_of_get? ((h.2 k hk).1 hn).1
  · rw [(h.2 k hk).2 hn, hd]

theorem Resumed.ids_eq (h : Resumed c es data L) : ids L = ids data := by
  apply List.ext_getElem (by simp [ids, h.1])
  intro k hL hd
  have hk : k < data.length := by simpa [ids] using hd
  have hkL : k < L.length := h.1 ▸ hk
  have hid := h.get?_getD hk "id" (by decide) (by decide)
  rw [← List.getElem_eq_getD (h := hk), ← List.getElem_eq_getD (h := hkL)] at hid
  simp only [ids, List.getElem_map, Value.getD, hid]

theorem Resumed.hasIds (h : Resumed c es data L) (hd : HasIds data) : HasIds L := by
  intro t ht
  obtain ⟨k, hkL, rfl⟩ := List.getElem_of_mem ht
  have hk : k < data.length := h.1 ▸ hkL
  obtain ⟨v, hv⟩ := hd _ (List.getElem_mem hk)
  have hobj := h.isObj_getD hk (hd.isObj_getD hk)
  have hid := item_eq_of_get? hobj (hd.isObj_getD hk) (h.get?_getD hk "id" (by decide) (by decide))
  rw [← List.getElem_eq_getD (h := hk), ← List.getElem_eq_getD (h := hkL)] at hid
  exact ⟨v, hid.trans hv⟩

theorem Resumed.fresh_eq (h : Resumed c es data L) (hd : fresh c data = data) : fresh c L = L := by
  apply List.filter_eq_self.2
  intro t ht
  obtain ⟨k, hkL, rfl⟩ := List.getElem_of_mem ht
  have hk : k < data.length := h.1 ▸ hkL
  rw [List.getElem_eq_getD .null]
  by_cases hn : Named data es k
  · show (!isStale c (L.getD k .null)) = true
    rw [((h.2 k hk).1 hn).not_stale c, Bool.not_false]
  · rw [(h.2 k hk).2 hn, ← List.getElem_eq_getD (h := hk)]
    exact List.filter_eq_self.1 hd _ (List.getElem_mem hk)

/-- One more entry resumed: the status update of the task it names. -/
theorem Resumed.step (h : Resumed c pre data L) (hd : HasIds data) (e : Value) :
    Resumed c (pre ++ [e]) data
      (setStatusOutcome c (e.getD "task_id" .null) (.str "in_progress") L).tasks := by
  have hL := h.hasIds hd
  have hfirst :
      firstWithId L (e.getD "task_id" .null) = firstWithId data (e.getD "task_id" .null) := by
    rw [firstWithId, firstWithId, h.ids_eq]
  rw [setStatusOutcome_of_hasIds hL, hfirst]
  cases hi : firstWithId data (e.getD "task_id" .null) with
  | none =>
    -- the entry names no task: the list and the positions named stay as they were
    refine ⟨h.1, fun k hk => ?_⟩
    simpa only [named_append, hi, reduceCtorEq, or_false] using h.2 k hk
  | some i =>
    refine ⟨by rw [List.length_set, h.1], fun k hk => ?_⟩
    by_cases hki : i = k
    · subst hki
      refine ⟨fun _ => ?_, fun hn => absurd (named_append.2 (.inr hi)) hn⟩
      rw [getD_set_self (h.1 ▸ hk)]
      exact reopened_stamped (h.isObj_getD hk (hd.isObj_getD hk)) (h.get?_getD hk)
    · have hn : Named data (pre ++ [e]) k ↔ Named data pre k := by
        rw [named_append, hi, Option.some_inj, or_iff_left hki]
      rw [getD_set_of_ne hki, hn]
      exact h.2 k hk

theorem HasIds.fresh (h : HasIds L) (c : Time.Civil) : HasIds (fresh c L) :=
  fun t ht => h t (List.mem_filter.1 ht).1

end Resumed

/-! ## Resuming -/

section Resume

variable {c : Time.Civil} {L es : List Value} {E : Workspace → Prop}

theorem triple_field {P : Workspace → Prop} {v x : Value} {k : String} (h : v.item k = .ok x) :
    Triple P (field v k) (fun _ => P) E := by
  unfold field
  exact Triple.lift_ok_bind h (Triple.ret _ fun _ hw => hw)

theorem run_saveInterruptions (w : Workspace) : saveInterruptions.run.run w =
    (.ok (), { w with files := { w.files with interruptions := some (Value.write .fileAscii
      (.obj [("current_task", w.interruptions.current), ("interrupted_tasks", w.interruptions.interrupted),
        ("last_updated", .str w.clock.iso)])) } }) := rfl

theorem triple_saveInterruptions {P : Workspace → Prop}
    (hP : ∀ w f, P w → f.tasks = w.files.tasks → P { w with files := f }) :
    Triple P saveInterruptions (fun _ => P) E := by
  intro w hw
  rw [run_saveInterruptions]
  exact hP w _ hw rfl

/-- Resuming from a tidy store whose tasks carry ids, with waiting entries that carry a
description and a task id: it never faults, clears the tracker and leaves the list its first
read gave, resumed by the entries. -/
theorem triple_resumeAll (hL : Tidy L) (hids : HasIds L) (hne : es ≠ [])
    (hent : ∀ e ∈ es, Resumable e) :
    Triple (fun w => StoreAt .execution c L w ∧ w.interruptions.interrupted = .arr es) resumeAll
      (fun _ => AfterResume c es L) (fun _ => False) := by
  unfold resumeAll
  refine Triple.get_bind fun w ⟨_, hw⟩ => ?_
  dsimp only
  have htruthy : (!(Value.arr es).truthy) = false := by
    cases es with
    | nil => exact absurd rfl hne
    | cons _ _ => rfl
  rw [hw, htruthy]
  simp only [Bool.false_eq_true, ↓reduceIte]
  -- from here on the tracker was read: only the store matters until it is cleared
  refine Triple.conseq ?_ (fun _ hw => hw.1) (fun _ _ h => h) (fun _ h => h)
  refine Triple.lift_ok_bind rfl (Triple.bind (triple_say _) fun _ => Triple.lift_ok_bind rfl ?_)
  -- the loop keeps a stored list whose fresh part is the first read resumed by the entries so far
  refine Triple.bind ((Triple.forIn_prefix (fun pre _ w => ∃ cur, StoreAt .execution c cur w ∧
    Tidy cur ∧ Resumed c pre (fresh c L) (fresh c cur) ∧ (pre ≠ [] → fresh c cur = cur)) ?_
    PUnit.unit).conseq (fun _ hw => ⟨L, hw, hL, Resumed.nil c _, fun h => absurd rfl h⟩)
    (fun _ _ h => h) (fun _ h => h)) fun _ => ?_
  · intro pre x suf _ hxs
    obtain ⟨⟨_, hd⟩, v, hv⟩ := hent x (by rw [hxs]; simp)
    refine Triple.exists_pre fun cur => Triple.pure_pre fun ⟨hcur, hres, _⟩ => ?_
    have hcids : HasIds (fresh c cur) := hres.hasIds (hids.fresh c)
    have hok : (setStatusOutcome c v (.str "in_progress") (fresh c cur)).fault = none := by
      rw [setStatusOutcome_of_hasIds hcids]
      cases firstWithId (fresh c cur) v <;> rfl
    have hstep := hres.step (hids.fresh c) x
    rw [getD_of_item hv] at hstep
    have hfresh := hstep.fresh_eq fresh_fresh
    refine Triple.bind (triple_field hd) fun _ => Triple.bind (triple_say _) fun _ =>
      Triple.bind (triple_field hv) fun _ => Triple.bind (triple_say _) fun _ =>
      Triple.lift_ok_bind hv (Triple.bind (triple_setStatus_ok hcur v (.str _) hok) fun _ =>
      Triple.ret _ fun w hw => ?_)
    exact ⟨_, hw, setStatusOutcome_tidy hcur.fresh c v (.str _), by rwa [hfresh],
      fun _ => hfresh⟩
  -- clearing the tracker, then writing its file and a line
  refine Triple.bind ?_ fun _ => Triple.bind (triple_saveInterruptions
    fun w f (h : AfterResume c es L w) hf => ?_) fun _ =>
    Triple.update fun w (h : AfterResume c es L w) => ?_
  · refine Triple.update fun w ⟨cur, hw, _, hres, hfr⟩ => ?_
    unfold AfterResume
    exact ⟨rfl, cur, hw.of_view rfl, by rwa [hfr hne] at hres⟩
  · obtain ⟨hi, L', hs, hr⟩ := h
    exact ⟨hi, L', hs.of_view (by simp [storeView, hf]), hr⟩
  · obtain ⟨hi, L', hs, hr⟩ := h
    exact ⟨hi, L', hs.of_view rfl, hr⟩

/-- Resuming sets every task a waiting entry names back in progress, whatever its status, a
completed one included, and leaves every other task as the first read gave it; it returns and
the tracker ends empty. -/
theorem resumeAll_sets_named_in_progress {w : Workspace} {c : Time.Civil} {L es : List Value}
    (hw : StoreAt .execution c L w) (hL : Tidy L) (hids : HasIds L)
    (hes : w.interruptions.interrupted = .arr es) (hne : es ≠ [])
    (hent : ∀ e ∈ es, Resumable e) :
    (resumeAll.run.run w).1 = .ok () ∧ (resumeAll.run.run w).2.interruptions = {} ∧
      ∃ L', Stored (resumeAll.run.run w).2 L' ∧ Resumed c es (fresh c L) L' := by
  obtain ⟨_, hr, hi, L', hs, hres⟩ := (triple_resumeAll hL hids hne hent).run_ok ⟨hw, hes⟩
  exact ⟨hr, hi, L', hs.stored, hres⟩

/-- A completed task still waiting in the tracker comes out of a resume in progress. -/
theorem resumeAll_reopens_completed_task :
    let L : List Value :=
      [(freshTask "20250115T200000_write_docs" "write docs" "2025-01-15T20:00:00+08:00").set
          "status" (.str "completed"),
        freshTask "20250115T200000_fix_bug" "fix bug" "2025-01-15T20:00:00+08:00"]
    let w : Workspace :=
      { clock := { year := 2025, month := 1, day := 15, hour := 12 },
        files := { tasks := some (Value.write .file (.arr L)) },
        interruptions :=
          { current := .obj [("task_id", .str "20250115T200000_fix_bug"),
              ("description", .str "fix bug")],
            interrupted := .arr [.obj [("task_id", .str "20250115T200000_write_docs"),
              ("description", .str "write docs")]] } }
    (L.getD 0 .null).get? "status" = some (.str "completed") ∧
      ∃ L', Stored (resumeAll.run.run w).2 L' ∧
        (L'.getD 0 .null).get? "status" = some (.str "in_progress") := by
  intro L w
  have hL : Tidy L := by
    intro t ht
    simp only [L, List.mem_cons, List.mem_nil_iff, or_false] at ht
    rcases ht with rfl | rfl
    · exact ⟨(freshTask_plain _ _ _).set (.str _) _, rfl⟩
    · exact ⟨freshTask_plain _ _ _, rfl⟩
  have hids : HasIds L := by
    intro t ht
    simp only [L, List.mem_cons, List.mem_nil_iff, or_false] at ht
    rcases ht with rfl | rfl
    · exact ⟨_, rfl⟩
    · exact ⟨_, rfl⟩
  obtain ⟨-, -, L', hs, hres⟩ := @resumeAll_sets_named_in_progress w w.clock L _
    ⟨rfl, rfl, by simp only [Stored, w, readJson_write hL.plain, Option.getD_some]⟩ hL hids rfl
    (by simp) (by
      intro e he
      simp only [List.mem_cons, List.mem_nil_iff, or_false] at he
      subst he
      exact ⟨⟨_, rfl⟩, _, rfl⟩)
  refine ⟨rfl, L', hs, ((hres.2 0 (by decide +kernel)).1 (by decide +kernel)).1⟩

end Resume

end Taskflow.Workspace
