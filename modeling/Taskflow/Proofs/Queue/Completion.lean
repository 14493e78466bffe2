import Taskflow.Proofs.Queue.Session
/-!
Finished tasks and their status.
-/

namespace Taskflow.Queue

open Json Workspace

def AllDone (items : List Value) : Prop :=
  ∀ x ∈ items, ∃ d, x.item "done" = .ok d ∧ d.truthy = true

def Finished (t : Value) : Prop :=
  ∃ items, t.get? "todos" = some (.arr items) ∧ items ≠ [] ∧ AllDone items

def Completed (t : Value) : Prop := t.getD "status" .null = .str "completed"

/-- Every finished task of the list is completed, or has an id equal to one of `D`. -/
def CompletesBut (D L : List Value) : Prop :=
  ∀ t ∈ L, Finished t → Completed t ∨ ∃ d ∈ D, (t.getD "id" .null).same d = true

/-! ## Reading members back -/

section Members

variable {v x : Value} {k : String}

theorem isObj_of_item (h : v.item k = .ok x) : v.isObj = true := by
  cases v <;> first | rfl | simp [Value.item] at h

theorem getD_of_item (h : v.item k = .ok x) (d : Value) : v.getD k d = x := by
  cases v with
  | obj kvs =>
    simp only [Value.item] at h
    split at h
    · next kv hkv =>
      cases h
      simp [Value.getD, Value.get?, hkv]
    · cases h
  | _ => simp [Value.item] at h

/-- The task found by its id carries an id equal to it. -/
theorem findTask_found {data : List Value} {id : Value} {i : Nat}
    (h : findTask data id = .ok (some i)) :
    ∃ v, (data.getD i .null).item "id" = .ok v ∧ v.same id = true := by
  -- the search from position `k` answers with a position at or after `k`
  suffices ∀ (xs : List Value) (k : Nat), findTask.go id xs k = .ok (some i) →
      k ≤ i ∧ ∃ v, (xs.getD (i - k) .null).item "id" = .ok v ∧ v.same id = true by
    simpa using (this data 0 h).2
  intro xs
  induction xs with
  | nil => intro k h; simp [findTask.go] at h
  | cons x xs ih =>
    intro k h
    simp only [findTask.go, bind, Except.bind] at h
    split at h
    · cases h
    · next v hv =>
      split at h
      · next hs =>
        cases h
        exact ⟨Nat.le_refl _, v, by simpa using hv, hs⟩
      · obtain ⟨hk, w, hw, hs⟩ := ih (k + 1) h
        refine ⟨by omega, w, ?_, hs⟩
        rw [show i - k = i - (k + 1) + 1 by omega]
        simpa using hw

end Members

/-! ## Finished todo lists -/

theorem not_allDone_of_false {items : List Value} (h : allDone items = .ok false) :
    ¬ AllDone items := by
  induction items with
  | nil => simp [allDone] at h
  | cons x xs ih =>
    intro hall
    obtain ⟨d, hd, ht⟩ := hall x List.mem_cons_self
    simp only [allDone, hd, ht, bind, Except.bind, ↓reduceIte] at h
    exact ih h fun y hy => hall y (List.mem_cons_of_mem x hy)

/-- The store's own check that every todo is done holds exactly when each todo has a true
`done`; a todo without one makes it fault. -/
theorem allDone_eq_true_iff {items : List Value} : allDone items = .ok true ↔ AllDone items := by
  induction items with
  | nil => simp [allDone, AllDone]
  | cons x xs ih =>
    unfold AllDone at ih ⊢
    cases hx : x.item "done" with
    | error e => simp [allDone, hx, bind, Except.bind]
    | ok d =>
      cases hd : d.truthy
      · simp [allDone, hx, hd, bind, Except.bind, pure, Except.pure]
      · simp [allDone, hx, hd, bind, Except.bind, ih]

/-- Whether a task is finished, its todos read as the store reads them. -/
def finishedCheck (t : Value) : Bool :=
  match t.get? "todos" with
  | some (.arr items) => !items.isEmpty && match allDone items with
    | .ok b => b
    | .error _ => false
  | _ => false

theorem finished_iff_check (t : Value) : Finished t ↔ finishedCheck t = true := by
  unfold Finished finishedCheck
  split
  · next items h =>
    simp only [h, Option.some.injEq, Value.arr.injEq, exists_eq_left', Bool.and_eq_true,
      Bool.not_eq_true', List.isEmpty_eq_false_iff, ← allDone_eq_true_iff]
    cases allDone items <;> simp
  · next h =>
    simp only [Bool.false_eq_true, iff_false, not_exists, not_and]
    intro items hi
    exact absurd hi (h items)

instance : DecidablePred Finished := fun t => decidable_of_iff _ (finished_iff_check t).symm

theorem completed_iff_same (t : Value) :
    Completed t ↔ (t.getD "status" .null).same (.str "completed") = true := by
  unfold Completed
  cases t.getD "status" .null <;> simp [Value.same, Value.isNumber]

instance : DecidablePred Completed := fun t => decidable_of_iff _ (completed_iff_same t).symm

theorem not_allDone_append_todoOf (xs : List Value) (text : Value) :
    ¬ AllDone (xs ++ [todoOf text]) := by
  intro h
  obtain ⟨d, hd, ht⟩ := h (todoOf text) (by simp)
  simp only [todoOf, Value.item, List.find?, beq_self_eq_true] at hd
  simp [← Except.ok.inj hd, Value.truthy] at ht

theorem freshTask_not_finished (id d stamp : String) : ¬ Finished (freshTask id d stamp) := by
  rintro ⟨items, hitems, hne, -⟩
  simp only [freshTask, Value.get?, List.find?] at hitems
  exact hne (by simpa using hitems.symm)

/-- A task given one more todo is not finished. -/
theorem added_not_finished {t v todos stamp text : Value} (hv : t.item "todos" = .ok v)
    (hp : v.push (todoOf text) = .ok todos) :
    ¬ Finished ((t.set "todos" todos).set "updated" stamp) := by
  rintro ⟨items, hitems, -, hall⟩
  rw [get?_set_ne (by decide), get?_set_self (isObj_of_item hv)] at hitems
  cases v with
  | arr xs =>
    simp only [Value.push, Except.ok.injEq] at hp
    subst hp
    cases hitems
    exact not_allDone_append_todoOf xs text hall
  | _ => simp [Value.push] at hp

theorem marked_completed {t t' stamp : Value} {index : Int}
    (h : markedTask t index stamp = .ok (some t')) (hf : Finished t') : Completed t' := by
  obtain ⟨todos, todos', items, htodos, -, hitems, hdone⟩ := markedTask_eq h
  have hobj : ((t.set "todos" todos').set "updated" stamp).isObj = true := by
    simp only [isObj_set, isObj_of_item htodos]
  rcases hdone with ⟨-, rfl⟩ | ⟨hfalse, rfl⟩
  · exact getD_set_self hobj _
  · -- the marked todos read as not all done, so the task is not finished
    obtain ⟨items', hget, -, hall⟩ := hf
    rw [get?_set_ne (by decide), get?_set_self (isObj_of_item htodos)] at hget
    cases hget
    simp only [Value.elems, Except.ok.injEq] at hitems
    subst hitems
    exact absurd hall (not_allDone_of_false hfalse)

/-! ## The store's operations -/

section Lists

variable {D L : List Value}

theorem CompletesBut.sublist (h : CompletesBut D L) {L' : List Value} (hs : L'.Sublist L) :
    CompletesBut D L' :=
  fun t ht => h t (hs.subset ht)

theorem CompletesBut.mono (h : CompletesBut D L) {D' : List Value} (hD : D ⊆ D') :
    CompletesBut D' L :=
  fun t ht hf => (h t ht hf).imp_right fun ⟨d, hd, hs⟩ => ⟨d, hD hd, hs⟩

theorem CompletesBut.set (h : CompletesBut D L) {t : Value}
    (ht : Finished t → Completed t ∨ ∃ d ∈ D, (t.getD "id" .null).same d = true) (i : Nat) :
    CompletesBut D (L.set i t) :=
  fun u hu => (List.mem_or_eq_of_mem_set hu).elim (h u) fun e => e ▸ ht

theorem completesBut_newTaskOutcome (h : CompletesBut D L) (c : Time.Civil) (d : Value) :
    CompletesBut D (newTaskOutcome c d L).tasks := by
  unfold newTaskOutcome
  split
  · intro t ht hf
    rcases List.mem_append.1 ht with ht | ht
    · exact h t ht hf
    · rw [List.mem_singleton.1 ht] at hf
      exact absurd hf (freshTask_not_finished _ _ _)
  · exact h

theorem completesBut_addTodoOutcome (h : CompletesBut D L) (c : Time.Civil) (id text : Value) :
    CompletesBut D (addTodoOutcome c id text L).tasks := by
  unfold addTodoOutcome
  split
  · exact h
  · exact h
  · next i hr =>
    dsimp only
    split
    · exact h
    · next v hv =>
      split
      · exact h
      · next todos htodos => exact h.set (fun hf => absurd hf (added_not_finished hv htodos)) i

theorem completesBut_markDoneTasks (h : CompletesBut D L) (c : Time.Civil) (id : Value)
    (index : Int) : CompletesBut D (markDoneTasks c id index L) := by
  unfold markDoneTasks
  split
  · next i hi =>
    split
    · next t' ht' => exact h.set (fun hf => .inl (marked_completed ht' hf)) i
    · exact h
  · exact h

theorem completesBut_deleteTodoTasks (h : CompletesBut D L) {id : Value} (hid : id ∈ D)
    (c : Time.Civil) (index : Int) : CompletesBut D (deleteTodoTasks c id index L) := by
  unfold deleteTodoTasks
  split
  · next i hi =>
    split
    · next t' ht' =>
      obtain ⟨_, _, _, _, rfl⟩ := trimmedTask_shape ht'
      obtain ⟨v, hv, hs⟩ := findTask_found hi
      refine h.set (fun _ => .inr ⟨id, hid, ?_⟩) i
      rw [getD_id_stamped _ _ _ _ (by decide), getD_of_item hv]
      exact hs
    · exact h
  · exact h

end Lists

/-! ## Requests, then a session -/

namespace Request

/-- The requests that create tasks, add, mark or delete todos, or move the clock. -/
def EditsTodos : Request → Prop
  | .newTask _ | .addTodo _ _ | .markDone _ _ | .deleteTodo _ _ | .setClock _ => True
  | _ => False

/-- The id a request deletes a todo from. -/
def trimmed : Request → List Value
  | .deleteTodo id _ => [id]
  | _ => []

end Request

def sessionTrimmed (rs : List Request) : List Value := rs.flatMap Request.trimmed

/-- The execution queue holds a tidy list whose finished tasks are completed, or have an id
equal to one of `D`. -/
def FinishedCompleted (D : List Value) (w : Workspace) : Prop :=
  ∃ L, Stored w L ∧ Tidy L ∧ CompletesBut D L

section Steps

variable {D : List Value}

/-- A store operation keeps the invariant when, from every store, the list it writes to the
execution queue keeps it. -/
theorem FinishedCompleted.triple {α : Type} {act : WorkspaceM α}
    (h : ∀ q c L, Tidy L → CompletesBut D L → ∃ X : List Value,
      (q = .execution → Tidy X ∧ CompletesBut D X) ∧
      Triple (StoreAt q c L) act (fun _ => StoreAt q c (written q X L))
        (StoreAt q c (written q X L))) :
    Triple (FinishedCompleted D) act (fun _ => FinishedCompleted D) (FinishedCompleted D) := by
  rintro w ⟨L, hs, hL, hc⟩
  obtain ⟨X, hX, htriple⟩ := h w.queue w.clock L hL hc
  -- what the execution queue holds afterwards keeps the invariant, whichever queue was in use
  have hafter : ∀ w', StoreAt w.queue w.clock (written w.queue X L) w' → FinishedCompleted D w' := by
    intro w' hw'
    cases hq : w.queue with
    | execution =>
      rw [hq] at hw'
      exact ⟨X, hw'.stored, hX hq⟩
    | analysis =>
      rw [hq] at hw'
      exact ⟨L, hw'.stored, hL, hc⟩
  have hrun := htriple w ⟨rfl, rfl, hs⟩
  revert hrun
  rcases act.run.run w with ⟨_ | a, w'⟩
  · exact hafter w'
  · exact hafter w'

theorem triple_newTask_completes (d : Value) :
    Triple (FinishedCompleted D) (newTask d) (fun _ => FinishedCompleted D)
      (FinishedCompleted D) :=
  FinishedCompleted.triple fun _ c L hL hc =>
    ⟨(newTaskOutcome c d (fresh c L)).tasks,
      fun _ => ⟨newTaskOutcome_tidy hL.fresh c d,
        completesBut_newTaskOutcome (hc.sublist List.filter_sublist) c d⟩,
      (triple_newTask hL d).conseq (fun _ h => h) (fun _ _ h => h.2.2) (fun _ h => h.2)⟩

theorem triple_addTodo_completes (id : Value) {text : Value} (htext : text.Plain) :
    Triple (FinishedCompleted D) (addTodo id text) (fun _ => FinishedCompleted D)
      (FinishedCompleted D) :=
  FinishedCompleted.triple fun _ c L hL hc =>
    ⟨(addTodoOutcome c id text (fresh c L)).tasks,
      fun _ => ⟨addTodoOutcome_tidy hL.fresh c id htext,
        completesBut_addTodoOutcome (hc.sublist List.filter_sublist) c id text⟩,
      (triple_addTodo hL id htext).conseq (fun _ h => h) (fun _ _ h => h.2.2) (fun _ h => h.2)⟩

theorem triple_markDone_completes (id : Value) (index : Int) :
    Triple (FinishedCompleted D) (markDone id index) (fun _ => FinishedCompleted D)
      (FinishedCompleted D) :=
  FinishedCompleted.triple fun _ c L hL hc =>
    ⟨markDoneTasks c id index (fresh c L),
      fun _ => ⟨markDoneTasks_tidy hL.fresh c id index,
        completesBut_markDoneTasks (hc.sublist List.filter_sublist) c id index⟩,
      triple_markDone hL id index⟩

theorem triple_deleteTodo_completes {id : Value} (hid : id ∈ D) (index : Int) :
    Triple (FinishedCompleted D) (deleteTodo id index) (fun _ => FinishedCompleted D)
      (FinishedCompleted D) :=
  FinishedCompleted.triple fun _ c L hL hc =>
    ⟨deleteTodoTasks c id index (fresh c L),
      fun _ => ⟨deleteTodoTasks_tidy hL.fresh c id index,
        completesBut_deleteTodoTasks (hc.sublist List.filter_sublist) hid c index⟩,
      triple_deleteTodo hL id index⟩

/-- A request keeps the invariant, once the id it deletes a todo from is allowed. -/
theorem triple_request_completes {r : Request} (hr : r.Plain) (he : r.EditsTodos) :
    Triple (FinishedCompleted D) r.run (fun _ => FinishedCompleted (D ++ r.trimmed))
      (FinishedCompleted (D ++ r.trimmed)) := by
  cases r with
  | newTask d =>
    simp only [Request.trimmed, List.append_nil]
    exact Triple.bind (triple_newTask_completes d) fun _ => Triple.ret () fun _ hw => hw
  | addTodo id text =>
    simp only [Request.trimmed, List.append_nil]
    exact triple_addTodo_completes id hr
  | markDone id index =>
    simp only [Request.trimmed, List.append_nil]
    exact triple_markDone_completes id index
  | deleteTodo id index =>
    -- the invariant with the id allowed holds before, and the deletion keeps it
    refine (triple_deleteTodo_completes (D := D ++ [id]) (by simp) index).conseq ?_
      (fun _ _ h => h) (fun _ h => h)
    rintro w ⟨L, hs, hL, hc⟩
    exact ⟨L, hs, hL, hc.mono (List.subset_append_left D [id])⟩
  | setClock c =>
    simp only [Request.trimmed, List.append_nil]
    exact Triple.update fun _ hw => hw
  | _ => exact he.elim

end Steps

/-- A session of such requests keeps the invariant, with the ids its deletions named allowed,
and never faults. -/
theorem triple_runSession_completes : ∀ (rs : List Request), (∀ r ∈ rs, r.Plain ∧ r.EditsTodos) →
    ∀ D, Triple (FinishedCompleted D) (runSession rs)
      (fun _ => FinishedCompleted (D ++ sessionTrimmed rs)) (fun _ => False)
  | [], _, D => Triple.ret () fun _ hw => by simpa [sessionTrimmed] using hw
  | r :: rs, hrs, D => by
    have hrest := triple_runSession_completes rs (fun r' hr' => hrs r' (List.mem_cons_of_mem r hr'))
      (D ++ r.trimmed)
    have hr := hrs r List.mem_cons_self
    simp only [sessionTrimmed, List.flatMap_cons, List.append_assoc] at hrest ⊢
    exact Triple.bind (Triple.attempt (triple_request_completes hr.1 hr.2) (fun _ _ hw => hw)
      (fun _ _ hw => hw)) fun _ => hrest

/-- After a session of creations, added todos, todos marked done, deleted todos and clock
changes, run from a store whose finished tasks are completed, every finished task is completed
or has an id equal to one that a deletion of the session named. -/
theorem session_finished_completed (rs : List Request) (hrs : ∀ r ∈ rs, r.Plain ∧ r.EditsTodos)
    {w : Workspace} {L : List Value} (hw : Stored w L) (hL : Tidy L)
    (hdone : ∀ t ∈ L, Finished t → Completed t) :
    ∃ L', Stored ((runSession rs).run.run w).2 L' ∧ ∀ t ∈ L', Finished t →
      Completed t ∨ ∃ d ∈ sessionTrimmed rs, (t.getD "id" .null).same d = true := by
  obtain ⟨_, -, L', hs, -, hc⟩ := Triple.run_ok (triple_runSession_completes rs hrs [])
    ⟨L, hw, hL, fun t ht hf => .inl (hdone t ht hf)⟩
  rw [List.nil_append] at hc
  exact ⟨L', hs, hc⟩

/-- From an empty store: a task, two todos, the first marked done, the second deleted. The task
is then finished and still in progress; its id is the one the deletion named. -/
theorem session_finished_completed_after_deletion :
    let rs : List Request := [.newTask (.str "t"),
        .addTodo (.str "20250115T200000_t") (.str "a"),
        .addTodo (.str "20250115T200000_t") (.str "b"),
        .markDone (.str "20250115T200000_t") 0,
        .deleteTodo (.str "20250115T200000_t") 1]
    let w : Workspace := { clock := { year := 2025, month := 1, day := 15, hour := 12 } }
    (∃ L', Stored ((runSession rs).run.run w).2 L' ∧ ∀ t ∈ L', Finished t →
        Completed t ∨ ∃ d ∈ sessionTrimmed rs, (t.getD "id" .null).same d = true) ∧
      ∃ L', Stored ((runSession rs).run.run w).2 L' ∧ ∃ t ∈ L', Finished t ∧ ¬ Completed t := by
  intro rs w
  refine ⟨session_finished_completed rs (fun r hr => ?_) rfl (fun _ h => nomatch h)
    (fun _ h => nomatch h), ?_⟩
  · simp only [rs, List.mem_cons, List.mem_nil_iff, or_false] at hr
    rcases hr with rfl | rfl | rfl | rfl | rfl
    · exact ⟨trivial, trivial⟩
    · exact ⟨.str _, trivial⟩
    · exact ⟨.str _, trivial⟩
    · exact ⟨trivial, trivial⟩
    · exact ⟨trivial, trivial⟩
  -- the lists the five requests leave, each read back by the next
  let c := w.clock
  let id : Value := .str "20250115T200000_t"
  let L₁ := (newTaskOutcome c (.str "t") (fresh c [])).tasks
  let L₂ := (addTodoOutcome c id (.str "a") (fresh c L₁)).tasks
  let L₃ := (addTodoOutcome c id (.str "b") (fresh c L₂)).tasks
  let L₄ := markDoneTasks c id 0 (fresh c L₃)
  let L₅ := deleteTodoTasks c id 1 (fresh c L₄)
  have h₀ : Tidy ([] : List Value) := fun _ h => (List.not_mem_nil h).elim
  have h₁ : Tidy L₁ := newTaskOutcome_tidy h₀.fresh c _
  have h₂ : Tidy L₂ := addTodoOutcome_tidy h₁.fresh c id (.str _)
  have h₃ : Tidy L₃ := addTodoOutcome_tidy h₂.fresh c id (.str _)
  have h₄ : Tidy L₄ := markDoneTasks_tidy h₃.fresh c id 0
  -- each request, caught, moves the store from one list to the next
  have step : ∀ {α : Type} {act : WorkspaceM α} {L L' : List Value} {Q : α → Workspace → Prop}
      {E : Workspace → Prop}, Triple (StoreAt .execution c L) act Q E →
      (∀ a w, Q a w → StoreAt .execution c L' w) → (∀ w, E w → StoreAt .execution c L' w) →
      Triple (StoreAt .execution c L) (attempt act) (fun _ => StoreAt .execution c L')
        (fun _ => False) :=
    fun h hq he => Triple.attempt h (fun a w hw => hq a w hw) fun _ w hw => he w hw
  have hnew := Triple.bind (R := fun _ => StoreAt .execution c L₁) (triple_newTask h₀ (.str "t"))
    fun _ => Triple.ret () fun _ hw => hw.2.2
  have hrun : Triple (StoreAt .execution c []) (runSession rs) (fun _ => StoreAt .execution c L₅)
      (fun _ => False) := by
    simp only [rs, runSession]
    refine Triple.bind (step hnew (fun _ _ hw => hw) fun _ hw => hw.2) fun _ => ?_
    refine Triple.bind (step (triple_addTodo h₁ id (.str _)) (fun _ _ hw => hw.2.2) fun _ hw => hw.2)
      fun _ => ?_
    refine Triple.bind (step (triple_addTodo h₂ id (.str _)) (fun _ _ hw => hw.2.2) fun _ hw => hw.2)
      fun _ => ?_
    refine Triple.bind (step (triple_markDone h₃ id 0) (fun _ _ hw => hw.of_written)
      fun _ hw => hw.of_written) fun _ => ?_
    exact Triple.bind (step (triple_deleteTodo h₄ id 1) (fun _ _ hw => hw.of_written)
      fun _ hw => hw.of_written) fun _ => Triple.ret () fun _ hw => hw
  obtain ⟨_, -, hend⟩ := Triple.run_ok hrun (w := w) ⟨rfl, rfl, rfl⟩
  exact ⟨L₅, hend.stored, by decide +kernel⟩

end Taskflow.Queue
