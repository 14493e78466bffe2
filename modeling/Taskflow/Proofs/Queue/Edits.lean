import Taskflow.Proofs.Queue.Operations
import Taskflow.Proofs.Json.SortPerm
import Taskflow.Queue.Command
/-!
The store's other edits, each as the list it leaves.
-/

namespace Taskflow

theorem bind_eq_ok {ε α β : Type} {x : Except ε α} {f : α → Except ε β} {b : β} :
    x >>= f = .ok b ↔ ∃ a, x = .ok a ∧ f a = .ok b := by
  cases x <;> simp [bind, Except.bind]

end Taskflow

namespace Taskflow.Queue

open Json Workspace

/-! ## The lists the edits leave -/

/-- The task with todo `index` marked done and stamped, and completed once every todo is done;
`none` when the task has no todos or the index is out of range. -/
def markedTask (t : Value) (index : Int) (stamp : Value) : Except Fault (Option Value) := do
  let todos ← t.item "todos"
  if !todos.truthy then return none
  let n ← todos.count
  if index < 0 || index ≥ n then return none
  let todos ← todos.setIndex index (← (← todos.atIndex index).setItem "done" (.bool true))
  let t := (t.set "todos" todos).set "updated" stamp
  return some (if ← allDone (← todos.elems) then t.set "status" (.str "completed") else t)

/-- The list a todo marked done leaves: the first task with the id as `markedTask` makes it. -/
def markDoneTasks (c : Time.Civil) (id : Value) (index : Int) (data : List Value) : List Value :=
  match findTask data id with
  | .ok (some i) => match markedTask (data.getD i .null) index (.str (Time.manila c).iso) with
    | .ok (some t) => data.set i t
    | _ => data
  | _ => data

/-- The task without todo `index`, stamped; `none` when the task has no todos or the index is
out of range. The todo's text is read first, so a todo without one stops the deletion. -/
def trimmedTask (t : Value) (index : Int) (stamp : Value) : Except Fault (Option Value) := do
  let todos ← t.item "todos"
  if !todos.truthy then return none
  let n ← todos.count
  if index < 0 || index ≥ n then return none
  let _ ← (← todos.atIndex index).item "text"
  return some ((t.set "todos" (← todos.removeAt index)).set "updated" stamp)

/-- The list a deleted todo leaves: the first task with the id as `trimmedTask` makes it. -/
def deleteTodoTasks (c : Time.Civil) (id : Value) (index : Int) (data : List Value) :
    List Value :=
  match findTask data id with
  | .ok (some i) => match trimmedTask (data.getD i .null) index (.str (Time.manila c).iso) with
    | .ok (some t) => data.set i t
    | _ => data
  | _ => data

/-- The list a deleted task leaves: the tasks whose id is another; all of them when a task has
no id. -/
def hardDeleteTasks (id : Value) (data : List Value) : List Value :=
  match data.mapM fun t => do return !(← t.item "id").same id with
  | .ok keep => ((data.zip keep).filter (·.2)).map (·.1)
  | .error _ => data

def cleanupTasks (data : List Value) : List Value :=
  data.filter fun t => !(t.getD "status" .null).same (.str "completed")

/-! ## Edited tasks stay plain -/

section Plain

variable {t t' stamp : Value} {index : Int}

/-- A marked task is the task with its todos replaced by the marked ones and a new stamp, and
completed exactly when the marked todos read as all done. -/
theorem markedTask_eq (h : markedTask t index stamp = .ok (some t')) :
    ∃ todos todos' items, t.item "todos" = .ok todos ∧
      (∃ x todo, todos.atIndex index = .ok x ∧ x.setItem "done" (.bool true) = .ok todo ∧
        todos.setIndex index todo = .ok todos') ∧ todos'.elems = .ok items ∧
      (allDone items = .ok true ∧
          t' = ((t.set "todos" todos').set "updated" stamp).set "status" (.str "completed") ∨
        allDone items = .ok false ∧ t' = (t.set "todos" todos').set "updated" stamp) := by
  simp only [markedTask, bind_eq_ok] at h
  obtain ⟨todos, htodos, h⟩ := h
  -- the two early returns give no task
  split at h
  · simp [pure, Except.pure] at h
  obtain ⟨n, -, h⟩ := bind_eq_ok.1 h
  split at h
  · simp [pure, Except.pure] at h
  obtain ⟨x, hx, h⟩ := bind_eq_ok.1 h
  obtain ⟨todo, htodo, h⟩ := bind_eq_ok.1 h
  obtain ⟨todos', htodos', h⟩ := bind_eq_ok.1 h
  obtain ⟨items, hitems, h⟩ := bind_eq_ok.1 h
  obtain ⟨all, hall, h⟩ := bind_eq_ok.1 h
  simp only [pure, Except.pure, Except.ok.injEq, Option.some.injEq] at h
  refine ⟨todos, todos', items, htodos, ⟨x, todo, hx, htodo, htodos'⟩, hitems, ?_⟩
  subst h
  cases all
  · exact .inr ⟨hall, rfl⟩
  · exact .inl ⟨hall, rfl⟩

/-- A marked task is the task with its todos replaced by the marked ones and a new stamp,
completed or not. -/
theorem markedTask_shape (h : markedTask t index stamp = .ok (some t')) :
    ∃ todos todos', t.item "todos" = .ok todos ∧
      (∃ x todo, todos.atIndex index = .ok x ∧ x.setItem "done" (.bool true) = .ok todo ∧
        todos.setIndex index todo = .ok todos') ∧
      (t' = ((t.set "todos" todos').set "updated" stamp).set "status" (.str "completed") ∨
        t' = (t.set "todos" todos').set "updated" stamp) := by
  obtain ⟨todos, todos', _, htodos, hmark, _, ht'⟩ := markedTask_eq h
  exact ⟨todos, todos', htodos, hmark, Or.imp (·.2) (·.2) ht'⟩

/-- A trimmed task is the task with its todos replaced by the remaining ones and a new stamp. -/
theorem trimmedTask_shape (h : trimmedTask t index stamp = .ok (some t')) :
    ∃ todos todos', t.item "todos" = .ok todos ∧ todos.removeAt index = .ok todos' ∧
      t' = (t.set "todos" todos').set "updated" stamp := by
  simp only [trimmedTask, bind_eq_ok] at h
  obtain ⟨todos, htodos, h⟩ := h
  split at h
  · simp [pure, Except.pure] at h
  obtain ⟨n, -, h⟩ := bind_eq_ok.1 h
  split at h
  · simp [pure, Except.pure] at h
  obtain ⟨x, -, h⟩ := bind_eq_ok.1 h
  obtain ⟨text, -, h⟩ := bind_eq_ok.1 h
  obtain ⟨todos', htodos', h⟩ := bind_eq_ok.1 h
  simp only [pure, Except.pure, Except.ok.injEq, Option.some.injEq] at h
  exact ⟨todos, todos', htodos, htodos', h.symm⟩

theorem markedTask_plain (ht : t.Plain) (hs : stamp.Plain)
    (h : markedTask t index stamp = .ok (some t')) : t'.Plain ∧ t'.isObj = t.isObj := by
  obtain ⟨todos, todos', htodos, ⟨x, todo, hx, htodo, htodos'⟩, ht'⟩ := markedTask_shape h
  have hp := ht.item htodos
  have hp' : todos'.Plain := hp.setIndex ((hp.atIndex hx).setItem (.bool true) htodo) htodos'
  have hset : ((t.set "todos" todos').set "updated" stamp).Plain := (ht.set hp' _).set hs _
  rcases ht' with rfl | rfl
  · exact ⟨hset.set (.str _) _, by simp only [isObj_set]⟩
  · exact ⟨hset, by simp only [isObj_set]⟩

theorem trimmedTask_plain (ht : t.Plain) (hs : stamp.Plain)
    (h : trimmedTask t index stamp = .ok (some t')) : t'.Plain ∧ t'.isObj = t.isObj := by
  obtain ⟨todos, todos', htodos, htodos', rfl⟩ := trimmedTask_shape h
  exact ⟨(ht.set ((ht.item htodos).removeAt htodos') _).set hs _, by simp only [isObj_set]⟩

end Plain

section Tidy

variable {data : List Value}

theorem markDoneTasks_tidy (h : Tidy data) (c : Time.Civil) (id : Value) (index : Int) :
    Tidy (markDoneTasks c id index data) := by
  unfold markDoneTasks
  split
  · next i hi =>
    split
    · next t' ht' =>
      have ht := h.getD (findTask_lt hi)
      obtain ⟨hp, hobj⟩ := markedTask_plain ht.1 (.str _) ht'
      exact h.set ⟨hp, hobj.trans ht.2⟩ i
    · exact h
  · exact h

theorem deleteTodoTasks_tidy (h : Tidy data) (c : Time.Civil) (id : Value) (index : Int) :
    Tidy (deleteTodoTasks c id index data) := by
  unfold deleteTodoTasks
  split
  · next i hi =>
    split
    · next t' ht' =>
      have ht := h.getD (findTask_lt hi)
      obtain ⟨hp, hobj⟩ := trimmedTask_plain ht.1 (.str _) ht'
      exact h.set ⟨hp, hobj.trans ht.2⟩ i
    · exact h
  · exact h

theorem markedTask_clean {c c' : Time.Civil} {t t' : Value} {index : Int} (ht : t.isObj = true)
    (h : markedTask t index (stampAt c') = .ok (some t')) : t'.isObj = true ∧ isStale c t' = false := by
  obtain ⟨-, todos', -, -, rfl | rfl⟩ := markedTask_shape h
  · exact stamped_status_clean (by rw [isObj_set, ht]) _
  · exact stamped_clean (by rw [isObj_set, ht])

theorem trimmedTask_clean {c c' : Time.Civil} {t t' : Value} {index : Int} (ht : t.isObj = true)
    (h : trimmedTask t index (stampAt c') = .ok (some t')) : t'.isObj = true ∧ isStale c t' = false := by
  obtain ⟨-, todos', -, -, rfl⟩ := trimmedTask_shape h
  exact stamped_clean (by rw [isObj_set, ht])

theorem markDoneTasks_clean {c₀ : Time.Civil} (h : ReadsClean c₀ data) (c : Time.Civil) (id : Value)
    (index : Int) : ReadsClean c₀ (markDoneTasks c id index data) := by
  unfold markDoneTasks
  split
  · next i hi =>
    split
    · next t' ht' =>
      obtain ⟨hobj, hstale⟩ := markedTask_clean (h.isObj_getD (findTask_lt hi)) ht'
      exact h.set hobj hstale i
    · exact h
  · exact h

theorem deleteTodoTasks_clean {c₀ : Time.Civil} (h : ReadsClean c₀ data) (c : Time.Civil)
    (id : Value) (index : Int) : ReadsClean c₀ (deleteTodoTasks c id index data) := by
  unfold deleteTodoTasks
  split
  · next i hi =>
    split
    · next t' ht' =>
      obtain ⟨hobj, hstale⟩ := trimmedTask_clean (h.isObj_getD (findTask_lt hi)) ht'
      exact h.set hobj hstale i
    · exact h
  · exact h

theorem kept_sublist (data : List Value) {keep : List Bool} (hlen : data.length ≤ keep.length) :
    (((data.zip keep).filter (·.2)).map (·.1)).Sublist data :=
  calc List.Sublist _ ((data.zip keep).map (·.1)) := List.Sublist.map _ List.filter_sublist
    _ = data := List.map_fst_zip hlen

theorem hardDeleteTasks_sublist (id : Value) (data : List Value) :
    (hardDeleteTasks id data).Sublist data := by
  unfold hardDeleteTasks
  split
  · next keep hkeep => exact kept_sublist data (Nat.le_of_eq (length_mapM_eq hkeep).symm)
  · exact List.Sublist.refl data

end Tidy

/-! ## Specs -/

section Specs

variable {q : Queue} {c : Time.Civil} {L : List Value}

theorem markDoneTasks_of_found {data : List Value} {id : Value} {index : Int} {i : Nat}
    (hr : findTask data id = .ok (some i))
    (hm : ∀ t, markedTask (data.getD i .null) index (.str (Time.manila c).iso) ≠ .ok (some t)) :
    markDoneTasks c id index data = data := by
  unfold markDoneTasks
  rw [hr]
  dsimp only
  split
  · next t ht => exact absurd ht (hm t)
  · rfl

theorem triple_markDone (hL : Tidy L) (id : Value) (index : Int) :
    Triple (StoreAt q c L) (markDone id index)
      (fun _ => StoreAt q c (written q (markDoneTasks c id index (fresh c L)) L))
      (StoreAt q c (written q (markDoneTasks c id index (fresh c L)) L)) := by
  unfold markDone
  refine triple_loaded_store (markDoneTasks c id index) hL fun data hdata hclean => ?_
  refine Triple.lift_bind (fun e he w hw => ?_) fun r hr => ?_
  · simpa only [markDoneTasks, he] using hw
  rcases r with _ | i
  · exact Keeps.storeAt_of_eq (keeps_sayMissing keeps_say id) (by simp only [markDoneTasks, hr])
  dsimp only
  -- each step that stops before the write leaves the list as read
  have stop : (∀ t, markedTask (data.getD i .null) index (.str (Time.manila c).iso) ≠
      .ok (some t)) → written q (markDoneTasks c id index data) L = written q data L :=
    fun hm => by rw [markDoneTasks_of_found hr hm]
  refine Triple.lift_bind (fun e he w hw => (stop fun t h => by
    simp only [markedTask, he, bind, Except.bind] at h; cases h) ▸ hw) fun todos htodos => ?_
  refine Triple.ite (fun hno => Keeps.storeAt_of_eq (Keeps.bind (keeps_say _) fun _ =>
    Keeps.bind (keeps_say _) fun _ => Keeps.ret _) (stop fun t h => by
      simp only [markedTask, htodos, hno, bind, Except.bind, ↓reduceIte, pure, Except.pure] at h
      cases h)) fun hno => ?_
  refine Triple.lift_bind (fun e he w hw => (stop fun t h => by
    simp only [markedTask, htodos, hno, he, bind, Except.bind] at h; cases h) ▸ hw)
    fun n hn => ?_
  refine Triple.ite (fun hbad => Keeps.storeAt_of_eq (Keeps.bind (keeps_sayBadIndex keeps_say _ _) fun _ =>
    Keeps.ret _) (stop fun t h => by
      simp only [markedTask, htodos, hno, hn, hbad, bind, Except.bind, ↓reduceIte, pure,
        Except.pure] at h
      cases h)) fun hbad => ?_
  refine Triple.lift_bind (fun e he w hw => (stop fun t h => by
    simp only [markedTask, htodos, hno, hn, hbad, he, bind, Except.bind] at h
    cases h) ▸ hw) fun x hx => ?_
  refine Triple.lift_bind (fun e he w hw => (stop fun t h => by
    simp only [markedTask, htodos, hno, hn, hbad, hx, he, bind, Except.bind] at h
    cases h) ▸ hw) fun todo htodo => ?_
  refine Triple.lift_bind (fun e he w hw => (stop fun t h => by
    simp only [markedTask, htodos, hno, hn, hbad, hx, htodo, he, bind, Except.bind] at h
    cases h) ▸ hw) fun todos' htodos' => ?_
  refine Triple.bind triple_stampNow fun s => Triple.pure_pre fun hs => ?_
  subst hs
  refine Triple.lift_bind (fun e he w hw => (stop fun t h => by
    simp only [markedTask, htodos, hno, hn, hbad, hx, htodo, htodos', he, bind, Except.bind] at h
    cases h) ▸ hw) fun items hitems => ?_
  refine Triple.lift_bind (fun e he w hw => (stop fun t h => by
    simp only [markedTask, htodos, hno, hn, hbad, hx, htodo, htodos', hitems, he, bind,
      Except.bind] at h
    cases h) ▸ hw) fun all hall => ?_
  -- every step went through: the list written is the marked one
  have hmarked : markDoneTasks c id index data = data.set i
      (if all = true then (((data.getD i .null).set "todos" todos').set "updated"
        (.str (Time.manila c).iso)).set "status" (.str "completed")
      else ((data.getD i .null).set "todos" todos').set "updated" (.str (Time.manila c).iso)) := by
    simp only [markDoneTasks, hr, markedTask, htodos, hno, hn, hbad, hx, htodo, htodos', hitems,
      hall, bind, Except.bind, Bool.false_eq_true, ↓reduceIte, pure, Except.pure]
  refine Triple.bind (triple_save (fun hq => hmarked ▸ markDoneTasks_tidy (hdata hq) c id index)
    (hmarked ▸ markDoneTasks_clean hclean c id index)) fun _ => ?_
  rw [written_written, ← hmarked]
  exact Keeps.storeAt (Keeps.bind (Keeps.lift _) fun _ => Keeps.bind (Keeps.lift _) fun _ =>
    keeps_say _)

theorem deleteTodoTasks_of_found {data : List Value} {id : Value} {index : Int} {i : Nat}
    (hr : findTask data id = .ok (some i))
    (hm : ∀ t, trimmedTask (data.getD i .null) index (.str (Time.manila c).iso) ≠ .ok (some t)) :
    deleteTodoTasks c id index data = data := by
  unfold deleteTodoTasks
  rw [hr]
  dsimp only
  split
  · next t ht => exact absurd ht (hm t)
  · rfl

theorem triple_deleteTodo (hL : Tidy L) (id : Value) (index : Int) :
    Triple (StoreAt q c L) (deleteTodo id index)
      (fun _ => StoreAt q c (written q (deleteTodoTasks c id index (fresh c L)) L))
      (StoreAt q c (written q (deleteTodoTasks c id index (fresh c L)) L)) := by
  unfold deleteTodo
  refine triple_loaded_store (deleteTodoTasks c id index) hL fun data hdata hclean => ?_
  refine Triple.lift_bind (fun e he w hw => ?_) fun r hr => ?_
  · simpa only [deleteTodoTasks, he] using hw
  rcases r with _ | i
  · exact Keeps.storeAt_of_eq (keeps_sayMissing keeps_say id) (by simp only [deleteTodoTasks, hr])
  dsimp only
  -- each step that stops before the write leaves the list as read
  have stop : (∀ t, trimmedTask (data.getD i .null) index (.str (Time.manila c).iso) ≠
      .ok (some t)) → written q (deleteTodoTasks c id index data) L = written q data L :=
    fun hm => by rw [deleteTodoTasks_of_found hr hm]
  refine Triple.lift_bind (fun e he w hw => (stop fun t h => by
    simp only [trimmedTask, he, bind, Except.bind] at h; cases h) ▸ hw) fun todos htodos => ?_
  refine Triple.ite (fun hno => Keeps.storeAt_of_eq (Keeps.bind (keeps_say _) fun _ =>
    Keeps.ret _) (stop fun t h => by
      simp only [trimmedTask, htodos, hno, bind, Except.bind, ↓reduceIte, pure, Except.pure] at h
      cases h)) fun hno => ?_
  refine Triple.lift_bind (fun e he w hw => (stop fun t h => by
    simp only [trimmedTask, htodos, hno, he, bind, Except.bind] at h; cases h) ▸ hw)
    fun n hn => ?_
  refine Triple.ite (fun hbad => Keeps.storeAt_of_eq (Keeps.bind (keeps_sayBadIndex keeps_say _ _) fun _ =>
    Keeps.ret _) (stop fun t h => by
      simp only [trimmedTask, htodos, hno, hn, hbad, bind, Except.bind, ↓reduceIte, pure,
        Except.pure] at h
      cases h)) fun hbad => ?_
  refine Triple.lift_bind (fun e he w hw => (stop fun t h => by
    simp only [trimmedTask, htodos, hno, hn, hbad, he, bind, Except.bind] at h
    cases h) ▸ hw) fun x hx => ?_
  refine Triple.lift_bind (fun e he w hw => (stop fun t h => by
    simp only [trimmedTask, htodos, hno, hn, hbad, hx, he, bind, Except.bind] at h
    cases h) ▸ hw) fun text htext => ?_
  refine Triple.lift_bind (fun e he w hw => (stop fun t h => by
    simp only [trimmedTask, htodos, hno, hn, hbad, hx, htext, he, bind, Except.bind] at h
    cases h) ▸ hw) fun todos' htodos' => ?_
  refine Triple.bind triple_stampNow fun s => Triple.pure_pre fun hs => ?_
  subst hs
  -- every step went through: the list written is the trimmed one
  have htrimmed : deleteTodoTasks c id index data = data.set i
      (((data.getD i .null).set "todos" todos').set "updated" (.str (Time.manila c).iso)) := by
    simp only [deleteTodoTasks, hr, trimmedTask, htodos, hno, hn, hbad, hx, htext, htodos', bind,
      Except.bind, Bool.false_eq_true, ↓reduceIte, pure, Except.pure]
  refine Triple.bind (triple_save (fun hq => htrimmed ▸ deleteTodoTasks_tidy (hdata hq) c id index)
    (htrimmed ▸ deleteTodoTasks_clean hclean c id index)) fun _ => ?_
  rw [written_written, ← htrimmed]
  refine Keeps.storeAt (Keeps.bind (keeps_say _) fun _ => ?_)
  split
  · exact Keeps.bind (keeps_say _) fun _ => keeps_sayTodos keeps_say _ _
  · exact keeps_say _

theorem triple_hardDelete (hL : Tidy L) (id : Value) :
    Triple (StoreAt q c L) (hardDelete id)
      (fun _ => StoreAt q c (written q (hardDeleteTasks id (fresh c L)) L))
      (StoreAt q c (written q (hardDeleteTasks id (fresh c L)) L)) := by
  unfold hardDelete
  refine triple_loaded_store (hardDeleteTasks id) hL fun data hdata hclean => ?_
  refine Triple.lift_bind (fun e he w hw => by simpa only [hardDeleteTasks, he] using hw)
    fun keep hkeep => ?_
  have hkept : hardDeleteTasks id data = ((data.zip keep).filter (·.2)).map (·.1) := by
    simp only [hardDeleteTasks, hkeep]
  refine Triple.ite (fun hlt => ?_) fun hge => ?_
  · refine Triple.bind (triple_save (fun hq =>
      hkept ▸ (hdata hq).sublist (hardDeleteTasks_sublist id data))
      (hkept ▸ hclean.sublist (hardDeleteTasks_sublist id data))) fun _ => ?_
    rw [written_written, ← hkept]
    refine Keeps.storeAt (Keeps.bind (keeps_say _) fun _ =>
      Keeps.bind (Keeps.attempt (keeps_forgetInterrupted id)) fun r => ?_)
    extract_lets jp
    -- the cleanups after the write print their own failures
    have hjp : ∀ u, Keeps storeView (jp u) := fun _ =>
      Keeps.bind (Keeps.attempt (keeps_forgetInFiles id)) fun r' => by
        split
        · exact keeps_say _
        · exact Keeps.ret _
    split
    · exact Keeps.bind (keeps_say _) hjp
    · exact hjp ()
  · -- nothing was left out, so the kept list is the list
    have hle := (hardDeleteTasks_sublist id data).length_le
    rw [hkept] at hle
    have heq : hardDeleteTasks id data = data :=
      (hardDeleteTasks_sublist id data).eq_of_length (by rw [hkept]; omega)
    exact Keeps.storeAt_of_eq (keeps_sayMissing keeps_say id) (by rw [heq])

theorem triple_cleanupCompleted (hL : Tidy L) :
    Triple (StoreAt q c L) cleanupCompleted
      (fun _ => StoreAt q c (written q (cleanupTasks (fresh c L)) L))
      (StoreAt q c (written q (cleanupTasks (fresh c L)) L)) := by
  unfold cleanupCompleted
  refine triple_loaded_store cleanupTasks hL fun data hdata hclean => ?_
  refine Triple.ite (fun hpos => ?_) fun hzero => ?_
  · refine Triple.bind (triple_save (fun hq => (hdata hq).sublist List.filter_sublist)
      (hclean.sublist List.filter_sublist)) fun _ => ?_
    rw [written_written]
    exact Keeps.storeAt (keeps_say _)
  · -- nothing is completed, so the list stays
    have hle := List.length_filter_le (fun t => !(t.getD "status" .null).same (.str "completed")) data
    have heq : cleanupTasks data = data :=
      List.filter_eq_self.2 (List.length_filter_eq_length_iff.1 (by omega))
    exact Keeps.storeAt_of_eq (keeps_say _) (by rw [heq])

/-- Showing a task reads the list, then only prints. -/
theorem showTask_loads {γ : Type} {π : Workspace → γ} (hsay : ∀ line, Keeps π (say line))
    (id : Value) : ∃ body : List Value → WorkspaceM Unit,
    showTask id = load >>= body ∧ ∀ data, Keeps π (body data) := by
  refine ⟨_, rfl, fun data => ?_⟩
  refine Keeps.bind (Keeps.lift _) fun r => ?_
  rcases r with _ | i
  · exact keeps_sayMissing hsay id
  dsimp only
  refine Keeps.bind (hsay _) fun _ =>
    Keeps.bind (Keeps.forIn (fun _ _ => ?_) _ _) fun _ => ?_
  · exact Keeps.bind (Keeps.lift _) fun _ => Keeps.bind (hsay _) fun _ => Keeps.ret _
  refine Keeps.bind (Keeps.lift _) fun todos => ?_
  split
  · exact Keeps.bind (Keeps.lift _) fun _ => Keeps.bind (hsay _) fun _ =>
      Keeps.bind (Keeps.lift _) fun items => Keeps.bind (Keeps.foldlM items 0 fun _ _ =>
        Keeps.bind (Keeps.lift _) fun _ => Keeps.bind (keeps_field _ _) fun _ =>
          Keeps.bind (hsay _) fun _ => Keeps.ret _) fun _ => Keeps.ret _
  · exact hsay _

theorem triple_showTask (hL : Tidy L) (id : Value) :
    Triple (StoreAt q c L) (showTask id) (fun _ => StoreAt q c (written q (fresh c L) L))
      (StoreAt q c (written q (fresh c L) L)) := by
  obtain ⟨body, hshow, hbody⟩ := showTask_loads keeps_say id
  rw [hshow]
  exact triple_loaded_store (fun data => data) hL fun data _ _ => Keeps.storeAt (hbody data)

theorem keeps_readIndex {β : Type} {π : Workspace → β} (hsay : ∀ line, Keeps π (say line))
    (verb raw : String) : Keeps π (readIndex verb raw) := by
  unfold readIndex
  split
  · exact Keeps.ret _
  · extract_lets jp
    have hjp : ∀ u, Keeps π (jp u) := fun _ => Keeps.bind (hsay _) fun _ => Keeps.ret _
    split
    · exact Keeps.bind (hsay _) hjp
    · exact Keeps.bind (hsay _) hjp

theorem keeps_gate {β : Type} {π : Workspace → β} (id : Value) : Keeps π (gate id) :=
  Keeps.bind (fun _ => rfl) fun _ => Keeps.lift _

theorem keeps_sayCommands {γ : Type} {π : Workspace → γ} (hsay : ∀ line, Keeps π (say line))
    (cmds : List String) : Keeps π (sayCommands cmds) :=
  Keeps.bind (Keeps.forIn (fun _ _ => Keeps.bind (hsay _) fun _ => Keeps.ret _) _ _) fun _ => hsay _

/-- Previewing a sub-step reads the list, then only prints. -/
theorem previewSubStep_loads {γ : Type} {π : Workspace → γ} (hsay : ∀ line, Keeps π (say line))
    (id sub : Value) : ∃ body : List Value → WorkspaceM Unit,
    previewSubStep id sub = load >>= body ∧ ∀ data, Keeps π (body data) := by
  refine ⟨_, rfl, fun data => ?_⟩
  split
  · split
    · next phase cmd _ =>
      refine Keeps.bind (Keeps.lift _) fun todos => ?_
      split
      · exact Keeps.bind (Keeps.lift _) fun _ => Keeps.bind (hsay _) fun _ => Keeps.ret _
      refine Keeps.bind (Keeps.lift _) fun n => ?_
      split
      · exact Keeps.bind (hsay _) fun _ => Keeps.ret _
      refine Keeps.bind (Keeps.lift _) fun _ => Keeps.bind (Keeps.lift _) fun _ =>
        Keeps.bind (Keeps.lift _) fun blocks => ?_
      split
      · extract_lets lines jp
        -- the commands are printed, or why there are none
        have hjp : ∀ s, Keeps π (jp s) := fun s => by
          simp only [jp]
          split
          · exact Keeps.bind (hsay _) fun _ => Keeps.ret _
          · split
            · exact Keeps.bind (hsay _) fun _ => keeps_sayCommands hsay _
            · split
              · exact hsay _
              · exact Keeps.bind (hsay _) fun _ => keeps_sayCommands hsay _
        split
        · exact Keeps.bind (Keeps.ret _) hjp
        · split
          · exact Keeps.bind (Keeps.ret _) hjp
          · exact Keeps.bind (Keeps.fault _) hjp
      · exact hsay _
    · exact hsay _
  · exact keeps_sayMissing hsay id

theorem triple_previewSubStep (hL : Tidy L) (id sub : Value) :
    Triple (StoreAt q c L) (previewSubStep id sub) (fun _ => StoreAt q c (written q (fresh c L) L))
      (StoreAt q c (written q (fresh c L) L)) := by
  obtain ⟨body, hpreview, hbody⟩ := previewSubStep_loads keeps_say id sub
  rw [hpreview]
  exact triple_loaded_store (fun data => data) hL fun data _ _ => Keeps.storeAt (hbody data)

theorem triple_useQueue (q' : Queue) {E : Workspace → Prop} :
    Triple (StoreAt q c L) (useQueue q') (fun _ => StoreAt q' c L) E :=
  Triple.update fun _ hw => ⟨rfl, hw.clock, hw.stored⟩

/-- Listing the open tasks chooses the execution queue and reads the list, then only prints. -/
theorem sayOpenTasks_lists {γ : Type} {π : Workspace → γ} (hsay : ∀ line, Keeps π (say line)) :
    ∃ body : List Value → WorkspaceM Unit,
      sayOpenTasks = (useQueue .execution >>= fun _ => listOpen >>= body) ∧
        ∀ tasks, Keeps π (body tasks) := by
  refine ⟨_, rfl, fun tasks => ?_⟩
  split
  · exact Keeps.bind (hsay _) fun _ => hsay _
  · exact Keeps.bind (hsay _) fun _ => Keeps.bind (Keeps.forIn (fun _ _ =>
      Keeps.bind (keeps_printTask hsay _) fun _ => Keeps.bind (hsay _) fun _ => Keeps.ret _) _ _)
      fun _ => Keeps.ret _

/-- Listing the open tasks works on the execution queue from then on. -/
theorem triple_sayOpenTasks (hL : Tidy L) :
    Triple (StoreAt q c L) sayOpenTasks (fun _ => StoreAt .execution c (fresh c L))
      (StoreAt .execution c (fresh c L)) := by
  obtain ⟨body, hlist, hbody⟩ := sayOpenTasks_lists keeps_say
  rw [hlist]
  exact Triple.bind (triple_useQueue .execution) fun _ =>
    Triple.bind ((triple_listOpen_ok hL).conseq (fun _ h => h) (fun _ _ h => h)
      (fun _ h => h.elim)) fun tasks => Triple.pure_pre fun _ => Keeps.storeAt (hbody tasks)

end Specs

end Taskflow.Queue
