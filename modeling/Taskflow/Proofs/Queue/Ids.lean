import Taskflow.Proofs.Queue.Edits
import Taskflow.Task.Execute
/-!
Where the ids of the stored tasks come from.
-/

namespace Taskflow.Queue

open Json Workspace

def ids (L : List Value) : List Value := L.map fun t => t.getD "id" .null

/-- The id a creation request makes at clock `c`: one for a text description, none otherwise. -/
def madeBy (c : Time.Civil) : Value → List Value
  | .str s => [.str (newId (Time.manila c).civil s)]
  | _ => []

/-! ## Edits keep the ids -/

section Edits

variable {c : Time.Civil} {data : List Value}

theorem ids_set {i : Nat} {t : Value} (hi : i < data.length)
    (h : t.getD "id" .null = (data.getD i .null).getD "id" .null) : ids (data.set i t) = ids data := by
  rw [← List.getElem_eq_getD (h := hi)] at h
  apply List.ext_getElem (by simp [ids])
  intro j h₁ h₂
  simp only [ids, List.getElem_map, List.getElem_set]
  split
  · next hij => subst hij; exact h
  · rfl

theorem getD_id_stamped (t x s : Value) (k : String) (hk : k ≠ "id") :
    ((t.set k x).set "updated" s).getD "id" .null = t.getD "id" .null := by
  rw [getD_set_ne (by decide), getD_set_ne hk]

theorem ids_newTaskOutcome (description : Value) :
    ids (newTaskOutcome c description data).tasks = ids data ++ madeBy c description := by
  cases description <;> simp [newTaskOutcome, madeBy, ids, freshTask, Value.getD, Value.get?]

theorem ids_addTodoOutcome (id text : Value) : ids (addTodoOutcome c id text data).tasks = ids data := by
  unfold addTodoOutcome
  split
  · rfl
  · rfl
  · next i hr =>
    dsimp only
    split
    · rfl
    · split
      · rfl
      · exact ids_set (findTask_lt hr) (getD_id_stamped _ _ _ _ (by decide))

theorem ids_setStatusOutcome (id status : Value) :
    ids (setStatusOutcome c id status data).tasks = ids data := by
  unfold setStatusOutcome
  split
  · rfl
  · rfl
  · next i hr => exact ids_set (findTask_lt hr) (getD_id_stamped _ _ _ _ (by decide))

theorem ids_markDoneTasks (id : Value) (index : Int) :
    ids (markDoneTasks c id index data) = ids data := by
  unfold markDoneTasks
  split
  · next i hr =>
    split
    · next t' ht' =>
      refine ids_set (findTask_lt hr) ?_
      obtain ⟨_, _, _, _, h⟩ := markedTask_shape ht'
      rcases h with rfl | rfl
      · rw [getD_set_ne (by decide), getD_id_stamped _ _ _ _ (by decide)]
      · exact getD_id_stamped _ _ _ _ (by decide)
    · rfl
  · rfl

theorem ids_deleteTodoTasks (id : Value) (index : Int) :
    ids (deleteTodoTasks c id index data) = ids data := by
  unfold deleteTodoTasks
  split
  · next i hr =>
    split
    · next t' ht' =>
      obtain ⟨_, _, _, _, rfl⟩ := trimmedTask_shape ht'
      exact ids_set (findTask_lt hr) (getD_id_stamped _ _ _ _ (by decide))
    · rfl
  · rfl

theorem ids_sublist {L' : List Value} (h : L'.Sublist data) : (ids L').Sublist (ids data) :=
  h.map _

end Edits

/-! ## Growing the ids -/

/-- At clock `c`, the execution queue holds a tidy list whose ids are, in order, among `M`. -/
structure IdsAmong (c : Time.Civil) (M : List Value) (w : Workspace) : Prop where
  clock : w.clock = c
  stored : ∃ L, Stored w L ∧ Tidy L ∧ (ids L).Sublist M

/-- From a store whose ids are among `M`, the action leaves them among `M ++ e`, whether it
returns or faults. -/
def Grows {α : Type} (c : Time.Civil) (e : List Value) (act : WorkspaceM α) : Prop :=
  ∀ M, Triple (IdsAmong c M) act (fun _ => IdsAmong c (M ++ e)) (IdsAmong c (M ++ e))

section Rules

variable {α β : Type} {c : Time.Civil} {e e₁ e₂ M M' : List Value} {act : WorkspaceM α}

theorem IdsAmong.mono {w : Workspace} (h : IdsAmong c M w) (hM : M.Sublist M') :
    IdsAmong c M' w :=
  let ⟨L, hs, hL, hsub⟩ := h.stored
  ⟨h.clock, L, hs, hL, hsub.trans hM⟩

/-- What the execution queue holds after an operation on queue `q` that left `L'` of the list
`L` it started from: tidy, with ids among `M ++ e` when those of `L'` are among those of `L`
and then `e`. -/
theorem IdsAmong.of_written {q : Queue} {L L' : List Value} {w : Workspace} (hL : Tidy L)
    (hsub : (ids L).Sublist M) (hL' : Tidy L') (hsub' : (ids L').Sublist (ids L ++ e))
    (hw : StoreAt q c (written q L' L) w) : IdsAmong c (M ++ e) w := by
  refine ⟨hw.clock, _, hw.stored, ?_⟩
  cases q with
  | execution => exact ⟨hL', hsub'.trans (hsub.append (List.Sublist.refl e))⟩
  | analysis => exact ⟨hL, hsub.trans (List.sublist_append_left M e)⟩

theorem Grows.mono (h : Grows c e act) (he : e.Sublist e') : Grows c e' act := fun M =>
  (h M).conseq (fun _ hw => hw) (fun _ _ hw => hw.mono ((List.Sublist.refl M).append he))
    (fun _ hw => hw.mono ((List.Sublist.refl M).append he))

theorem Grows.of_keeps (h : Keeps storeView act) : Grows c [] act := fun M => by
  rw [List.append_nil]
  exact h.triple fun w w' hv hw => by
    simp only [storeView, Prod.mk.injEq] at hv
    obtain ⟨L, hs, hL, hsub⟩ := hw.stored
    exact ⟨hv.2.1.trans hw.clock, L, by rw [Stored, hv.2.2]; exact hs, hL, hsub⟩

theorem Grows.ret (a : α) : Grows c [] (pure a : WorkspaceM α) := Grows.of_keeps (Keeps.ret a)

theorem Grows.bind {x : WorkspaceM α} {f : α → WorkspaceM β} (hx : Grows c e₁ x)
    (hf : ∀ a, Grows c e₂ (f a)) : Grows c (e₁ ++ e₂) (x >>= f) := fun M => by
  refine Triple.bind ((hx M).conseq (fun _ hw => hw) (fun _ _ hw => hw)
    (fun _ hw => hw.mono (by rw [← List.append_assoc]; exact List.sublist_append_left _ _)))
    fun a => ?_
  rw [← List.append_assoc]
  exact hf a (M ++ e₁)

theorem Grows.bind_nil {x : WorkspaceM α} {f : α → WorkspaceM β} (hx : Grows c [] x)
    (hf : ∀ a, Grows c e (f a)) : Grows c e (x >>= f) := by
  simpa only [List.nil_append] using Grows.bind hx hf

theorem Grows.bind_nil_right {x : WorkspaceM α} {f : α → WorkspaceM β} (hx : Grows c e x)
    (hf : ∀ a, Grows c [] (f a)) : Grows c e (x >>= f) := by
  simpa only [List.append_nil] using Grows.bind hx hf

theorem Grows.attempt (h : Grows c e act) : Grows c e (Workspace.attempt act) := fun M =>
  Triple.attempt (h M) (fun _ _ hw => hw) (fun _ _ hw => hw)

theorem Grows.ite {p : Prop} [Decidable p] {a b : WorkspaceM α} (ha : p → Grows c e a)
    (hb : ¬ p → Grows c e b) : Grows c e (if p then a else b) := fun M =>
  Triple.ite (fun hp => ha hp M) (fun hp => hb hp M)

theorem Grows.forIn {xs : List α} {f : α → β → WorkspaceM (ForInStep β)}
    (h : ∀ x b, Grows c [] (f x b)) (b : β) : Grows c [] (ForIn.forIn xs b f) := fun M => by
  have hM := List.append_nil M
  rw [hM]
  refine Triple.forIn_prefix (fun _ _ => IdsAmong c M) (fun _ x _ b' _ => ?_) b
  have hstep := h x b' M
  rw [hM] at hstep
  refine hstep.conseq (fun _ hw => hw) (fun r _ hw => ?_) (fun _ hw => hw)
  cases r <;> exact hw

/-- The ids grow by `e` when they do from every store the workspace can hold. -/
theorem Grows.of_stored (h : ∀ q L M, Tidy L → (ids L).Sublist M →
    Triple (StoreAt q c L) act (fun _ => IdsAmong c (M ++ e)) (IdsAmong c (M ++ e))) :
    Grows c e act := fun M => by
  refine Triple.of_pre fun w ⟨hc, L, hs, hL, hsub⟩ => ?_
  refine (h w.queue L M hL hsub).conseq (fun w' hw' => ?_) (fun _ _ hw => hw) (fun _ hw => hw)
  subst hw'
  exact ⟨rfl, hc, hs⟩

/-- An operation whose spec says which list it leaves of the list read grows the ids as that
list does. -/
theorem Grows.of_store (out : List Value → List Value)
    (hout : ∀ data, Tidy data → Tidy (out data) ∧ (ids (out data)).Sublist (ids data ++ e))
    (hspec : ∀ q L, Tidy L → Triple (StoreAt q c L) act
      (fun _ => StoreAt q c (written q (out (fresh c L)) L))
      (StoreAt q c (written q (out (fresh c L)) L))) :
    Grows c e act := by
  refine Grows.of_stored fun q L M hL hsub => ?_
  obtain ⟨hL', hsub'⟩ := hout (fresh c L) hL.fresh
  have hfresh : (ids (fresh c L) ++ e).Sublist (ids L ++ e) :=
    (ids_sublist List.filter_sublist).append (List.Sublist.refl e)
  have hafter : ∀ w', StoreAt q c (written q (out (fresh c L)) L) w' → IdsAmong c (M ++ e) w' :=
    fun w' hw' => IdsAmong.of_written hL hsub hL' (hsub'.trans hfresh) hw'
  exact (hspec q L hL).conseq (fun _ hw => hw) (fun _ w' h => hafter w' h) hafter

end Rules

/-! ## The operations -/

section Operations

variable {c : Time.Civil}

theorem grows_load : Grows c [] load :=
  Grows.of_store (fun data => data)
    (fun data h => ⟨h, by simp only [List.append_nil, List.Sublist.refl]⟩) fun q L hL =>
    (triple_load hL).conseq (fun _ h => h)
      (fun data w ⟨hw, hd, _⟩ => by rwa [written_of_read hd fun d => d] at hw)
      (fun w ⟨hq, hw⟩ => by subst hq; exact hw)

theorem grows_listOpen : Grows c [] listOpen := by
  unfold listOpen
  have h : Grows c ([] ++ []) (load >>= fun data => pure (openOf data)) :=
    Grows.bind grows_load fun data => Grows.ret (openOf data)
  simpa only [List.append_nil] using h

theorem grows_newTask (description : Value) : Grows c (madeBy c description) (newTask description) :=
  Grows.of_store (fun data => (newTaskOutcome c description data).tasks)
    (fun data h => ⟨newTaskOutcome_tidy h c description, by
      simp only [ids_newTaskOutcome, List.Sublist.refl]⟩)
    fun _ _ hL => (triple_newTask hL description).conseq (fun _ h => h) (fun _ _ h => h.2.2)
      (fun _ h => h.2)

theorem grows_addTodo (id : Value) {text : Value} (htext : text.Plain) :
    Grows c [] (addTodo id text) :=
  Grows.of_store (fun data => (addTodoOutcome c id text data).tasks)
    (fun data h => ⟨addTodoOutcome_tidy h c id htext, by
      simp only [ids_addTodoOutcome, List.append_nil, List.Sublist.refl]⟩)
    fun _ _ hL => (triple_addTodo hL id htext).conseq (fun _ h => h) (fun _ _ h => h.2.2)
      (fun _ h => h.2)

theorem grows_setStatus (id : Value) {status : Value} (hs : status.Plain) :
    Grows c [] (setStatus id status) :=
  Grows.of_store (fun data => (setStatusOutcome c id status data).tasks)
    (fun data h => ⟨setStatusOutcome_tidy h c id hs, by
      simp only [ids_setStatusOutcome, List.append_nil, List.Sublist.refl]⟩)
    fun _ _ hL => (triple_setStatus hL id hs).conseq (fun _ h => h) (fun _ _ h => h.2.2)
      (fun _ h => h.2)

theorem grows_markDone (id : Value) (index : Int) : Grows c [] (markDone id index) :=
  Grows.of_store (markDoneTasks c id index)
    (fun data h => ⟨markDoneTasks_tidy h c id index, by
      simp only [ids_markDoneTasks, List.append_nil, List.Sublist.refl]⟩)
    fun _ _ hL => triple_markDone hL id index

theorem grows_deleteTodo (id : Value) (index : Int) : Grows c [] (deleteTodo id index) :=
  Grows.of_store (deleteTodoTasks c id index)
    (fun data h => ⟨deleteTodoTasks_tidy h c id index, by
      simp only [ids_deleteTodoTasks, List.append_nil, List.Sublist.refl]⟩)
    fun _ _ hL => triple_deleteTodo hL id index

theorem grows_hardDelete (id : Value) : Grows c [] (hardDelete id) :=
  Grows.of_store (hardDeleteTasks id)
    (fun data h => ⟨h.sublist (hardDeleteTasks_sublist id data), by
      rw [List.append_nil]; exact ids_sublist (hardDeleteTasks_sublist id data)⟩)
    fun _ _ hL => triple_hardDelete hL id

theorem grows_cleanupCompleted : Grows c [] cleanupCompleted :=
  Grows.of_store cleanupTasks
    (fun data h => ⟨h.sublist List.filter_sublist, by
      rw [List.append_nil]; exact ids_sublist List.filter_sublist⟩)
    fun _ _ hL => triple_cleanupCompleted hL

theorem grows_showTask (id : Value) : Grows c [] (showTask id) :=
  Grows.of_store (fun data => data)
    (fun data h => ⟨h, by simp only [List.append_nil, List.Sublist.refl]⟩)
    fun _ _ hL => triple_showTask hL id

theorem grows_previewSubStep (id sub : Value) : Grows c [] (previewSubStep id sub) :=
  Grows.of_store (fun data => data)
    (fun data h => ⟨h, by simp only [List.append_nil, List.Sublist.refl]⟩)
    fun _ _ hL => triple_previewSubStep hL id sub

theorem grows_useQueue (q : Queue) : Grows c [] (useQueue q) := fun M => by
  rw [List.append_nil]
  exact Triple.update fun _ hw => ⟨hw.clock, hw.stored⟩

theorem grows_sayOpenTasks : Grows c [] sayOpenTasks := by
  refine Grows.of_stored fun q L M hL hsub => ?_
  have hafter : ∀ w', StoreAt .execution c (fresh c L) w' → IdsAmong c (M ++ []) w' :=
    fun w' hw' => ⟨hw'.clock, _, hw'.stored, hL.fresh,
      ((ids_sublist List.filter_sublist).trans hsub).trans (List.sublist_append_left M [])⟩
  exact (triple_sayOpenTasks hL).conseq (fun _ hw => hw) (fun _ w' h => hafter w' h) hafter

end Operations

/-! ## Running a task -/

section Execute

open Taskflow.Task

variable {c : Time.Civil}

theorem grows_findOrCreate (d : String) : Grows c (madeBy c (.str d)) (findOrCreate d) := by
  unfold findOrCreate
  refine Grows.bind_nil grows_listOpen fun tasks =>
    Grows.bind_nil (Grows.forIn (fun t r => ?_) none) fun found => ?_
  · -- the search only reads
    refine Grows.of_keeps ?_
    dsimp only
    split
    · refine Keeps.bind (Keeps.lift _) fun v => ?_
      split
      · exact Keeps.ret _
      · exact Keeps.ret _
    · exact Keeps.ret _
  · dsimp only
    cases found with
    | some t =>
      exact (Grows.bind_nil (Grows.of_keeps (Keeps.lift _)) fun _ => Grows.ret _).mono
        (List.nil_sublist _)
    | none => exact Grows.bind_nil_right (grows_newTask _) fun _ => Grows.ret _

theorem grows_addGroup (id : Value) (present : List Value) (heading : String)
    (subs : List Subtask) : Grows c [] (addGroup id present heading subs) := by
  unfold addGroup
  refine Grows.bind_nil (Grows.attempt (grows_addTodo id (.str _))) fun r => ?_
  split
  · refine Grows.bind_nil (Grows.forIn (fun s _ => ?_) _) fun _ => Grows.ret _
    split
    · exact Grows.bind_nil (Grows.attempt (grows_addTodo id (.str _))) fun _ => Grows.ret _
    · exact Grows.ret _
  · exact Grows.ret _

theorem grows_executeTask (d : String) : Grows c (madeBy c (.str d)) (executeTask d) := by
  unfold executeTask
  extract_lets ck
  refine Grows.bind_nil_right (Grows.attempt (grows_findOrCreate d)) fun r => ?_
  cases r with
  | error e => exact Grows.ret _
  | ok r =>
    obtain ⟨id, existing⟩ := r
    simp -zeta only [pure_bind]
    refine Grows.bind_nil (Grows.attempt ?_) fun r => ?_
    · extract_lets jp
      -- after the todo texts are read: the groups' todos, then the status
      have hjp : ∀ present, Grows c [] (jp present) := fun present => by
        simp only [jp]
        refine Grows.bind_nil (Grows.forIn (fun g _ => ?_) _) fun _ =>
          Grows.bind_nil (Grows.attempt (grows_setStatus id (.str _))) fun r => ?_
        · obtain ⟨heading, subs⟩ := g
          dsimp only
          split
          · exact Grows.bind_nil (grows_addGroup id present heading subs) fun _ => Grows.ret _
          · exact Grows.ret _
        · cases r with
          | error e => exact Grows.ret _
          | ok a =>
            -- the report only reads; stated as kept, the branch is not run to compare it
            refine Grows.of_keeps ?_
            exact Keeps.ite (Keeps.ret _) (Keeps.ret _)
      -- from here on the join point is used through `hjp` only
      clear_value jp
      cases existing with
      | some t =>
        exact Grows.bind_nil (Grows.of_keeps (Keeps.lift _)) fun _ =>
          Grows.bind_nil (Grows.of_keeps (Keeps.lift _)) fun _ =>
            Grows.bind_nil (Grows.of_keeps (Keeps.lift _)) hjp
      | none =>
        simp only
        exact hjp []
    · split
      · exact Grows.ret _
      · exact Grows.ret _

end Execute

/-! ## The command line -/

section Commands

open Command

variable {c : Time.Civil}

def commandMade (c : Time.Civil) (vs : List (String × Given)) : List Value :=
  if textOf vs "cmd" = some "new" then madeBy c (.str ((textOf vs "description").getD "")) else []

/-- The id a command line's creation makes at clock `c`. -/
def commandLineMade (c : Time.Civil) (args : List String) : List Value :=
  match parseCommands commandGrammars args with
  | .parsed vs => commandMade c vs
  | _ => []

theorem grows_runCommand (vs : List (String × Given)) :
    Grows c (commandMade c vs) (runCommand vs) := by
  unfold runCommand
  extract_lets arg mode
  split
  · next h =>
    have hmade : commandMade c vs = madeBy c (arg "description") := by
      simp only [commandMade, h, arg, ↓reduceIte]
    rw [hmade]
    exact Grows.bind_nil (grows_useQueue _) fun _ =>
      Grows.bind_nil_right (grows_newTask _) fun _ => Grows.ret _
  all_goals refine Grows.mono ?_ (List.nil_sublist _)
  · exact Grows.bind_nil (grows_useQueue _) fun _ => grows_addTodo _ (.str _)
  · -- on the execution queue the gate is asked first; it only reads
    refine Grows.bind_nil (grows_useQueue _) fun _ =>
      Grows.bind_nil (Grows.of_keeps (keeps_readIndex keeps_say _ _)) fun r => ?_
    cases r with
    | none => exact Grows.ret _
    | some i =>
      dsimp only
      refine Grows.ite (fun _ => Grows.bind_nil (Grows.of_keeps (keeps_gate _)) fun v => ?_)
        fun _ => grows_markDone _ _
      exact Grows.ite (fun _ => Grows.of_keeps (Keeps.bind (keeps_say _) fun _ => Keeps.ret _))
        fun _ => grows_markDone _ _
  · refine Grows.bind_nil (grows_useQueue _) fun _ =>
      Grows.bind_nil (Grows.of_keeps (keeps_readIndex keeps_say _ _)) fun r => ?_
    cases r with
    | none => exact Grows.ret _
    | some i => exact grows_deleteTodo _ _
  · exact grows_previewSubStep _ _
  · exact Grows.bind_nil (grows_useQueue _) fun _ => grows_showTask _
  · exact Grows.bind_nil (grows_useQueue _) fun _ => grows_hardDelete _
  · exact Grows.bind_nil (grows_useQueue _) fun _ => grows_cleanupCompleted
  · exact grows_sayOpenTasks

theorem grows_runTodoCommand (args : List String) :
    Grows c (commandLineMade c args) (runTodoCommand args) := by
  unfold runTodoCommand commandLineMade
  cases parseCommands commandGrammars args with
  | failed => exact Grows.ret _
  | help => exact Grows.ret _
  | parsed vs => exact Grows.bind_nil_right (grows_runCommand vs) fun _ => Grows.ret _

end Commands

end Taskflow.Queue
