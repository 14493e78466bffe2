import Taskflow.Proofs.Queue.Edits
/-!
What a store call leaves in the execution queue's file.
-/

namespace Taskflow.Queue

open Json Workspace

/-- The execution queue's file after a call that found the view `V` and then wrote the list
`plan` gives; a plan that gives no list, or faults, leaves the file. -/
def fileAfter (V : Queue × Time.Civil × Option String) :
    Except Fault (Option (List Value)) → Option String
  | .ok (some d) => match V.1 with
    | .execution => some (Value.write .file (.arr d))
    | .analysis => V.2.2
  | _ => V.2.2

/-! ## The rewrite of each call -/

/-- The store calls that read the task list and may write it back. -/
inductive StoreCall where
  | addTodo (id text : Value)
  | markDone (id : Value) (index : Int)
  | deleteTodo (id : Value) (index : Int)
  | setStatus (id status : Value)
  | hardDelete (id : Value)
  | cleanupCompleted
  | showTask (id : Value)
  | previewSubStep (id sub : Value)

/-- The action of a call. -/
def StoreCall.act : StoreCall → WorkspaceM Unit
  | .addTodo id text => Queue.addTodo id text
  | .markDone id index => Queue.markDone id index
  | .deleteTodo id index => Queue.deleteTodo id index
  | .setStatus id status => Queue.setStatus id status
  | .hardDelete id => Queue.hardDelete id
  | .cleanupCompleted => Queue.cleanupCompleted
  | .showTask id => Queue.showTask id
  | .previewSubStep id sub => Queue.previewSubStep id sub

/-- The task with a todo added at the end of its todos, and the stamp. -/
def addedTask (t text stamp : Value) : Except Fault (Option Value) := do
  let todos ← (← t.item "todos").push (todoOf text)
  return some ((t.set "todos" todos).set "updated" stamp)

/-- The list with the first task of the id rewritten by `edit`: none when no task has the id,
or `edit` gives no task. -/
def rewriteTask (edit : Value → Except Fault (Option Value)) (id : Value) (data : List Value) :
    Except Fault (Option (List Value)) := do
  match ← findTask data id with
  | none => return none
  | some i => return (← edit (data.getD i .null)).map (data.set i)

/-- What a call writes after reading `data`, stamping with `stamp`: a fault raised before the
write, no list when it writes none, or the list it writes. -/
def StoreCall.rewrite (stamp : Value) : StoreCall → List Value → Except Fault (Option (List Value))
  | .addTodo id text, data => rewriteTask (addedTask · text stamp) id data
  | .markDone id index, data => rewriteTask (markedTask · index stamp) id data
  | .deleteTodo id index, data => rewriteTask (trimmedTask · index stamp) id data
  | .setStatus id status, data =>
    rewriteTask (fun t => pure (some ((t.set "status" status).set "updated" stamp))) id data
  | .hardDelete id, data => do
    let keep ← data.mapM fun t => do return !(← t.item "id").same id
    let kept := ((data.zip keep).filter (·.2)).map (·.1)
    if kept.length < data.length then return some kept else return none
  | .cleanupCompleted, data =>
    if data.length - (cleanupTasks data).length > 0 then return some (cleanupTasks data)
    else return none
  | .showTask _, _ => return none
  | .previewSubStep _ _, _ => return none

/-! ## What a call writes -/

section Rewrites

variable {c c' : Time.Civil} {data d : List Value}

/-- Rewriting one task of a clean list with an edit that stamps it keeps the list clean. -/
theorem rewriteTask_readsClean {edit : Value → Except Fault (Option Value)} {id : Value}
    (hedit : ∀ t t', t.isObj = true → edit t = .ok (some t') → t'.isObj = true ∧ isStale c t' = false)
    (h : ReadsClean c data) (hr : rewriteTask edit id data = .ok (some d)) : ReadsClean c d := by
  obtain ⟨r, hfind, hr⟩ := bind_eq_ok.1 hr
  cases r with
  | none => cases hr
  | some i =>
    obtain ⟨o, hedited, ho⟩ := bind_eq_ok.1 hr
    cases o with
    | none => cases ho
    | some t' =>
      cases ho
      obtain ⟨hobj, hstale⟩ := hedit _ t' (h.isObj_getD (findTask_lt hfind)) hedited
      exact h.set hobj hstale i

theorem addedTask_clean {t t' text : Value} (ht : t.isObj = true)
    (h : addedTask t text (stampAt c') = .ok (some t')) : t'.isObj = true ∧ isStale c t' = false := by
  obtain ⟨v, -, h⟩ := bind_eq_ok.1 h
  obtain ⟨todos, -, h⟩ := bind_eq_ok.1 h
  cases h
  exact stamped_clean (by rw [isObj_set, ht])

theorem hardDelete_rewrite_sublist {id stamp : Value}
    (hr : (StoreCall.hardDelete id).rewrite stamp data = .ok (some d)) : d.Sublist data := by
  obtain ⟨keep, hkeep, hr⟩ := bind_eq_ok.1 hr
  dsimp only at hr
  split at hr
  · cases hr
    exact kept_sublist data (Nat.le_of_eq (length_mapM_eq hkeep).symm)
  · cases hr

/-- Every list a store call writes after reading a clean list reads clean: an edited task is an
object carrying the store's stamp, and a deletion keeps a part of the list. -/
theorem rewrite_readsClean (call : StoreCall) (h : ReadsClean c data)
    (hr : call.rewrite (stampAt c') data = .ok (some d)) : ReadsClean c d := by
  cases call with
  | addTodo id text => exact rewriteTask_readsClean (fun _ _ ht he => addedTask_clean ht he) h hr
  | markDone id index => exact rewriteTask_readsClean (fun _ _ ht he => markedTask_clean ht he) h hr
  | deleteTodo id index =>
    exact rewriteTask_readsClean (fun _ _ ht he => trimmedTask_clean ht he) h hr
  | setStatus id status =>
    simp only [StoreCall.rewrite] at hr
    refine rewriteTask_readsClean (fun t t' ht he => ?_) h hr
    cases he
    exact stamped_clean (by rw [isObj_set, ht])
  | hardDelete id => exact h.sublist (hardDelete_rewrite_sublist hr)
  | cleanupCompleted =>
    simp only [StoreCall.rewrite] at hr
    split at hr
    · cases hr
      exact h.sublist List.filter_sublist
    · cases hr
  | showTask id => cases hr
  | previewSubStep id sub => cases hr

end Rewrites

/-! ## A call against its rewrite -/

section WritesAs

variable {α β : Type} (V : Queue × Time.Civil × Option String) (out : β → Option (List Value))

def PlanClean (plan : Except Fault β) : Prop :=
  ∀ d, plan.map out = .ok (some d) → ReadsClean V.2.1 d

/-- From the view `V`, when the plan writes a list that reads clean, the action leaves the file
as writing `out` of what `plan` gives would, whether it returns or faults, and it returns only
when `plan` does not fault. -/
def WritesAs (plan : Except Fault β) (act : WorkspaceM α) : Prop :=
  PlanClean V out plan → Triple (fun w => storeView w = V) act
    (fun _ w => w.files.tasks = fileAfter V (plan.map out) ∧ ∀ e, plan ≠ .error e)
    (fun w => w.files.tasks = fileAfter V (plan.map out))

variable {V out}

theorem tasks_of_view {w : Workspace} (h : storeView w = V) : w.files.tasks = V.2.2 :=
  congrArg (fun v => v.2.2) h

theorem WritesAs.stop {b : β} {act : WorkspaceM α} (hb : out b = none) (h : Keeps storeView act) :
    WritesAs V out (pure b) act := by
  have hfile : fileAfter V ((pure b : Except Fault β).map out) = V.2.2 := by
    show fileAfter V (.ok (out b)) = V.2.2
    rw [hb]
    rfl
  rw [WritesAs, hfile]
  exact fun _ => (h.triple fun _ _ hv hw => hv.trans hw).conseq (fun _ h => h)
    (fun _ _ hw => ⟨tasks_of_view hw, fun _ h => nomatch h⟩) fun _ hw => tasks_of_view hw

/-- A step that may fault, taken by both the action and the plan. -/
theorem WritesAs.lift_bind {γ : Type} {r : Except Fault γ} {k : γ → Except Fault β}
    {f : γ → WorkspaceM α} (h : ∀ a, r = .ok a → WritesAs V out (k a) (f a)) :
    WritesAs V out (r >>= k) (lift r >>= f) := by
  intro hclean
  refine Triple.lift_bind (fun e he w hw => ?_) fun a ha => ?_
  · -- the fault comes before any write
    subst he
    exact tasks_of_view hw
  · subst ha
    exact h a rfl hclean

theorem WritesAs.ite {c : Prop} [Decidable c] {p₁ p₂ : Except Fault β} {a₁ a₂ : WorkspaceM α}
    (h₁ : c → WritesAs V out p₁ a₁) (h₂ : ¬ c → WritesAs V out p₂ a₂) :
    WritesAs V out (if c then p₁ else p₂) (if c then a₁ else a₂) := by
  by_cases hc : c
  · simp only [hc, ↓reduceIte]
    exact h₁ hc
  · simp only [hc, ↓reduceIte]
    exact h₂ hc

theorem triple_stampNow_view {E : Workspace → Prop} :
    Triple (fun w => storeView w = V) stampNow (fun s w => storeView w = V ∧ s = stampAt V.2.1) E := by
  have hnow : Triple (fun w => storeView w = V) now (fun c w => storeView w = V ∧ c = V.2.1) E :=
    Triple.read fun _ hw => ⟨hw, congrArg (fun v => v.2.1) hw⟩
  have hmanila : Triple (fun w => storeView w = V) manilaNow
      (fun m w => storeView w = V ∧ m = Time.manila V.2.1) E :=
    Triple.bind hnow fun _ => Triple.ret _ fun _ ⟨hw, hc⟩ => ⟨hw, by rw [hc]⟩
  exact Triple.bind hmanila fun _ => Triple.ret _ fun _ ⟨hw, hm⟩ => ⟨hw, by rw [hm]; rfl⟩

theorem WritesAs.stamp {plan : Except Fault β} {f : Value → WorkspaceM α}
    (h : WritesAs V out plan (f (stampAt V.2.1))) : WritesAs V out plan (stampNow >>= f) :=
  fun hclean => Triple.bind triple_stampNow_view fun _ => Triple.pure_pre fun hs => hs ▸ h hclean

/-- The plan's last step wraps what it gives. -/
theorem WritesAs.map {γ : Type} {plan : Except Fault γ} {g : γ → β} {act : WorkspaceM α}
    (h : WritesAs V (fun b => out (g b)) plan act) :
    WritesAs V out (plan >>= fun b => pure (g b)) act := by
  intro hclean
  cases plan with
  | error e => exact (h hclean).conseq (fun _ h => h) (fun _ _ h => (h.2 e rfl).elim) fun _ h => h
  | ok b =>
    exact (h hclean).conseq (fun _ h => h) (fun _ _ h => ⟨h.1, fun _ h => nomatch h⟩) fun _ h => h

/-- Saving a list that reads clean writes it to the execution queue's file when that queue is in
use; the note and the memory folder the save refreshes are other files. -/
theorem triple_save_file {d : List Value} (hclean : ReadsClean V.2.1 d) :
    Triple (fun w => storeView w = V) (save d)
      (fun _ w => w.files.tasks = fileAfter V (.ok (some d)))
      (fun w => w.files.tasks = fileAfter V (.ok (some d))) := by
  have hwrite : Triple (fun w => storeView w = V) (writeQueue (Value.write .file (.arr d)))
      (fun _ w => storeView w = (V.1, V.2.1, fileAfter V (.ok (some d))))
      (fun w => w.files.tasks = fileAfter V (.ok (some d))) := by
    rintro ⟨clock, queue, files, cursor, im, printed⟩ rfl
    cases queue <;> rfl
  refine (triple_save_clean hwrite (fun w hw => ?_) (fun _ _ hw => hw)
    (keeps_autoSync.triple fun _ _ hv hw => hv.trans hw)).conseq (fun _ h => h)
    (fun _ _ hw => congrArg (fun v => v.2.2) hw) fun _ h => h
  rw [show w.clock = V.2.1 from congrArg (fun v => v.2.1) hw]
  exact hclean

/-- The plan gives the list the action saves; what the action does after the save keeps the
view. -/
theorem WritesAs.save {b : β} {d : List Value} {post : Unit → WorkspaceM α} (hb : out b = some d)
    (hpost : ∀ u, Keeps storeView (post u)) : WritesAs V out (pure b) (save d >>= post) := by
  have hfile : fileAfter V ((pure b : Except Fault β).map out) = fileAfter V (.ok (some d)) := by
    simp only [← hb]
    rfl
  intro hclean
  rw [hfile]
  exact Triple.bind (triple_save_file (hclean d (by rw [← hb]; rfl))) fun u =>
    ((hpost u).triple fun _ _ hv hw => (congrArg (fun v => v.2.2) hv).trans hw).conseq
      (fun _ h => h) (fun _ _ h => ⟨h, fun _ h => nomatch h⟩) fun _ h => h

end WritesAs

/-! ## Each call against its rewrite -/

/-- The rewrite a call makes is written by the call, after its read. -/
abbrev LoadsThenWrites (call : StoreCall) : Prop :=
  ∃ body : List Value → WorkspaceM Unit, call.act = load >>= body ∧
    ∀ V data, WritesAs V (fun o => o) (call.rewrite (stampAt V.2.1) data) (body data)

theorem addTodo_writes (id text : Value) : LoadsThenWrites (.addTodo id text) := by
  refine ⟨_, rfl, fun V data => ?_⟩
  refine WritesAs.lift_bind fun o _ => ?_
  cases o with
  | none => exact WritesAs.stop rfl (keeps_sayMissing keeps_say id)
  | some i =>
    refine WritesAs.map ?_
    refine WritesAs.lift_bind fun todos _ => WritesAs.lift_bind fun todos' _ => ?_
    exact WritesAs.stamp (WritesAs.save rfl fun _ => keeps_say _)

theorem markDone_writes (id : Value) (index : Int) : LoadsThenWrites (.markDone id index) := by
  refine ⟨_, rfl, fun V data => ?_⟩
  refine WritesAs.lift_bind fun o _ => ?_
  cases o with
  | none => exact WritesAs.stop rfl (keeps_sayMissing keeps_say id)
  | some i =>
    refine WritesAs.map (WritesAs.lift_bind fun todos _ => ?_)
    refine WritesAs.ite (fun _ => WritesAs.stop rfl ?_) fun _ => ?_
    · exact Keeps.bind (keeps_say _) fun _ => Keeps.bind (keeps_say _) fun _ => Keeps.ret _
    refine WritesAs.lift_bind fun n _ => WritesAs.ite (fun _ => WritesAs.stop rfl ?_) fun _ => ?_
    · exact Keeps.bind (keeps_sayBadIndex keeps_say _ _) fun _ => Keeps.ret _
    refine WritesAs.lift_bind fun x _ => WritesAs.lift_bind fun todo _ =>
      WritesAs.lift_bind fun todos' _ => WritesAs.stamp ?_
    refine WritesAs.lift_bind fun items _ => WritesAs.lift_bind fun all _ => ?_
    -- after the write the marked todo is printed, which may fault
    exact WritesAs.save rfl fun _ => Keeps.bind (Keeps.lift _) fun _ =>
      Keeps.bind (Keeps.lift _) fun _ => keeps_say _

theorem deleteTodo_writes (id : Value) (index : Int) : LoadsThenWrites (.deleteTodo id index) := by
  refine ⟨_, rfl, fun V data => ?_⟩
  refine WritesAs.lift_bind fun o _ => ?_
  cases o with
  | none => exact WritesAs.stop rfl (keeps_sayMissing keeps_say id)
  | some i =>
    refine WritesAs.map (WritesAs.lift_bind fun todos _ => ?_)
    refine WritesAs.ite (fun _ => WritesAs.stop rfl ?_) fun _ => ?_
    · exact Keeps.bind (keeps_say _) fun _ => Keeps.ret _
    refine WritesAs.lift_bind fun n _ => WritesAs.ite (fun _ => WritesAs.stop rfl ?_) fun _ => ?_
    · exact Keeps.bind (keeps_sayBadIndex keeps_say _ _) fun _ => Keeps.ret _
    refine WritesAs.lift_bind fun x _ => WritesAs.lift_bind fun text _ =>
      WritesAs.lift_bind fun todos' _ => WritesAs.stamp ?_
    -- after the write the remaining todos are printed, which may fault
    refine WritesAs.save rfl fun _ => Keeps.bind (keeps_say _) fun _ => ?_
    split
    · exact Keeps.bind (keeps_say _) fun _ => keeps_sayTodos keeps_say _ _
    · exact keeps_say _

theorem setStatus_writes (id status : Value) : LoadsThenWrites (.setStatus id status) := by
  refine ⟨_, rfl, fun V data => ?_⟩
  refine WritesAs.lift_bind fun o _ => ?_
  cases o with
  | none => exact WritesAs.stop rfl (keeps_sayMissing keeps_say id)
  | some i => exact WritesAs.map (WritesAs.stamp (WritesAs.save rfl fun _ => keeps_say _))

theorem hardDelete_writes (id : Value) : LoadsThenWrites (.hardDelete id) := by
  refine ⟨_, rfl, fun V data => ?_⟩
  refine WritesAs.lift_bind fun keep _ => WritesAs.ite (fun _ => ?_) fun _ =>
    WritesAs.stop rfl (keeps_sayMissing keeps_say id)
  refine WritesAs.save rfl fun _ => Keeps.bind (keeps_say _) fun _ =>
    Keeps.bind (Keeps.attempt (keeps_forgetInterrupted id)) fun r => ?_
  extract_lets jp
  -- the clean-ups after the write print their own failures
  have hjp : ∀ u, Keeps storeView (jp u) := fun _ =>
    Keeps.bind (Keeps.attempt (keeps_forgetInFiles id)) fun r' => by
      split
      · exact keeps_say _
      · exact Keeps.ret _
  split
  · exact Keeps.bind (keeps_say _) hjp
  · exact hjp ()

theorem cleanupCompleted_writes : LoadsThenWrites .cleanupCompleted :=
  ⟨_, rfl, fun _ _ => WritesAs.ite (fun _ => WritesAs.save rfl fun _ => keeps_say _) fun _ =>
    WritesAs.stop rfl (keeps_say _)⟩

theorem showTask_writes (id : Value) : LoadsThenWrites (.showTask id) := by
  obtain ⟨body, hshow, hbody⟩ := showTask_loads keeps_say id
  exact ⟨body, hshow, fun _ data => WritesAs.stop rfl (hbody data)⟩

theorem previewSubStep_writes (id sub : Value) : LoadsThenWrites (.previewSubStep id sub) := by
  obtain ⟨body, hpreview, hbody⟩ := previewSubStep_loads keeps_say id sub
  exact ⟨body, hpreview, fun _ data => WritesAs.stop rfl (hbody data)⟩

theorem StoreCall.loadsThenWrites : ∀ call : StoreCall, LoadsThenWrites call
  | .addTodo id text => addTodo_writes id text
  | .markDone id index => markDone_writes id index
  | .deleteTodo id index => deleteTodo_writes id index
  | .setStatus id status => setStatus_writes id status
  | .hardDelete id => hardDelete_writes id
  | .cleanupCompleted => cleanupCompleted_writes
  | .showTask id => showTask_writes id
  | .previewSubStep id sub => previewSubStep_writes id sub

/-! ## The file after a call -/

theorem load_run_clean {w w₁ : Workspace} {data : List Value} (h : load.run.run w = (.ok data, w₁)) :
    ReadsClean w₁.clock data := by
  have hrun := triple_load_reads_clean w.clock w rfl
  rw [h] at hrun
  exact hrun.1 ▸ hrun.2

/-- The rewrite of a list a read gave writes lists that read clean. -/
theorem planClean_of_load {call : StoreCall} {w w₁ : Workspace} {data : List Value}
    (h : load.run.run w = (.ok data, w₁)) :
    PlanClean (storeView w₁) (fun o => o) (call.rewrite (stampAt w₁.clock) data) := fun d hd => by
  have hself : (call.rewrite (stampAt w₁.clock) data).map (fun o => o) =
      call.rewrite (stampAt w₁.clock) data := by
    cases call.rewrite (stampAt w₁.clock) data <;> rfl
  exact rewrite_readsClean call (load_run_clean h) (hself.symm.trans hd)

/-- The file after a call: the one its read left, or the write of the call's rewrite of the
list it read. -/
theorem file_after_call (call : StoreCall) (w : Workspace) :
    (call.act.run.run w).2.files.tasks = match load.run.run w with
      | (.ok data, w₁) => fileAfter (storeView w₁) (call.rewrite (stampAt w₁.clock) data)
      | (.error _, w₁) => w₁.files.tasks := by
  obtain ⟨body, hact, hbody⟩ := call.loadsThenWrites
  have hself : ∀ p : Except Fault (Option (List Value)), p.map (fun o => o) = p := fun p => by
    cases p <;> rfl
  rw [hact, run_bind_eq]
  rcases hl : load.run.run w with ⟨_ | data, w₁⟩
  · rfl
  · have h := hbody (storeView w₁) data (planClean_of_load hl) w₁ rfl
    dsimp only
    revert h
    rw [hself]
    rcases (body data).run.run w₁ with ⟨_ | _, w₂⟩
    · exact id
    · exact fun h => h.1

/-- A call whose rewrite faults faults. -/
theorem call_faults_of_rewrite {call : StoreCall} {w w₁ : Workspace} {data : List Value}
    {e : Fault} (hload : load.run.run w = (.ok data, w₁))
    (he : call.rewrite (stampAt w₁.clock) data = .error e) :
    ∃ e', (call.act.run.run w).1 = .error e' := by
  obtain ⟨body, hact, hbody⟩ := call.loadsThenWrites
  have h := hbody (storeView w₁) data (planClean_of_load hload) w₁ rfl
  rw [hact, run_bind_eq, hload]
  dsimp only
  revert h
  rcases (body data).run.run w₁ with ⟨_ | _, w₂⟩
  · exact fun _ => ⟨_, rfl⟩
  · exact fun h => (h.2 e he).elim

/-! ## When a call writes nothing -/

theorem rewriteTask_of_missing {edit : Value → Except Fault (Option Value)} {id : Value}
    {data : List Value} (h : findTask data id = .ok none) : rewriteTask edit id data = .ok none := by
  rw [rewriteTask, h]
  rfl

theorem rewriteTask_of_none {edit : Value → Except Fault (Option Value)} {id : Value}
    {data : List Value} {i : Nat} (hf : findTask data id = .ok (some i))
    (he : edit (data.getD i .null) = .ok none) : rewriteTask edit id data = .ok none := by
  rw [rewriteTask, hf]
  show (edit (data.getD i .null) >>= fun r => pure (r.map (data.set i))) = _
  rw [he]
  rfl

/-- A task whose todos are empty, or an index outside them: the task to mark is none. -/
theorem markedTask_of_stop {t todos stamp : Value} {index : Int} (ht : t.item "todos" = .ok todos)
    (hstop : todos.truthy = false ∨ ∃ n : Nat, todos.count = .ok n ∧ (index < 0 ∨ (n : Int) ≤ index)) :
    markedTask t index stamp = .ok none := by
  cases htr : todos.truthy
  · simp only [markedTask, ht, htr, bind, Except.bind, Bool.not_false, ↓reduceIte, pure, Except.pure]
  · obtain ⟨n, hn, hbad⟩ := hstop.resolve_left (by simp [htr])
    have hb : (decide (index < 0) || decide (index ≥ (n : Int))) = true := by
      rcases hbad with h | h <;> simp [h]
    simp only [markedTask, ht, htr, hn, hb, bind, Except.bind, Bool.not_true, Bool.false_eq_true,
      ↓reduceIte, pure, Except.pure]

/-- A task whose todos are empty, or an index outside them: the task to trim is none. -/
theorem trimmedTask_of_stop {t todos stamp : Value} {index : Int} (ht : t.item "todos" = .ok todos)
    (hstop : todos.truthy = false ∨ ∃ n : Nat, todos.count = .ok n ∧ (index < 0 ∨ (n : Int) ≤ index)) :
    trimmedTask t index stamp = .ok none := by
  cases htr : todos.truthy
  · simp only [trimmedTask, ht, htr, bind, Except.bind, Bool.not_false, ↓reduceIte, pure, Except.pure]
  · obtain ⟨n, hn, hbad⟩ := hstop.resolve_left (by simp [htr])
    have hb : (decide (index < 0) || decide (index ≥ (n : Int))) = true := by
      rcases hbad with h | h <;> simp [h]
    simp only [trimmedTask, ht, htr, hn, hb, bind, Except.bind, Bool.not_true, Bool.false_eq_true,
      ↓reduceIte, pure, Except.pure]

/-- Deleting an id that no task has keeps every task, so nothing is written. -/
theorem hardDelete_rewrite_of_absent {id stamp : Value} {data : List Value}
    (h : ∀ t ∈ data, ∃ v, t.item "id" = .ok v ∧ v.same id = false) :
    (StoreCall.hardDelete id).rewrite stamp data = .ok none := by
  -- every task is kept, one by one
  have hkeep : ∀ xs : List Value, (∀ t ∈ xs, ∃ v, t.item "id" = .ok v ∧ v.same id = false) →
      xs.mapM (fun t => do return !(← t.item "id").same id) = .ok (xs.map fun _ => true) := by
    intro xs
    induction xs with
    | nil => exact fun _ => rfl
    | cons t rest ih =>
      intro hx
      obtain ⟨v, hv, hs⟩ := hx t List.mem_cons_self
      rw [List.mapM_cons, hv, ih fun u hu => hx u (List.mem_cons_of_mem _ hu)]
      simp [hs, bind, Except.bind, pure, Except.pure]
  have hkept : ∀ xs : List Value, ((xs.zip (xs.map fun _ => true)).filter (·.2)).map (·.1) = xs := by
    intro xs
    induction xs with
    | nil => rfl
    | cons t rest ih =>
      simp only [List.map_cons, List.zip_cons_cons, List.filter_cons, ↓reduceIte, ih]
  rw [StoreCall.rewrite, hkeep data h]
  simp only [hkept, bind, Except.bind, Nat.lt_irrefl, ↓reduceIte]
  rfl

/-- With no completed task there is nothing to clean up, so nothing is written. -/
theorem cleanupCompleted_rewrite_of_none {stamp : Value} {data : List Value}
    (h : ∀ t ∈ data, (t.getD "status" .null).same (.str "completed") = false) :
    StoreCall.cleanupCompleted.rewrite stamp data = .ok none := by
  have hkeep : cleanupTasks data = data := List.filter_eq_self.2 fun t ht => by simp [h t ht]
  simp only [StoreCall.rewrite, hkeep, Nat.sub_self, gt_iff_lt, Nat.lt_irrefl, ↓reduceIte]
  rfl

/-- A read of the execution queue that purges nothing leaves the workspace as it found it. -/
theorem load_run_of_kept {w : Workspace} {doc : Value} {kept : List Value}
    (hq : w.queue = .execution) (hread : readJson? w.files.tasks = some doc)
    (hpurge : purge w.clock (tasksOf doc) = .ok (kept, false)) : load.run.run w = (.ok kept, w) := by
  have htext : queueText.run.run w = (.ok w.files.tasks, w) := by
    show (Except.ok (match w.queue with
      | .execution => w.files.tasks
      | .analysis => w.files.analysis), w) = _
    rw [hq]
  unfold load
  rw [run_bind_eq, htext]
  dsimp only
  rw [hread]
  dsimp only
  have hclock : now.run.run w = (.ok w.clock, w) := rfl
  rw [run_bind_eq, hclock]
  dsimp only
  rw [run_bind_eq, hpurge, run_lift_ok]
  rfl

/-! ## A failed call leaves the file its read left, unless it failed after its write -/

/-- A store call leaves the execution queue's file as its read left it, or holds the write of its
rewrite of the list it read; the rewrite says which calls stop without writing. -/
theorem stopped_call_keeps_loaded_file :
    (∀ (call : StoreCall) (w : Workspace), (call.act.run.run w).2.files.tasks =
      match load.run.run w with
      | (.ok data, w₁) => fileAfter (storeView w₁) (call.rewrite (stampAt w₁.clock) data)
      | (.error _, w₁) => w₁.files.tasks) ∧
    (∀ (call : StoreCall) (w w₁ : Workspace) (data : List Value) (e : Fault),
      load.run.run w = (.ok data, w₁) → call.rewrite (stampAt w₁.clock) data = .error e →
      ∃ e', (call.act.run.run w).1 = .error e') ∧
    (∀ stamp data id, findTask data id = .ok none → ∀ text index status,
      (StoreCall.addTodo id text).rewrite stamp data = .ok none ∧
      (StoreCall.markDone id index).rewrite stamp data = .ok none ∧
      (StoreCall.deleteTodo id index).rewrite stamp data = .ok none ∧
      (StoreCall.setStatus id status).rewrite stamp data = .ok none) ∧
    (∀ stamp data id index i todos, findTask data id = .ok (some i) →
      (data.getD i .null).item "todos" = .ok todos →
      (todos.truthy = false ∨ ∃ n : Nat, todos.count = .ok n ∧ (index < 0 ∨ (n : Int) ≤ index)) →
      (StoreCall.markDone id index).rewrite stamp data = .ok none ∧
      (StoreCall.deleteTodo id index).rewrite stamp data = .ok none) ∧
    (∀ stamp data id, (∀ t ∈ data, ∃ v, t.item "id" = .ok v ∧ v.same id = false) →
      (StoreCall.hardDelete id).rewrite stamp data = .ok none) ∧
    (∀ stamp data, (∀ t ∈ data, (t.getD "status" .null).same (.str "completed") = false) →
      StoreCall.cleanupCompleted.rewrite stamp data = .ok none) ∧
    (∀ stamp data id sub, (StoreCall.showTask id).rewrite stamp data = .ok none ∧
      (StoreCall.previewSubStep id sub).rewrite stamp data = .ok none) :=
  ⟨file_after_call, fun _ _ _ _ _ hload he => call_faults_of_rewrite hload he,
    fun _ _ _ h _ _ _ => by
      simp only [StoreCall.rewrite]
      exact ⟨rewriteTask_of_missing h, rewriteTask_of_missing h, rewriteTask_of_missing h,
        rewriteTask_of_missing h⟩,
    fun _ _ _ _ _ _ hf ht hstop => by
      simp only [StoreCall.rewrite]
      exact ⟨rewriteTask_of_none hf (markedTask_of_stop ht hstop),
        rewriteTask_of_none hf (trimmedTask_of_stop ht hstop)⟩,
    fun _ _ _ h => hardDelete_rewrite_of_absent h, fun _ _ h => cleanupCompleted_rewrite_of_none h,
    fun _ _ _ _ => ⟨rfl, rfl⟩⟩

/-- A todo index out of range, on a stored task: the file stays as it was. -/
theorem markDone_out_of_range_keeps_file :
    ((StoreCall.markDone (.str "t") 5).act.run.run
      { clock := { year := 2025, month := 1, day := 15 },
        files := { tasks := some (Value.write .file (.arr [.obj [("id", .str "t"),
          ("todos", .arr [.obj [("done", .bool false)]])]])) } }).2.files.tasks =
      some (Value.write .file (.arr [.obj [("id", .str "t"),
        ("todos", .arr [.obj [("done", .bool false)]])]])) := by
  have hplain : (Value.arr [.obj [("id", .str "t"), ("todos", .arr [.obj [("done", .bool false)]])]]).Plain :=
    .arr fun x hx => by
      rw [List.mem_singleton] at hx
      subst hx
      refine .obj (by decide) fun kv hkv => ?_
      simp only [List.mem_cons, List.mem_nil_iff, or_false] at hkv
      rcases hkv with rfl | rfl
      · exact .str _
      · exact .arr fun y hy => by
          rw [List.mem_singleton] at hy
          subst hy
          exact .obj (by decide) fun kv hkv => by
            rw [List.mem_singleton] at hkv
            subst hkv
            exact .bool _
  rw [stopped_call_keeps_loaded_file.1, load_run_of_kept rfl (readJson_write hplain) rfl]
  dsimp only
  rw [(stopped_call_keeps_loaded_file.2.2.2.1 _ _ _ 5 0 _ rfl rfl (.inr ⟨1, rfl, .inr (by decide)⟩)).1]
  rfl

/-- A failed call that keeps its write: marking done a todo without a text writes the marked
list, and then faults printing that text. -/
theorem markDone_fault_keeps_write : ∃ w : Workspace,
    (∃ e, ((markDone (.str "t") 0).run.run w).1 = .error e) ∧
    ((markDone (.str "t") 0).run.run w).2.files.tasks ≠ (load.run.run w).2.files.tasks := by
  obtain ⟨W, hq, htasks⟩ : ∃ W : Workspace, W.queue = .execution ∧ W.files.tasks =
      some (Value.write .file (.arr [.obj [("id", .str "t"), ("todos", .arr [.obj [("done", .bool false)]])]])) :=
    ⟨{ clock := { year := 2025, month := 1, day := 15 },
       files := { tasks := some (Value.write .file (.arr [.obj [("id", .str "t"),
         ("todos", .arr [.obj [("done", .bool false)]])]])) } }, rfl, rfl⟩
  -- the task as read, and as marked and stamped
  have hread : (Value.arr [.obj [("id", .str "t"), ("todos", .arr [.obj [("done", .bool false)]])]]).Plain :=
    .arr fun x hx => by
      rw [List.mem_singleton] at hx
      subst hx
      refine .obj (by decide) fun kv hkv => ?_
      simp only [List.mem_cons, List.mem_nil_iff, or_false] at hkv
      rcases hkv with rfl | rfl
      · exact .str _
      · exact .arr fun y hy => by
          rw [List.mem_singleton] at hy
          subst hy
          exact .obj (by decide) fun kv hkv => by
            rw [List.mem_singleton] at hkv
            subst hkv
            exact .bool _
  have hmarked : (Value.arr [.obj [("id", .str "t"), ("todos", .arr [.obj [("done", .bool true)]]),
      ("updated", stampAt W.clock), ("status", .str "completed")]]).Plain :=
    .arr fun x hx => by
      rw [List.mem_singleton] at hx
      subst hx
      refine .obj (by show List.Nodup ["id", "todos", "updated", "status"]; decide) fun kv hkv => ?_
      simp only [List.mem_cons, List.mem_nil_iff, or_false] at hkv
      rcases hkv with rfl | rfl | rfl | rfl
      · exact .str _
      · exact .arr fun y hy => by
          rw [List.mem_singleton] at hy
          subst hy
          exact .obj (by decide) fun kv hkv => by
            rw [List.mem_singleton] at hkv
            subst hkv
            exact .bool _
      · exact .str _
      · exact .str _
  have hload : load.run.run W = (.ok [.obj [("id", .str "t"),
      ("todos", .arr [.obj [("done", .bool false)]])]], W) :=
    load_run_of_kept hq (by rw [htasks]; exact readJson_write hread) rfl
  refine ⟨W, ?_, ?_⟩
  · -- the run faults after the save, printing the todo's text
    have hl : Triple (fun w => storeView w = storeView W) load
        (fun data w => storeView w = storeView W ∧ data = [.obj [("id", .str "t"),
          ("todos", .arr [.obj [("done", .bool false)]])]]) (fun _ => True) := by
      intro w hw
      have hq' : w.queue = .execution := (congrArg (fun v => v.1) hw).trans hq
      have ht' : w.files.tasks = W.files.tasks := congrArg (fun v => v.2.2) hw
      rw [load_run_of_kept hq' (by rw [ht', htasks]; exact readJson_write hread) rfl]
      exact ⟨hw, rfl⟩
    have hrun : Triple (fun w => storeView w = storeView W) (markDone (.str "t") 0)
        (fun _ _ => False) (fun _ => True) := by
      unfold markDone
      refine Triple.bind hl fun data => Triple.pure_pre fun hd => ?_
      subst hd
      refine Triple.lift_ok_bind rfl ?_
      dsimp only
      refine Triple.lift_ok_bind rfl ?_
      refine Triple.ite (fun h => absurd h (by decide)) fun _ => ?_
      refine Triple.lift_ok_bind rfl ?_
      refine Triple.ite (fun h => absurd h (by decide)) fun _ => ?_
      refine Triple.lift_ok_bind rfl (Triple.lift_ok_bind rfl (Triple.lift_ok_bind rfl ?_))
      refine Triple.bind triple_stampNow_view fun s => Triple.pure_pre fun hs => ?_
      subst hs
      refine Triple.lift_ok_bind rfl (Triple.lift_ok_bind rfl ?_)
      refine Triple.bind ((triple_save_file ?_).conseq (fun _ h => h) (fun _ _ _ => True.intro)
        fun _ _ => True.intro) fun _ => ?_
      · -- the marked task carries the store's stamp
        refine readsClean_iff.2 fun t ht => ?_
        simp only [List.set_cons_zero, List.mem_singleton, ite_true] at ht
        subst ht
        exact stamped_status_clean rfl _
      exact Triple.lift_ok_bind rfl (Triple.lift_error_bind rfl fun _ _ => True.intro)
    have h := hrun W rfl
    revert h
    rcases (markDone (.str "t") 0).run.run W with ⟨_ | _, w'⟩
    · exact fun _ => ⟨_, rfl⟩
    · exact False.elim
  · -- the file holds the marked list, which differs from the list read
    show ((StoreCall.markDone (.str "t") 0).act.run.run W).2.files.tasks ≠ _
    rw [file_after_call, hload]
    have hre : (StoreCall.markDone (.str "t") 0).rewrite (stampAt W.clock)
        [.obj [("id", .str "t"), ("todos", .arr [.obj [("done", .bool false)]])]] =
        .ok (some [.obj [("id", .str "t"), ("todos", .arr [.obj [("done", .bool true)]]),
          ("updated", stampAt W.clock), ("status", .str "completed")]]) := rfl
    dsimp only
    rw [hre, htasks]
    simp only [fileAfter, storeView, hq]
    intro h
    have hback := congrArg readJson? h
    rw [readJson_write hmarked, readJson_write hread] at hback
    simp at hback

end Taskflow.Queue
