import Taskflow.Proofs.Queue.Session
/-!
Which queue each request works on.
-/

namespace Taskflow.Queue

open Json Workspace Command

/-- The queue other than this one. -/
def other : Queue → Queue
  | .execution => .analysis
  | .analysis => .execution

theorem eq_other_of_ne {q q' : Queue} (h : q ≠ q') : q = q'.other := by
  revert h
  cases q <;> cases q' <;> decide

def idleView (w : Workspace) : Queue × Option String := (w.queue, w.files.queue w.queue.other)

/-! ## The store's operations keep the other queue -/

section Store

theorem keeps_say_idle (line : String) : Keeps idleView (say line) := Keeps.update fun _ => rfl

theorem keeps_writeQueue_idle (text : String) : Keeps idleView (writeQueue text) := by
  rintro ⟨clock, queue, files, cursor, im, printed⟩
  cases queue <;> rfl

/-- A save, and the saves its note's read makes, write the queue in use only: the note and the
memory folder lie beside the queues. -/
theorem keeps_save_idle (data : List Value) : Keeps idleView (save data) :=
  keeps_save keeps_writeQueue_idle (fun _ _ => rfl) (keeps_autoSync_unsynced.comp idleView) data

theorem keeps_load_idle : Keeps idleView load := by
  unfold load
  refine Keeps.bind Keeps.read fun text => ?_
  split
  · exact Keeps.ret _
  · refine Keeps.bind keeps_now fun _ => Keeps.bind (Keeps.lift _) fun r => ?_
    rcases r with ⟨kept, changed⟩
    dsimp only
    split
    · exact Keeps.bind (keeps_save_idle _) fun _ => Keeps.ret _
    · exact Keeps.ret _

theorem keeps_listOpen_idle : Keeps idleView listOpen :=
  Keeps.bind keeps_load_idle fun _ => Keeps.ret _

theorem keeps_newTask_idle (description : Value) : Keeps idleView (newTask description) := by
  unfold newTask
  refine Keeps.bind keeps_load_idle fun _ => Keeps.bind keeps_manilaNow fun _ => ?_
  extract_lets jp
  have hjp : ∀ desc, Keeps idleView (jp desc) := fun _ =>
    Keeps.bind (keeps_save_idle _) fun _ => Keeps.bind (keeps_say_idle _) fun _ =>
      Keeps.bind (keeps_say_idle _) fun _ => Keeps.ret _
  split
  · exact Keeps.bind (Keeps.ret _) hjp
  · exact Keeps.bind (Keeps.fault _) hjp

theorem keeps_addTodo_idle (id text : Value) : Keeps idleView (addTodo id text) := by
  unfold addTodo
  refine Keeps.bind keeps_load_idle fun _ => Keeps.bind (Keeps.lift _) fun r => ?_
  cases r with
  | none => exact keeps_sayMissing keeps_say_idle id
  | some i =>
    exact Keeps.bind (Keeps.lift _) fun _ => Keeps.bind (Keeps.lift _) fun _ =>
      Keeps.bind keeps_stampNow fun _ => Keeps.bind (keeps_save_idle _) fun _ => keeps_say_idle _

theorem keeps_setStatus_idle (id status : Value) : Keeps idleView (setStatus id status) := by
  unfold setStatus
  refine Keeps.bind keeps_load_idle fun _ => Keeps.bind (Keeps.lift _) fun r => ?_
  cases r with
  | none => exact keeps_sayMissing keeps_say_idle id
  | some i =>
    exact Keeps.bind keeps_stampNow fun _ => Keeps.bind (keeps_save_idle _) fun _ => keeps_say_idle _

theorem keeps_markDone_idle (id : Value) (index : Int) : Keeps idleView (markDone id index) := by
  unfold markDone
  refine Keeps.bind keeps_load_idle fun _ => Keeps.bind (Keeps.lift _) fun r => ?_
  cases r with
  | none => exact keeps_sayMissing keeps_say_idle id
  | some i =>
    refine Keeps.bind (Keeps.lift _) fun todos => ?_
    split
    · exact Keeps.bind (keeps_say_idle _) fun _ => Keeps.bind (keeps_say_idle _) fun _ => Keeps.ret _
    refine Keeps.bind (Keeps.lift _) fun n => ?_
    split
    · exact Keeps.bind (keeps_sayBadIndex keeps_say_idle _ _) fun _ => Keeps.ret _
    exact Keeps.bind (Keeps.lift _) fun _ => Keeps.bind (Keeps.lift _) fun _ =>
      Keeps.bind (Keeps.lift _) fun _ => Keeps.bind keeps_stampNow fun _ =>
      Keeps.bind (Keeps.lift _) fun _ => Keeps.bind (Keeps.lift _) fun _ =>
      Keeps.bind (keeps_save_idle _) fun _ => Keeps.bind (Keeps.lift _) fun _ =>
      Keeps.bind (Keeps.lift _) fun _ => keeps_say_idle _

theorem keeps_deleteTodo_idle (id : Value) (index : Int) : Keeps idleView (deleteTodo id index) := by
  unfold deleteTodo
  refine Keeps.bind keeps_load_idle fun _ => Keeps.bind (Keeps.lift _) fun r => ?_
  cases r with
  | none => exact keeps_sayMissing keeps_say_idle id
  | some i =>
    refine Keeps.bind (Keeps.lift _) fun todos => ?_
    split
    · exact Keeps.bind (keeps_say_idle _) fun _ => Keeps.ret _
    refine Keeps.bind (Keeps.lift _) fun n => ?_
    split
    · exact Keeps.bind (keeps_sayBadIndex keeps_say_idle _ _) fun _ => Keeps.ret _
    refine Keeps.bind (Keeps.lift _) fun _ => Keeps.bind (Keeps.lift _) fun _ =>
      Keeps.bind (Keeps.lift _) fun _ => Keeps.bind keeps_stampNow fun _ =>
      Keeps.bind (keeps_save_idle _) fun _ => Keeps.bind (keeps_say_idle _) fun _ => ?_
    split
    · exact Keeps.bind (keeps_say_idle _) fun _ => keeps_sayTodos keeps_say_idle _ _
    · exact keeps_say_idle _

theorem keeps_hardDelete_idle (id : Value) : Keeps idleView (hardDelete id) := by
  unfold hardDelete
  refine Keeps.bind keeps_load_idle fun _ => Keeps.bind (Keeps.lift _) fun _ => ?_
  extract_lets kept jp
  refine Keeps.ite ?_ (keeps_sayMissing keeps_say_idle id)
  refine Keeps.bind (keeps_save_idle _) fun _ => Keeps.bind (keeps_say_idle _) fun _ =>
    Keeps.bind (Keeps.attempt ((keeps_forgetInterrupted_untracked id).comp idleView)) fun r => ?_
  -- the clean-ups after the write print their own failures
  have hjp : ∀ u, Keeps idleView (jp u) := fun _ =>
    Keeps.bind (Keeps.attempt (keeps_forgetInFiles_of (fun _ _ => rfl) id)) fun r' => by
      split
      · exact keeps_say_idle _
      · exact Keeps.ret _
  split
  · exact Keeps.bind (keeps_say_idle _) hjp
  · exact hjp ()

theorem keeps_cleanupCompleted_idle : Keeps idleView cleanupCompleted := by
  unfold cleanupCompleted
  refine Keeps.bind keeps_load_idle fun _ => ?_
  extract_lets kept removed
  exact Keeps.ite (Keeps.bind (keeps_save_idle _) fun _ => keeps_say_idle _) (keeps_say_idle _)

theorem keeps_showTask_idle (id : Value) : Keeps idleView (showTask id) := by
  obtain ⟨body, hshow, hbody⟩ := showTask_loads keeps_say_idle id
  rw [hshow]
  exact Keeps.bind keeps_load_idle hbody

theorem keeps_previewSubStep_idle (id sub : Value) : Keeps idleView (previewSubStep id sub) := by
  obtain ⟨body, hpreview, hbody⟩ := previewSubStep_loads keeps_say_idle id sub
  rw [hpreview]
  exact Keeps.bind keeps_load_idle hbody

end Store

/-! ## Running a task keeps the other queue -/

section Execute

open Taskflow.Task

theorem keeps_findOrCreate_idle (d : String) : Keeps idleView (findOrCreate d) := by
  unfold findOrCreate
  refine Keeps.bind keeps_listOpen_idle fun tasks =>
    Keeps.bind (Keeps.forIn (fun t r => ?_) _ _) fun found => ?_
  · dsimp only
    split
    · refine Keeps.bind (Keeps.lift _) fun v => ?_
      split
      · exact Keeps.ret _
      · exact Keeps.ret _
    · exact Keeps.ret _
  · dsimp only
    cases found with
    | some t => exact Keeps.bind (Keeps.lift _) fun _ => Keeps.ret _
    | none => exact Keeps.bind (keeps_newTask_idle _) fun _ => Keeps.ret _

theorem keeps_addGroup_idle (id : Value) (present : List Value) (heading : String)
    (subs : List Subtask) : Keeps idleView (addGroup id present heading subs) := by
  unfold addGroup
  refine Keeps.bind (Keeps.attempt (keeps_addTodo_idle id _)) fun r => ?_
  split
  · refine Keeps.bind (Keeps.forIn (fun s _ => ?_) _ _) fun _ => Keeps.ret _
    split
    · exact Keeps.bind (Keeps.attempt (keeps_addTodo_idle id _)) fun _ => Keeps.ret _
    · exact Keeps.ret _
  · exact Keeps.ret _

theorem keeps_executeTask_idle (d : String) : Keeps idleView (executeTask d) := by
  unfold executeTask
  extract_lets ck
  refine Keeps.bind (Keeps.attempt (keeps_findOrCreate_idle d)) fun r => ?_
  cases r with
  | error e => exact Keeps.ret _
  | ok r =>
    obtain ⟨id, existing⟩ := r
    simp -zeta only [pure_bind]
    refine Keeps.bind (Keeps.attempt ?_) fun r => ?_
    · extract_lets jp
      -- after the todo texts are read: the groups' todos, then the status
      have hjp : ∀ present, Keeps idleView (jp present) := fun present => by
        simp only [jp]
        refine Keeps.bind (Keeps.forIn (fun g _ => ?_) _ _) fun _ =>
          Keeps.bind (Keeps.attempt (keeps_setStatus_idle id _)) fun r => ?_
        · obtain ⟨heading, subs⟩ := g
          dsimp only
          split
          · exact Keeps.bind (keeps_addGroup_idle id present heading subs) fun _ => Keeps.ret _
          · exact Keeps.ret _
        · cases r with
          | error e => exact Keeps.ret _
          | ok a => exact Keeps.ite (Keeps.ret _) (Keeps.ret _)
      cases existing with
      | some t =>
        exact Keeps.bind (Keeps.lift _) fun _ => Keeps.bind (Keeps.lift _) fun _ =>
          Keeps.bind (Keeps.lift _) hjp
      | none =>
        simp only
        exact hjp []
    · split
      · exact Keeps.ret _
      · exact Keeps.ret _

end Execute

/-! ## The queue a command line chooses -/

/-- The queue a parsed command works on, when queue `q` is in use before it: the store commands
take the queue their mode names, `exec` keeps `q`, and the listing takes the execution queue. -/
def commandQueue (vs : List (String × Given)) (q : Queue) : Queue :=
  match textOf vs "cmd" with
  | some "exec" => q
  | some "new" | some "add" | some "done" | some "delete" | some "show" | some "hard_delete"
  | some "cleanup" => Queue.ofMode ((textOf vs "mode").getD "execution")
  | _ => .execution

/-- The queue a command line works on, when queue `q` is in use before it; a line that is not
read, or asks for help, runs nothing and keeps `q`. -/
def lineQueue (args : List String) (q : Queue) : Queue :=
  match parseCommands commandGrammars args with
  | .parsed vs => commandQueue vs q
  | _ => q

/-- The action leaves queue `choose q` in use, where `q` was in use before it, and the file of
the queue other than that one as it was. -/
def Chooses (choose : Queue → Queue) {α : Type} (act : WorkspaceM α) : Prop :=
  ∀ w, idleView (act.run.run w).2 = (choose w.queue, w.files.queue (choose w.queue).other)

section Chooses

variable {α β : Type} {choose : Queue → Queue}

theorem Chooses.of_keeps {act : WorkspaceM α} (h : Keeps idleView act) : Chooses id act := h

theorem Chooses.useQueue {f : Unit → WorkspaceM α} (q : Queue) (h : ∀ u, Keeps idleView (f u)) :
    Chooses (fun _ => q) (useQueue q >>= f) := fun w => h () { w with queue := q }

theorem Chooses.bind_ret {act : WorkspaceM α} (h : Chooses choose act) (b : β) :
    Chooses choose (act >>= fun _ => pure b) := fun w => by
  rw [run_bind_eq]
  have hw := h w
  revert hw
  rcases act.run.run w with ⟨_ | a, w'⟩ <;> exact id

theorem Chooses.attempt {act : WorkspaceM α} (h : Chooses choose act) :
    Chooses choose (Workspace.attempt act) := fun w => by
  rw [run_attempt]
  exact h w

end Chooses

theorem chooses_runCommand (vs : List (String × Given)) : Chooses (commandQueue vs) (runCommand vs) := by
  intro w
  unfold runCommand
  extract_lets arg mode
  split
  · next h =>
    rw [commandQueue, h]
    exact Chooses.useQueue _ (fun _ => Keeps.bind (keeps_newTask_idle _) fun _ => Keeps.ret _) w
  · next h =>
    rw [commandQueue, h]
    exact Chooses.useQueue _ (fun _ => keeps_addTodo_idle _ _) w
  · next h =>
    rw [commandQueue, h]
    -- the index is read and the gate asked before the todo is marked; both only read
    refine Chooses.useQueue _ (fun _ => Keeps.bind (keeps_readIndex keeps_say_idle _ _) fun r => ?_) w
    cases r with
    | none => exact Keeps.ret _
    | some i =>
      dsimp only
      split
      · refine Keeps.bind (keeps_gate _) fun v => ?_
        split
        · exact Keeps.bind (keeps_say_idle _) fun _ => Keeps.ret _
        · exact keeps_markDone_idle _ _
      · exact keeps_markDone_idle _ _
  · next h =>
    rw [commandQueue, h]
    refine Chooses.useQueue _ (fun _ => Keeps.bind (keeps_readIndex keeps_say_idle _ _) fun r => ?_) w
    cases r with
    | none => exact Keeps.ret _
    | some i => exact keeps_deleteTodo_idle _ _
  · next h =>
    rw [commandQueue, h]
    exact Chooses.of_keeps (keeps_previewSubStep_idle _ _) w
  · next h =>
    rw [commandQueue, h]
    exact Chooses.useQueue _ (fun _ => keeps_showTask_idle _) w
  · next h =>
    rw [commandQueue, h]
    exact Chooses.useQueue _ (fun _ => keeps_hardDelete_idle _) w
  · next h =>
    rw [commandQueue, h]
    exact Chooses.useQueue _ (fun _ => keeps_cleanupCompleted_idle) w
  · -- any other word lists the open tasks of the execution queue
    have hq : commandQueue vs w.queue = .execution := by
      unfold commandQueue
      split <;> simp_all
    rw [hq]
    obtain ⟨body, hlist, hbody⟩ := sayOpenTasks_lists keeps_say_idle
    rw [hlist]
    exact Chooses.useQueue _ (fun _ => Keeps.bind keeps_listOpen_idle hbody) w

theorem chooses_runTodoCommand (args : List String) :
    Chooses (lineQueue args) (runTodoCommand args) := by
  intro w
  unfold runTodoCommand lineQueue
  cases parseCommands commandGrammars args with
  | failed => rfl
  | help => rfl
  | parsed vs => exact (chooses_runCommand vs).bind_ret _ w

/-! ## Sessions -/

namespace Request

/-- The queue in use after the request, when `q` was in use before it. -/
def queueAfter : Request → Queue → Queue
  | .command args => lineQueue args
  | _ => id

end Request

/-- The queues in use after each request of a session that starts on queue `q`. -/
def sessionQueues : Queue → List Request → List Queue
  | _, [] => []
  | q, r :: rs => r.queueAfter q :: sessionQueues (r.queueAfter q) rs

theorem chooses_request (r : Request) : Chooses r.queueAfter r.run := by
  cases r with
  | newTask d => exact Chooses.of_keeps (Keeps.bind (keeps_newTask_idle d) fun _ => Keeps.ret _)
  | addTodo id text => exact Chooses.of_keeps (keeps_addTodo_idle id text)
  | markDone id index => exact Chooses.of_keeps (keeps_markDone_idle id index)
  | deleteTodo id index => exact Chooses.of_keeps (keeps_deleteTodo_idle id index)
  | setStatus id status => exact Chooses.of_keeps (keeps_setStatus_idle id status)
  | hardDelete id => exact Chooses.of_keeps (keeps_hardDelete_idle id)
  | cleanupCompleted => exact Chooses.of_keeps keeps_cleanupCompleted_idle
  | showTask id => exact Chooses.of_keeps (keeps_showTask_idle id)
  | command args => exact (chooses_runTodoCommand args).bind_ret ()
  | executeTask d =>
    exact Chooses.of_keeps (Keeps.bind (keeps_executeTask_idle d) fun _ => Keeps.ret _)
  | setClock c => exact Chooses.of_keeps (Keeps.update fun _ => rfl)

/-- After one request, the queue in use is the one it chose, and the other queue's file is
unchanged. -/
theorem request_step (r : Request) (w : Workspace) :
    ((attempt r.run).run.run w).2.queue = r.queueAfter w.queue ∧
      ∀ q, q ≠ r.queueAfter w.queue → ((attempt r.run).run.run w).2.files.queue q = w.files.queue q := by
  have h := (chooses_request r).attempt w
  simp only [idleView, Prod.mk.injEq] at h
  refine ⟨h.1, fun q hq => ?_⟩
  rw [eq_other_of_ne hq, ← h.2, h.1]

/-- Over a session, the queue in use at the end is the one the requests' choices lead to, and a
queue that no request works on keeps its file. -/
theorem session_works_on_chosen_queues (rs : List Request) (w : Workspace) :
    ((runSession rs).run.run w).2.queue = rs.foldl (fun q r => r.queueAfter q) w.queue ∧
      ∀ q, q ∉ sessionQueues w.queue rs →
        ((runSession rs).run.run w).2.files.queue q = w.files.queue q := by
  induction rs generalizing w with
  | nil => exact ⟨rfl, fun _ _ => rfl⟩
  | cons r rs ih =>
    -- the request runs under `attempt`, so the rest of the session starts from what it leaves
    have hrun : (runSession (r :: rs)).run.run w =
        (runSession rs).run.run ((attempt r.run).run.run w).2 := by
      rw [runSession, run_bind_eq, run_attempt]
    obtain ⟨hqueue, hfile⟩ := request_step r w
    obtain ⟨ih_queue, ih_file⟩ := ih ((attempt r.run).run.run w).2
    rw [hqueue] at ih_queue ih_file
    rw [hrun]
    refine ⟨ih_queue, fun q hq => ?_⟩
    simp only [sessionQueues, List.mem_cons, not_or] at hq
    rw [ih_file q hq.2, hfile q hq.1]

/-- A task created on the analysis queue from the command line, then previewed with `exec`: the
preview works on the analysis queue, and the execution queue's file is never touched. -/
theorem session_exec_after_analysis :
    ((runSession [.command ["new", "x", "--mode", "analysis"],
        .command ["exec", "20250115T200000_x", "0"]]).run.run
      { clock := { year := 2025, month := 1, day := 15, hour := 12 } }).2.queue = .analysis ∧
    Queue.execution ∉ sessionQueues .execution [.command ["new", "x", "--mode", "analysis"],
      .command ["exec", "20250115T200000_x", "0"]] ∧
    ((runSession [.command ["new", "x", "--mode", "analysis"],
        .command ["exec", "20250115T200000_x", "0"]]).run.run
      { clock := { year := 2025, month := 1, day := 15, hour := 12 } }).2.files.tasks = none := by
  have h := session_works_on_chosen_queues [.command ["new", "x", "--mode", "analysis"],
    .command ["exec", "20250115T200000_x", "0"]] { clock := { year := 2025, month := 1, day := 15, hour := 12 } }
  -- both lines choose the analysis queue: the first by its mode, `exec` by keeping it
  have hqueues : sessionQueues .execution [.command ["new", "x", "--mode", "analysis"],
      .command ["exec", "20250115T200000_x", "0"]] = [.analysis, .analysis] := by decide
  have hidle : Queue.execution ∉ sessionQueues .execution [.command ["new", "x", "--mode", "analysis"],
      .command ["exec", "20250115T200000_x", "0"]] := by
    rw [hqueues]
    decide
  -- the execution queue's file named as the field, so the kernel never runs the session
  have htasks : ∀ f : Files, f.queue .execution = f.tasks := fun _ => rfl
  exact ⟨h.1.trans (by decide), hidle, (htasks _).symm.trans ((h.2 .execution hidle).trans (htasks _))⟩

end Taskflow.Queue
