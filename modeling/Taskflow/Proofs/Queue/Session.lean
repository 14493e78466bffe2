import Taskflow.Proofs.Queue.Ids
/-!
Sessions of requests to the store, and the ids they leave.
-/

namespace Taskflow.Queue

open Json Workspace

/-- A request to the store. -/
inductive Request where
  | newTask (description : Value)
  | addTodo (id text : Value)
  | markDone (id : Value) (index : Int)
  | deleteTodo (id : Value) (index : Int)
  | setStatus (id status : Value)
  | hardDelete (id : Value)
  | cleanupCompleted
  | showTask (id : Value)
  | command (args : List String)
  | executeTask (description : String)
  | setClock (c : Time.Civil)

namespace Request

/-- What a request runs. -/
def run : Request → WorkspaceM Unit
  | .newTask d => do let _ ← Queue.newTask d
  | .addTodo id text => Queue.addTodo id text
  | .markDone id index => Queue.markDone id index
  | .deleteTodo id index => Queue.deleteTodo id index
  | .setStatus id status => Queue.setStatus id status
  | .hardDelete id => Queue.hardDelete id
  | .cleanupCompleted => Queue.cleanupCompleted
  | .showTask id => Queue.showTask id
  | .command args => do let _ ← runTodoCommand args
  | .executeTask d => do let _ ← Task.executeTask d
  | .setClock c => modify fun w => { w with clock := c }

/-- The values a request writes into a task are plain. -/
def Plain : Request → Prop
  | .addTodo _ text => text.Plain
  | .setStatus _ status => status.Plain
  | _ => True

/-- The clock after the request, from clock `c`. -/
def clockAfter (c : Time.Civil) : Request → Time.Civil
  | .setClock c' => c'
  | _ => c

/-- The ids the request's creation makes at clock `c`. -/
def made (c : Time.Civil) : Request → List Value
  | .newTask d => madeBy c d
  | .command args => commandLineMade c args
  | .executeTask d => madeBy c (.str d)
  | _ => []

end Request

/-- Runs requests one after another; a request that faults leaves its workspace to the next. -/
def runSession : List Request → WorkspaceM Unit
  | [] => pure ()
  | r :: rs => do
    let _ ← attempt r.run
    runSession rs

/-- The ids the session's creations make, in order, from clock `c`. -/
def sessionMade (c : Time.Civil) : List Request → List Value
  | [] => []
  | r :: rs => r.made c ++ sessionMade (r.clockAfter c) rs

/-! ## One request, then a session -/

/-- A request grows the ids by those its creation makes, and leaves the clock it names. -/
theorem triple_request {r : Request} (hr : r.Plain) (c : Time.Civil) (M : List Value) :
    Triple (IdsAmong c M) r.run (fun _ => IdsAmong (r.clockAfter c) (M ++ r.made c))
      (IdsAmong (r.clockAfter c) (M ++ r.made c)) := by
  cases r with
  | newTask d => exact Grows.bind_nil_right (grows_newTask d) (fun _ => Grows.ret ()) M
  | addTodo id text => exact grows_addTodo id hr M
  | markDone id index => exact grows_markDone id index M
  | deleteTodo id index => exact grows_deleteTodo id index M
  | setStatus id status => exact grows_setStatus id hr M
  | hardDelete id => exact grows_hardDelete id M
  | cleanupCompleted => exact grows_cleanupCompleted M
  | showTask id => exact grows_showTask id M
  | command args => exact Grows.bind_nil_right (grows_runTodoCommand args) (fun _ => Grows.ret ()) M
  | executeTask d => exact Grows.bind_nil_right (grows_executeTask d) (fun _ => Grows.ret ()) M
  | setClock c' =>
    -- moving the clock keeps the store
    simp only [Request.clockAfter, Request.made, List.append_nil]
    exact Triple.update fun _ hw => ⟨rfl, hw.stored⟩

/-- A session grows the ids by those its creations make, and never faults. -/
theorem triple_runSession : ∀ (rs : List Request), (∀ r ∈ rs, r.Plain) → ∀ (c : Time.Civil) (M : List Value),
    Triple (IdsAmong c M) (runSession rs) (fun _ w => ∃ c', IdsAmong c' (M ++ sessionMade c rs) w)
      (fun _ => False)
  | [], _, c, M => Triple.ret () fun _ hw => ⟨c, by simpa only [sessionMade, List.append_nil] using hw⟩
  | r :: rs, hplain, c, M => by
    have hrest := triple_runSession rs (fun r' hr' => hplain r' (List.mem_cons_of_mem r hr'))
      (r.clockAfter c) (M ++ r.made c)
    simp only [List.append_assoc] at hrest
    exact Triple.bind (Triple.attempt (triple_request (hplain r List.mem_cons_self) c M)
      (fun _ _ hw => hw) (fun _ _ hw => hw)) fun _ => hrest

/-! ## The ids after a session -/

/-- After a session, the ids of the stored tasks are, in order, among those stored before and
then those the session's creations made; so they are pairwise distinct whenever those are. -/
theorem session_ids_sublist (rs : List Request) (hplain : ∀ r ∈ rs, r.Plain) {w : Workspace}
    {L : List Value} (hw : Stored w L) (hL : Tidy L) :
    ∃ L', Stored ((runSession rs).run.run w).2 L' ∧
      (ids L').Sublist (ids L ++ sessionMade w.clock rs) ∧
      ((ids L ++ sessionMade w.clock rs).Nodup → (ids L').Nodup) := by
  obtain ⟨_, -, _, ⟨-, L', hs, -, hsub⟩⟩ :=
    Triple.run_ok (triple_runSession rs hplain w.clock (ids L)) ⟨rfl, L, hw, hL, .refl _⟩
  exact ⟨L', hs, hsub, fun hnd => hnd.sublist hsub⟩

/-- From an empty store, a task created, then one second later the same task created again by
the command line. -/
theorem session_ids_sublist_one_second_apart :
    ∃ L', Stored ((runSession [.newTask (.str "write report"),
        .setClock { year := 2025, month := 1, day := 15, hour := 12, second := 1 },
        .command ["new", "write report"]]).run.run
        { clock := { year := 2025, month := 1, day := 15, hour := 12 } }).2 L' ∧
      (ids L').Sublist (ids [] ++ sessionMade { year := 2025, month := 1, day := 15, hour := 12 }
        [.newTask (.str "write report"),
          .setClock { year := 2025, month := 1, day := 15, hour := 12, second := 1 },
          .command ["new", "write report"]]) ∧
      ((ids [] ++ sessionMade { year := 2025, month := 1, day := 15, hour := 12 }
        [.newTask (.str "write report"),
          .setClock { year := 2025, month := 1, day := 15, hour := 12, second := 1 },
          .command ["new", "write report"]]).Nodup → (ids L').Nodup) :=
  session_ids_sublist _ (fun r hr => by
    simp only [List.mem_cons, List.mem_nil_iff, or_false] at hr
    rcases hr with rfl | rfl | rfl <;> exact trivial) rfl fun _ h => (List.not_mem_nil h).elim

/-- Two creations in one second with one description store one id twice. -/
theorem newTask_twice_repeats_id :
    ∃ L, Stored ((runSession [.newTask (.str "dup task"), .newTask (.str "dup task")]).run.run
      { clock := { year := 2025, month := 1, day := 15, hour := 12 } }).2 L ∧ ¬ (ids L).Nodup := by
  let c : Time.Civil := { year := 2025, month := 1, day := 15, hour := 12 }
  let t := freshTask (newId (Time.manila c).civil "dup task") "dup task" (Time.manila c).iso
  have ht : Tidy [t] := fun u hu => by
    rw [List.mem_singleton.1 hu]
    exact ⟨freshTask_plain _ _ _, rfl⟩
  have hfresh : fresh c [t] = [t] := by
    simp [fresh, isStale, t, freshTask, Value.getD, Value.get?, Value.same]
  -- each creation appends the same task
  have hfirst : Triple (StoreAt .execution c []) (Request.newTask (.str "dup task")).run
      (fun _ => StoreAt .execution c [t]) (fun _ => False) :=
    Triple.bind (triple_newTask_ok (fun _ h => (List.not_mem_nil h).elim) "dup task")
      fun _ => Triple.ret () fun _ hw => hw.1
  have hsecond : Triple (StoreAt .execution c [t]) (Request.newTask (.str "dup task")).run
      (fun _ => StoreAt .execution c [t, t]) (fun _ => False) :=
    Triple.bind (triple_newTask_ok ht "dup task") fun _ => Triple.ret () fun _ hw => by
      simpa only [hfresh, List.cons_append, List.nil_append] using hw.1
  have hrun : Triple (StoreAt .execution c [])
      (runSession [.newTask (.str "dup task"), .newTask (.str "dup task")])
      (fun _ => StoreAt .execution c [t, t]) (fun _ => False) :=
    Triple.bind (Triple.attempt_ok hfirst) fun _ => Triple.exists_pre fun _ =>
      Triple.pure_pre fun _ => Triple.bind (Triple.attempt_ok hsecond) fun _ =>
        Triple.exists_pre fun _ => Triple.pure_pre fun _ => Triple.ret () fun _ hw => hw
  obtain ⟨_, -, hw⟩ := Triple.run_ok hrun
    (show StoreAt .execution c [] { clock := c } from ⟨rfl, rfl, rfl⟩)
  refine ⟨[t, t], hw.stored, ?_⟩
  simp [ids]

end Taskflow.Queue
