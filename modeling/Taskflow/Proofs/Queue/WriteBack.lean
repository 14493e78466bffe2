import Taskflow.Proofs.Queue.Writes
import Taskflow.Proofs.Queue.Retention
import Taskflow.Proofs.Queue.Completion
/-!
A read's write-back, and the read inside a save's note. A save writes again only after that read
purged a task, so the chain of saves shortens the list at every step; at one clock every list a
store operation writes reads clean, and the chain stops after one nested save.
-/

namespace Taskflow.Queue

open Json Workspace

/-! ## Reads and calls on the execution queue -/

/-- The queue's file holds nothing a read at `c` would purge: the text of a list a read at `c`
keeps whole, or a text whose read at `c` purges nothing. -/
def HoldsClean (c : Time.Civil) (file : Option String) : Prop :=
  (∃ d, ReadsClean c d ∧ file = some (Value.write .file (.arr d))) ∨
    ∀ doc, readJson? file = some doc → ∃ kept, purge c (tasksOf doc) = .ok (kept, false)

def AtClock (c : Time.Civil) (V : Queue × Time.Civil × Option String) : Prop :=
  V.1 = .execution ∧ V.2.1 = c

section Runs

variable {c : Time.Civil} {V : Queue × Time.Civil × Option String} {E : Workspace → Prop}

theorem triple_now_view : Triple (fun w => storeView w = V) now (fun n w => storeView w = V ∧ n = V.2.1) E :=
  Triple.read fun _ hw => ⟨hw, congrArg (fun v => v.2.1) hw⟩

theorem triple_manilaNow_view :
    Triple (fun w => storeView w = V) manilaNow (fun m w => storeView w = V ∧ m = Time.manila V.2.1) E :=
  Triple.bind triple_now_view fun _ => Triple.ret _ fun _ ⟨hw, hn⟩ => ⟨hw, by rw [hn]⟩

theorem triple_say_view (line : String) :
    Triple (fun w => storeView w = V) (say line) (fun _ w => storeView w = V) (fun _ => True) :=
  ((keeps_say line).triple fun _ _ hv hw => hv.trans hw).conseq (fun _ h => h) (fun _ _ h => h)
    (fun _ _ => trivial)

/-- A save of a list that reads clean, on the execution queue, writes the list to its file and
keeps the clock; it never faults. -/
theorem triple_save_view (hq : V.1 = .execution) {d : List Value} (hclean : ReadsClean V.2.1 d) :
    Triple (fun w => storeView w = V) (save d)
      (fun _ w => storeView w = (V.1, V.2.1, some (Value.write .file (.arr d)))) E := by
  have hwrite : Triple (fun w => storeView w = V) (writeQueue (Value.write .file (.arr d)))
      (fun _ w => storeView w = (V.1, V.2.1, some (Value.write .file (.arr d)))) E := by
    rintro ⟨clock, queue, files, cursor, im, printed⟩ rfl
    cases queue with
    | execution => rfl
    | analysis => cases hq
  have hclock : ∀ w, storeView w = (V.1, V.2.1, some (Value.write .file (.arr d))) →
      ReadsClean w.clock d := fun w hw => by
    have hc : w.clock = V.2.1 := congrArg (fun v => v.2.1) hw
    rw [hc]
    exact hclean
  exact triple_save_clean hwrite hclock (fun _ _ hw => hw)
    (keeps_autoSync.triple fun _ _ hv hw => hv.trans hw)

/-- A read of the execution queue from the view `V` gives a list that reads clean. Either it
leaves the view, the file's text purging to that list with no change, or it wrote the list
back, and the list is strictly shorter than the file's. A read that faults writes nothing. -/
theorem triple_load_view (hq : V.1 = .execution) :
    Triple (fun w => storeView w = V) load
      (fun data w => ReadsClean V.2.1 data ∧
        ((storeView w = V ∧
            ∀ doc, readJson? V.2.2 = some doc → purge V.2.1 (tasksOf doc) = .ok (data, false)) ∨
          ∃ doc xs, readJson? V.2.2 = some doc ∧ tasksOf doc = .arr xs ∧
            data.length < xs.length ∧
            storeView w = (V.1, V.2.1, some (Value.write .file (.arr data)))))
      (fun w => storeView w = V) := by
  have htext : Triple (fun w => storeView w = V) queueText
      (fun text w => storeView w = V ∧ text = V.2.2) (fun w => storeView w = V) :=
    Triple.read fun w hw => ⟨hw, by
      subst hw
      simp only [storeView] at hq ⊢
      rw [hq]⟩
  unfold load
  refine Triple.bind htext fun text => Triple.pure_pre fun htext => ?_
  subst htext
  split
  · next hnone =>
    refine Triple.ret [] fun w hw =>
      ⟨readsClean_iff.2 fun _ h => (List.not_mem_nil h).elim, .inl ⟨hw, fun doc h => ?_⟩⟩
    rw [hnone] at h
    cases h
  · next doc hdoc =>
    refine Triple.bind triple_now_view fun n => Triple.pure_pre fun hn => ?_
    subst hn
    refine Triple.lift_bind (fun _ _ _ hw => hw) fun r hr => ?_
    obtain ⟨kept, changed⟩ := r
    have hclean := readsClean_of_purge hr
    dsimp only
    cases changed with
    | false =>
      -- nothing was purged, so nothing is written
      simp only [Bool.false_eq_true, ↓reduceIte]
      refine Triple.ret kept fun w hw => ⟨hclean, .inl ⟨hw, fun d hd => ?_⟩⟩
      rw [hdoc] at hd
      cases hd
      exact hr
    | true =>
      obtain ⟨xs, hxs, hshort⟩ := purge_shortens hr
      simp only [↓reduceIte]
      exact Triple.bind (triple_save_view hq hclean) fun _ =>
        Triple.ret kept fun w hw => ⟨hclean, .inr ⟨doc, xs, hdoc, hxs, hshort, hw⟩⟩

/-- A read of the execution queue at clock `c` keeps the queue and the clock, gives a list that
reads clean, and leaves a file holding nothing a read at `c` would purge. -/
theorem triple_load_clean :
    Triple (fun w => AtClock c (storeView w)) load
      (fun data w => (AtClock c (storeView w) ∧ HoldsClean c w.files.tasks) ∧ ReadsClean c data)
      (fun _ => True) := by
  refine Triple.of_pre fun w₀ hw₀ => ?_
  obtain ⟨hq, hc⟩ := hw₀
  subst hc
  refine (triple_load_view hq).conseq (fun _ h => congrArg storeView h) (fun data w h => ?_)
    (fun _ _ => trivial)
  obtain ⟨hclean, ⟨hv, hall⟩ | ⟨doc, xs, -, -, -, hv⟩⟩ := h
  · refine ⟨⟨by rw [hv]; exact ⟨hq, rfl⟩, .inr fun doc hd => ⟨data, hall doc ?_⟩⟩, hclean⟩
    rwa [← tasks_of_view hv]
  · exact ⟨⟨by rw [hv]; exact ⟨hq, rfl⟩, .inl ⟨data, hclean, tasks_of_view hv⟩⟩, hclean⟩

/-- After a clean read, the file a call's plan leaves holds nothing a read at `c` would purge,
when every list the plan gives reads clean. -/
theorem holdsClean_fileAfter {plan : Except Fault (Option (List Value))} (hV : AtClock c V)
    (hfile : HoldsClean c V.2.2) (hplan : ∀ d, plan = .ok (some d) → ReadsClean c d) :
    HoldsClean c (fileAfter V plan) := by
  rcases plan with e | (_ | d)
  · exact hfile
  · exact hfile
  · unfold fileAfter
    rw [hV.1]
    exact .inl ⟨d, hplan d rfl, rfl⟩

/-- A store call on the execution queue at clock `c` that returns leaves a file holding nothing
a read at `c` would purge. -/
theorem triple_call_clean (call : StoreCall) :
    Triple (fun w => AtClock c (storeView w)) call.act (fun _ w => HoldsClean c w.files.tasks)
      (fun _ => True) := by
  obtain ⟨body, hact, hbody⟩ := call.loadsThenWrites
  rw [hact]
  refine Triple.bind triple_load_clean fun data => Triple.pure_pre fun hdata => ?_
  refine Triple.of_pre fun w₁ hw₁ => ?_
  obtain ⟨hat, hfile⟩ := hw₁
  -- the call writes its rewrite of the clean list it read
  have hplan : ∀ d, ((call.rewrite (stampAt (storeView w₁).2.1) data).map fun o => o) =
      .ok (some d) → ReadsClean c d := by
    intro d hd
    cases hr : call.rewrite (stampAt (storeView w₁).2.1) data with
    | error e =>
      rw [hr] at hd
      cases hd
    | ok o =>
      rw [hr] at hd
      cases hd
      exact rewrite_readsClean call hdata hr
  have hplan' : PlanClean (storeView w₁) (fun o => o) (call.rewrite (stampAt (storeView w₁).2.1) data) :=
    fun d hd => hat.2 ▸ hplan d hd
  refine (hbody (storeView w₁) data hplan').conseq (fun _ h => congrArg storeView h)
    (fun _ w h => ?_) (fun _ _ => trivial)
  rw [h.1]
  exact holdsClean_fileAfter hat hfile hplan

/-- Creating a task on the execution queue at clock `c` leaves, when it returns, a file holding
nothing a read at `c` would purge. -/
theorem triple_newTask_clean (description : Value) :
    Triple (fun w => AtClock c (storeView w)) (newTask description)
      (fun _ w => HoldsClean c w.files.tasks) (fun _ => True) := by
  unfold newTask
  refine Triple.bind triple_load_clean fun data => Triple.pure_pre fun hdata => ?_
  refine Triple.of_pre fun w₁ hw₁ => ?_
  obtain ⟨⟨hq, hc⟩, -⟩ := hw₁
  subst hc
  refine Triple.conseq (P := fun w => storeView w = storeView w₁) (E := fun _ => True) ?_
    (fun _ h => congrArg storeView h) (fun _ _ h => h) (fun _ _ => trivial)
  refine Triple.bind triple_manilaNow_view fun stamp => Triple.pure_pre fun hstamp => ?_
  subst hstamp
  cases description
  case str s =>
    simp only [pure_bind]
    refine Triple.bind (triple_save_view hq (newTask_readsClean hdata _ s)) fun _ => ?_
    refine Triple.bind (triple_say_view _) fun _ => Triple.bind (triple_say_view _) fun _ => ?_
    exact Triple.ret _ fun w hw => .inl ⟨_, newTask_readsClean hdata _ s, tasks_of_view hw⟩
  all_goals
    simp only [ExceptT.bind_throw]
    exact Triple.fault _ fun _ _ => trivial

/-- Listing the open tasks is a read: on the execution queue at clock `c` it leaves a file
holding nothing a read at `c` would purge. -/
theorem triple_listOpen_clean :
    Triple (fun w => AtClock c (storeView w)) listOpen (fun _ w => HoldsClean c w.files.tasks)
      (fun _ => True) :=
  Triple.bind triple_load_clean fun _ => Triple.ret _ fun _ h => h.1.2

end Runs

/-! ## The note's read inside a save -/

/-- The queue in use is `q`, the clock `c`, and `q`'s file holds `data` or, when a read at `c`
removed a task from `data`, what that read kept. -/
def Settled (q : Queue) (c : Time.Civil) (data : List Value) (w : Workspace) : Prop :=
  w.queue = q ∧ w.clock = c ∧ ∃ d, w.files.queue q = some (Value.write .file (.arr d)) ∧
    (d = data ∨ purge c (.arr data) = .ok (d, true))

section Settles

variable {q : Queue} {c : Time.Civil} {E : Workspace → Prop}

/-- Writing the queue in use keeps the queue and the clock. -/
theorem triple_writeQueue_at (data : List Value) :
    Triple (fun w => w.queue = q ∧ w.clock = c) (writeQueue (Value.write .file (.arr data)))
      (fun _ w => w.queue = q ∧ w.clock = c ∧
        w.files.queue q = some (Value.write .file (.arr data))) E := by
  rintro ⟨clock, queue, files, cursor, im, printed⟩ ⟨rfl, rfl⟩
  cases queue <;> exact ⟨rfl, rfl, rfl⟩

/-- The memory folder's sync leaves the queue in use, the clock and the queues' files. -/
theorem unsynced_keeps_queue {w w' : Workspace} (hv : unsynced w' = unsynced w) (q : Queue) :
    w'.queue = w.queue ∧ w'.clock = w.clock ∧ w'.files.queue q = w.files.queue q :=
  ⟨congrArg (fun u => u.queue) hv, congrArg (fun u => u.clock) hv,
    congrArg (fun u => u.files.queue q) hv⟩

theorem triple_autoSync_settled (data : List Value) :
    Triple (Settled q c data) autoSync (fun _ => Settled q c data) (Settled q c data) :=
  keeps_autoSync_unsynced.triple fun _ _ hv hw =>
    have h := unsynced_keeps_queue hv q
    ⟨h.1.trans hw.1, h.2.1.trans hw.2.1, hw.2.2.imp fun _ hd => ⟨h.2.2.trans hd.1, hd.2⟩⟩

/-- The note's read of a list just written either keeps it, or saves what its purge kept; that
save's own read, at the same clock, purges nothing, so it writes nothing more. -/
theorem triple_reread_settled (data : List Value) :
    Triple (Settled q c data) (reread data) (fun _ => Settled q c data) (Settled q c data) := by
  unfold reread
  refine Triple.bind (Q := fun n w => Settled q c data w ∧ n = c)
    (Triple.read fun _ hw => ⟨hw, hw.2.1⟩) fun n => Triple.pure_pre fun hn => ?_
  subst n
  split
  · next kept hp =>
    -- the nested save writes `kept`, which reads clean at this clock
    have hsave := triple_save_clean (P := Settled q c data) (E := Settled q c data)
      ((triple_writeQueue_at (E := Settled q c data) kept).conseq (fun _ hw => ⟨hw.1, hw.2.1⟩)
        (fun _ _ h => h) fun _ h => h)
      (fun _ hw => hw.2.1 ▸ readsClean_of_purge hp) (fun _ _ hw => hw)
      (keeps_autoSync_unsynced.triple fun _ _ hv hw =>
        have h := unsynced_keeps_queue hv q
        ⟨h.1.trans hw.1, h.2.1.trans hw.2.1, h.2.2.trans hw.2.2⟩)
    exact Triple.bind hsave fun _ =>
      Triple.ret _ fun _ hw => ⟨hw.1, hw.2.1, kept, hw.2.2, .inr hp⟩
  · exact Triple.ret _ fun _ hw => hw
  · exact Triple.fault _ fun _ hw => hw

/-- A save at clock `c` never faults, and leaves in the queue's file the list it wrote or what
one read at `c` kept of it. -/
theorem triple_save_settles (data : List Value) :
    Triple (fun w => w.queue = q ∧ w.clock = c) (save data) (fun _ => Settled q c data) E :=
  triple_save_of_reread ((triple_writeQueue_at data).conseq (fun _ h => h)
      (fun _ _ hw => ⟨hw.1, hw.2.1, data, hw.2.2, .inl rfl⟩) fun _ h => h)
    (triple_reread_settled data) (fun _ _ hw => hw) (triple_autoSync_settled data)

end Settles

/-- A save writes again only after its note's read purged a task, so the chain of saves shortens
the list at every clock; at one clock it stops after one nested save, and every store operation
leaves a file holding nothing a read at that clock would purge. -/
theorem writeBack_stops_clean :
    (∀ (c : Time.Civil) (data kept : List Value), purge c (.arr data) = .ok (kept, true) →
      kept.length < data.length ∧ ReadsClean c kept) ∧
    (∀ (w : Workspace) (data : List Value),
      ∃ w', (save data).run.run w = (.ok (), w') ∧ Settled w.queue w.clock data w') ∧
    (∀ V : Queue × Time.Civil × Option String, V.1 = .execution →
      Triple (fun w => storeView w = V) load
        (fun data w => ReadsClean V.2.1 data ∧
          ((storeView w = V ∧
              ∀ doc, readJson? V.2.2 = some doc → purge V.2.1 (tasksOf doc) = .ok (data, false)) ∨
            ∃ doc xs, readJson? V.2.2 = some doc ∧ tasksOf doc = .arr xs ∧
              data.length < xs.length ∧
              storeView w = (V.1, V.2.1, some (Value.write .file (.arr data)))))
        (fun w => storeView w = V)) ∧
    (∀ (call : StoreCall) (c c' : Time.Civil) (data d : List Value), ReadsClean c data →
      call.rewrite (stampAt c') data = .ok (some d) → ReadsClean c d) ∧
    (∀ (c : Time.Civil) (data : List Value) (stamp : Time.Stamp) (s : String), ReadsClean c data →
      ReadsClean c (data ++ [freshTask (newId stamp.civil s) s stamp.iso])) ∧
    (∀ c : Time.Civil,
      (∀ call : StoreCall, Triple (fun w => AtClock c (storeView w)) call.act
        (fun _ w => HoldsClean c w.files.tasks) (fun _ => True)) ∧
      (∀ description : Value, Triple (fun w => AtClock c (storeView w)) (newTask description)
        (fun _ w => HoldsClean c w.files.tasks) (fun _ => True)) ∧
      Triple (fun w => AtClock c (storeView w)) listOpen (fun _ w => HoldsClean c w.files.tasks)
        (fun _ => True)) :=
  ⟨fun _ _ _ hp => ⟨length_lt_of_purge_changed hp, readsClean_of_purge hp⟩,
    fun _ data => Triple.run_unit ((triple_save_settles data).conseq (fun _ h => ⟨h ▸ rfl, h ▸ rfl⟩)
      (fun _ _ h => h) fun _ h => h),
    fun _ hq => triple_load_view hq, fun call _ _ _ _ h hr => rewrite_readsClean call h hr,
    fun _ _ stamp s h => newTask_readsClean h stamp s,
    fun _ => ⟨triple_call_clean, triple_newTask_clean, triple_listOpen_clean⟩⟩

/-- An old task in progress, marked completed: the store stamps it, so a read at that clock
keeps it although it was created two weeks before. The same task completed two weeks before is
stale: its read removes it, and the nested save writes the empty list, which reads clean. -/
theorem writeBack_stops_clean_completed_task :
    let c : Time.Civil := { year := 2025, month := 1, day := 15, hour := 12 }
    let t := freshTask "t1" "write docs" "2025-01-01T08:00:00"
    ReadsClean c [t] ∧
      (StoreCall.setStatus (.str "t1") (.str "completed")).rewrite (stampAt c) [t] =
        .ok (some [(t.set "status" (.str "completed")).set "updated" (stampAt c)]) ∧
      ReadsClean c [(t.set "status" (.str "completed")).set "updated" (stampAt c)] ∧
      purge c (.arr [t.set "status" (.str "completed")]) = .ok ([], true) ∧
      ([] : List Value).length < [t.set "status" (.str "completed")].length ∧ ReadsClean c [] ∧
      ReadsClean c ([] ++ [freshTask (newId (Time.manila c).civil "write docs") "write docs"
        (Time.manila c).iso]) := by
  intro c t
  have hclean : ReadsClean c [t] := rfl
  have hset : (StoreCall.setStatus (.str "t1") (.str "completed")).rewrite (stampAt c) [t] =
      .ok (some [(t.set "status" (.str "completed")).set "updated" (stampAt c)]) := rfl
  -- the completed task's stamp is read from its text, which the kernel evaluates
  have hs : isStale c (t.set "status" (.str "completed")) = true := by decide +kernel
  have hobj : (t.set "status" (.str "completed")).isObj = true := rfl
  have hstale : purge c (.arr [t.set "status" (.str "completed")]) = .ok ([], true) := by
    simp only [purge, List.find?_cons, hobj, Bool.not_true, List.find?_nil, List.filter_cons, hs,
      List.filter_nil]
    rfl
  have hnested := writeBack_stops_clean.1 c _ _ hstale
  exact ⟨hclean, hset, writeBack_stops_clean.2.2.2.1 _ c c _ _ hclean hset, hstale, hnested.1,
    hnested.2, writeBack_stops_clean.2.2.2.2.1 c [] _ _ hnested.2⟩

end Taskflow.Queue
