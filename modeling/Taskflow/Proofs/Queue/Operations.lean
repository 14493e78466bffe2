import Taskflow.Proofs.Queue.Load
import Taskflow.Proofs.Json.Plain
import Taskflow.Proofs.Queue.Retention
/-!
The store's operations, each as what it does to the task list it read.
-/

namespace Taskflow.Queue

open Json Workspace

/-- What an operation does with the task list it read: the list it leaves, and the fault it
stops with, if any. -/
structure Outcome where
  tasks : List Value
  fault : Option Fault := none

theorem freshTask_plain (id d stamp : String) : (freshTask id d stamp).Plain :=
  .obj (by show List.Nodup ["id", "description", "todos", "status", "created", "updated"]; decide)
    fun kv hkv => by
    simp only [List.mem_cons, List.mem_nil_iff, or_false] at hkv
    rcases hkv with rfl | rfl | rfl | rfl | rfl | rfl
    · exact .str _
    · exact .str _
    · exact .arr fun _ h => nomatch h
    · exact .str _
    · exact .str _
    · exact .str _

theorem isObj_set (v : Value) (k : String) (x : Value) : (v.set k x).isObj = v.isObj := by
  cases v <;> rfl

theorem get?_set_ne {v x : Value} {k k' : String} (h : k ≠ k') : (v.set k x).get? k' = v.get? k' := by
  cases v with
  | obj kvs =>
    simp only [Value.set, Value.get?, Value.setMember]
    split
    · -- a member replaced in place answers to its own key only
      have hpf : ((·.1 == k') ∘ fun e : String × Value => if e.1 == k then (k, x) else e) =
          (·.1 == k') := by
        funext e
        by_cases he : e.1 = k <;> simp [he]
      rw [List.find?_map, hpf]
      cases hf : kvs.find? (·.1 == k') with
      | none => rfl
      | some e =>
        have he : e.1 = k' := by simpa using List.find?_some hf
        simp [he, Ne.symm h]
    · rw [List.find?_append]
      simp [h]
  | _ => rfl

theorem get?_set_self {v : Value} (hv : v.isObj = true) (k : String) (x : Value) :
    (v.set k x).get? k = some x := by
  cases v with
  | obj kvs =>
    simp only [Value.set, Value.get?, Value.setMember]
    split
    · next hany =>
      -- the member is replaced where it stands
      obtain ⟨e, he, hek⟩ := List.any_eq_true.1 hany
      have hfind : (kvs.map fun e : String × Value => if e.1 == k then (k, x) else e).find?
          (·.1 == k) = some (k, x) := by
        rw [List.find?_map]
        cases hf : kvs.find? ((·.1 == k) ∘ fun e : String × Value => if e.1 == k then (k, x) else e) with
        | none =>
          have hno := List.find?_eq_none.1 hf e he
          simp_all
        | some e' =>
          have hk := List.find?_some hf
          by_cases he' : e'.1 = k <;> simp_all
      rw [hfind]
      rfl
    · next hany =>
      rw [List.find?_append, List.find?_eq_none.2 fun e he hek =>
        hany (List.any_eq_true.2 ⟨e, he, hek⟩)]
      simp
  | _ => cases hv

theorem getD_set_ne {v x : Value} {k k' : String} (h : k ≠ k') (d : Value) :
    (v.set k x).getD k' d = v.getD k' d := by
  unfold Value.getD
  rw [get?_set_ne h]

theorem getD_set_self {v x : Value} {k : String} (hv : v.isObj = true) (d : Value) :
    (v.set k x).getD k d = x := by
  simp only [Value.getD, get?_set_self hv, Option.getD_some]

def stampAt (c : Time.Civil) : Value := .str (Time.manila c).iso

/-! ## Stamped tasks stay -/

section Stamped

variable {c c' : Time.Civil} {t t' : Value}

theorem isStale_stampAt (h : touchText t = stampAt c') : isStale c t = false :=
  isStale_of_offset c rfl h

theorem touchText_set_updated (hobj : t.isObj = true) (stamp : Value) :
    touchText (t.set "updated" stamp) = stamp := by
  rw [touchText, getD_set_self hobj]

theorem touchText_set_status (y status : Value) : touchText (y.set "status" status) = touchText y := by
  rw [touchText, touchText, getD_set_ne (by decide), getD_set_ne (by decide)]

theorem stamped_clean {x : Value} (hx : x.isObj = true) :
    (x.set "updated" (stampAt c')).isObj = true ∧ isStale c (x.set "updated" (stampAt c')) = false :=
  ⟨by rw [isObj_set, hx], isStale_stampAt (touchText_set_updated hx _)⟩

/-- A task stamped and then given a status is an object that no read removes. -/
theorem stamped_status_clean {x : Value} (hx : x.isObj = true) (status : Value) :
    ((x.set "updated" (stampAt c')).set "status" status).isObj = true ∧
      isStale c ((x.set "updated" (stampAt c')).set "status" status) = false :=
  ⟨by rw [isObj_set, isObj_set, hx],
    isStale_stampAt (by rw [touchText_set_status, touchText_set_updated hx])⟩

end Stamped

section CleanLists

variable {c : Time.Civil} {L : List Value}

theorem ReadsClean.isObj_getD (h : ReadsClean c L) {i : Nat} (hi : i < L.length) :
    (L.getD i .null).isObj = true := by
  rw [← List.getElem_eq_getD (h := hi)]
  exact (readsClean_iff.1 h _ (List.getElem_mem hi)).1

/-- Stamping a task of a clean list, after an edit that keeps it an object, keeps the list
clean. -/
theorem ReadsClean.set_stamped (h : ReadsClean c L) {i : Nat} (hi : i < L.length)
    {f : Value → Value} (hf : ∀ t, t.isObj = true → (f t).isObj = true) (c' : Time.Civil) :
    ReadsClean c (L.set i ((f (L.getD i .null)).set "updated" (stampAt c'))) :=
  have hobj := hf _ (h.isObj_getD hi)
  h.set (stamped_clean (c := c) hobj).1 (stamped_clean hobj).2 i

theorem newTask_readsClean (h : ReadsClean c L) (stamp : Time.Stamp) (s : String) :
    ReadsClean c (L ++ [freshTask (newId stamp.civil s) s stamp.iso]) :=
  h.append (readsClean_iff.2 fun t ht => by
    rw [List.mem_singleton.1 ht]
    exact ⟨rfl, by simp [isStale, freshTask, Value.getD, Value.get?, Value.same]⟩)

end CleanLists


theorem Tidy.append {L L' : List Value} (h : Tidy L) (h' : Tidy L') : Tidy (L ++ L') :=
  fun t ht => (List.mem_append.1 ht).elim (h t) (h' t)

theorem Tidy.set {L : List Value} (h : Tidy L) {t : Value} (ht : t.Plain ∧ t.isObj = true)
    (i : Nat) : Tidy (L.set i t) :=
  fun u hu => (List.mem_or_eq_of_mem_set hu).elim (h u) fun e => e ▸ ht

theorem Tidy.getD {L : List Value} (h : Tidy L) {i : Nat} (hi : i < L.length) :
    (L.getD i .null).Plain ∧ (L.getD i .null).isObj = true := by
  rw [← List.getElem_eq_getD (h := hi)]
  exact h _ (List.getElem_mem hi)

theorem findTask_lt {data : List Value} {id : Value} {i : Nat}
    (h : findTask data id = .ok (some i)) : i < data.length := by
  suffices ∀ (xs : List Value) (k : Nat), findTask.go id xs k = .ok (some i) → i < k + xs.length by
    simpa using this data 0 h
  intro xs
  induction xs with
  | nil => intro k h; simp [findTask.go] at h
  | cons x xs ih =>
    intro k h
    simp only [findTask.go, bind, Except.bind] at h
    split at h
    · cases h
    · split at h
      · cases h; simp
      · have := ih (k + 1) h
        simp only [List.length_cons]
        omega

/-- The search passes over tasks whose id is another. -/
theorem findTask_go_skip {id : Value} (rest : List Value) :
    ∀ (pre : List Value) (k : Nat), (∀ u ∈ pre, ∃ v, u.item "id" = .ok v ∧ v.same id = false) →
      findTask.go id (pre ++ rest) k = findTask.go id rest (k + pre.length)
  | [], k, _ => rfl
  | u :: pre, k, h => by
    obtain ⟨v, hv, hs⟩ := h u List.mem_cons_self
    simp only [List.cons_append, findTask.go, hv, hs, bind, Except.bind, Bool.false_eq_true,
      ↓reduceIte, List.length_cons]
    rw [findTask_go_skip rest pre (k + 1) fun u hu => h u (List.mem_cons_of_mem _ hu)]
    congr 1
    omega

/-- A task found after tasks with other ids is found at its position. -/
theorem findTask_after {id : Value} {pre rest : List Value} {t v : Value}
    (hpre : ∀ u ∈ pre, ∃ v, u.item "id" = .ok v ∧ v.same id = false)
    (ht : t.item "id" = .ok v) (hs : v.same id = true) :
    findTask (pre ++ t :: rest) id = .ok (some pre.length) := by
  simp only [findTask, findTask_go_skip (t :: rest) pre 0 hpre, findTask.go, ht, hs, bind,
    Except.bind, ↓reduceIte, Nat.zero_add, pure, Except.pure]

section Loaded

variable {q : Queue} {c : Time.Civil} {L : List Value} {α : Type}

/-- The list after an operation whose read gave `data`: on the execution queue that is the
fresh list. -/
theorem written_of_read {data : List Value} (h : q = .execution → data = fresh c L)
    (f : List Value → List Value) : written q (f data) L = written q (f (fresh c L)) L := by
  cases q with
  | execution => rw [h rfl]
  | analysis => rfl

/-- An operation that reads the list and works on what it read: its spec follows from one
about the work, for every list the read can give. `R` is what it returns. -/
theorem triple_loaded {body : List Value → WorkspaceM α} (out : List Value → Outcome)
    (R : α → Prop) (hL : Tidy L)
    (hbody : ∀ data, (q = .execution → Tidy data) → ReadsClean c data →
      Triple (StoreAt q c (written q data L)) (body data)
        (fun a w => (out data).fault = none ∧ R a ∧ StoreAt q c (written q (out data).tasks L) w)
        (fun w => (out data).fault.isSome ∧ StoreAt q c (written q (out data).tasks L) w)) :
    Triple (StoreAt q c L) (load >>= body)
      (fun a w => (q = .execution → (out (fresh c L)).fault = none) ∧ R a ∧
        StoreAt q c (written q (out (fresh c L)).tasks L) w)
      (fun w => (q = .execution → (out (fresh c L)).fault.isSome) ∧
        StoreAt q c (written q (out (fresh c L)).tasks L) w) := by
  refine Triple.bind (Triple.conseq (triple_load hL) (fun _ h => h) (fun _ _ h => h) ?_)
    fun data => ?_
  · rintro w ⟨rfl, hw⟩
    exact ⟨(fun h => nomatch h), hw⟩
  refine Triple.pure_pre fun ⟨hread, hclean⟩ => ?_
  refine Triple.conseq (hbody data (fun hq => hread hq ▸ hL.fresh) hclean) (fun _ h => h) ?_ ?_
  · rintro a w ⟨hf, hr, hw⟩
    refine ⟨fun hq => hread hq ▸ hf, hr, ?_⟩
    rwa [← written_of_read hread fun d => (out d).tasks]
  · rintro w ⟨hf, hw⟩
    refine ⟨fun hq => hread hq ▸ hf, ?_⟩
    rwa [← written_of_read hread fun d => (out d).tasks]

/-- An operation that reads the list and leaves `out` of what it read, whether it returns or
faults: its spec follows from one about the work, for every list the read can give. -/
theorem triple_loaded_store {body : List Value → WorkspaceM α} (out : List Value → List Value)
    (hL : Tidy L)
    (hbody : ∀ data, (q = .execution → Tidy data) → ReadsClean c data →
      Triple (StoreAt q c (written q data L)) (body data)
        (fun _ => StoreAt q c (written q (out data) L)) (StoreAt q c (written q (out data) L))) :
    Triple (StoreAt q c L) (load >>= body)
      (fun _ => StoreAt q c (written q (out (fresh c L)) L))
      (StoreAt q c (written q (out (fresh c L)) L)) := by
  refine Triple.bind (Triple.conseq (triple_load hL) (fun _ h => h) (fun _ _ h => h) ?_)
    fun data => ?_
  · rintro w ⟨rfl, hw⟩
    exact hw
  refine Triple.pure_pre fun ⟨hread, hclean⟩ => ?_
  rw [← written_of_read hread out]
  exact hbody data (fun hq => hread hq ▸ hL.fresh) hclean

end Loaded

/-! ## Creating a task -/

/-- A new task goes at the end of the list, with the id and the stamp of the clock; a
description that is not a text is a fault. -/
def newTaskOutcome (c : Time.Civil) (description : Value) (data : List Value) : Outcome :=
  match description with
  | .str s => ⟨data ++ [freshTask (newId (Time.manila c).civil s) s (Time.manila c).iso], none⟩
  | v => ⟨data, some (.noMethod v.kindName "replace")⟩

theorem newTaskOutcome_tidy {data : List Value} (h : Tidy data) (c : Time.Civil)
    (description : Value) : Tidy (newTaskOutcome c description data).tasks := by
  unfold newTaskOutcome
  split
  · refine h.append fun t ht => ?_
    rw [List.mem_singleton.1 ht]
    exact ⟨freshTask_plain _ _ _, rfl⟩
  · exact h

section NewTask

variable {q : Queue} {c : Time.Civil} {L : List Value}

theorem triple_newTask (hL : Tidy L) (description : Value) :
    Triple (StoreAt q c L) (newTask description)
      (fun r w => (q = .execution → (newTaskOutcome c description (fresh c L)).fault = none) ∧
        (∀ s, description = .str s → r = .str (newId (Time.manila c).civil s)) ∧
        StoreAt q c (written q (newTaskOutcome c description (fresh c L)).tasks L) w)
      (fun w => (q = .execution → (newTaskOutcome c description (fresh c L)).fault.isSome) ∧
        StoreAt q c (written q (newTaskOutcome c description (fresh c L)).tasks L) w) := by
  unfold newTask
  refine triple_loaded (newTaskOutcome c description) _ hL fun data hdata hclean => ?_
  refine Triple.bind triple_manilaNow fun stamp => Triple.pure_pre fun hstamp => ?_
  subst hstamp
  extract_lets make
  cases description
  case str s =>
    simp only [pure_bind, make]
    refine Triple.bind (triple_save (fun hq => newTaskOutcome_tidy (hdata hq) c (.str s))
      (newTask_readsClean hclean _ s)) fun _ => ?_
    refine Triple.bind (triple_say _) fun _ => Triple.bind (triple_say _) fun _ => ?_
    exact Triple.ret _ fun w hw => ⟨rfl, fun s' hs => by cases hs; rfl,
      by simpa only [newTaskOutcome, written_written] using hw⟩
  all_goals
    simp only [ExceptT.bind_throw]
    exact Triple.fault _ fun w hw => ⟨rfl, hw⟩

end NewTask

/-! ## Adding a todo -/

def todoOf (text : Value) : Value := .obj [("text", text), ("done", .bool false)]

/-- The first task with the id gets the todo at the end of its todos and the clock's stamp; a
list without the task is left alone. -/
def addTodoOutcome (c : Time.Civil) (id text : Value) (data : List Value) : Outcome :=
  match findTask data id with
  | .error e => ⟨data, some e⟩
  | .ok none => ⟨data, none⟩
  | .ok (some i) =>
    let t := data.getD i .null
    match t.item "todos" with
    | .error e => ⟨data, some e⟩
    | .ok v => match v.push (todoOf text) with
      | .error e => ⟨data, some e⟩
      | .ok todos => ⟨data.set i ((t.set "todos" todos).set "updated" (.str (Time.manila c).iso)),
          none⟩

theorem todoOf_plain {text : Value} (htext : text.Plain) : (todoOf text).Plain :=
  .obj (by show List.Nodup ["text", "done"]; decide) fun kv hkv => by
    simp only [List.mem_cons, List.mem_nil_iff, or_false] at hkv
    rcases hkv with rfl | rfl
    · exact htext
    · exact .bool false

theorem addTodoOutcome_tidy {data : List Value} (h : Tidy data) (c : Time.Civil) (id : Value)
    {text : Value} (htext : text.Plain) : Tidy (addTodoOutcome c id text data).tasks := by
  unfold addTodoOutcome
  split
  · exact h
  · exact h
  · next i hr =>
    have ht := h.getD (findTask_lt hr)
    dsimp only
    split
    · exact h
    · next v hv =>
      split
      · exact h
      · next todos htodos =>
        have hp : todos.Plain := (ht.1.item hv).push (todoOf_plain htext) htodos
        exact h.set ⟨(ht.1.set hp _).set (.str _) _, by simp only [isObj_set, ht.2]⟩ i

section AddTodo

variable {q : Queue} {c : Time.Civil} {L : List Value}

theorem triple_addTodo (hL : Tidy L) (id : Value) {text : Value} (htext : text.Plain) :
    Triple (StoreAt q c L) (addTodo id text)
      (fun _ w => (q = .execution → (addTodoOutcome c id text (fresh c L)).fault = none) ∧ True ∧
        StoreAt q c (written q (addTodoOutcome c id text (fresh c L)).tasks L) w)
      (fun w => (q = .execution → (addTodoOutcome c id text (fresh c L)).fault.isSome) ∧
        StoreAt q c (written q (addTodoOutcome c id text (fresh c L)).tasks L) w) := by
  unfold addTodo
  refine triple_loaded (addTodoOutcome c id text) _ hL fun data hdata hclean => ?_
  refine Triple.lift_bind (fun e he w hw => ⟨by simp only [addTodoOutcome, he, Option.isSome_some], by
    simpa only [addTodoOutcome, he] using hw⟩) fun r hr => ?_
  rcases r with _ | i
  · exact Triple.conseq (triple_say _) (fun _ h => h)
      (fun _ w hw => ⟨by simp only [addTodoOutcome, hr], trivial, by simpa only [addTodoOutcome, hr] using hw⟩)
      (fun _ h => h)
  refine Triple.lift_bind (fun e he w hw => ⟨by simp only [addTodoOutcome, hr, he, Option.isSome_some], by
    simpa only [addTodoOutcome, hr, he] using hw⟩) fun v hv => ?_
  refine Triple.lift_bind (fun e he w hw => ⟨by simp only [addTodoOutcome, todoOf, hr, hv, he, Option.isSome_some], by
    simpa only [addTodoOutcome, todoOf, hr, hv, he] using hw⟩) fun todos htodos => ?_
  refine Triple.bind triple_stampNow fun stamp => Triple.pure_pre fun hstamp => ?_
  subst hstamp
  -- on the execution queue the edited task is plain, so the list reads back as written
  have htidy : q = .execution → Tidy (data.set i (((data.getD i .null).set "todos" todos).set
      "updated" (.str (Time.manila c).iso))) := fun hq => by
    simpa only [addTodoOutcome, todoOf, hr, hv, htodos] using addTodoOutcome_tidy (hdata hq) c id htext
  have hstamped := hclean.set_stamped (findTask_lt hr) (fun t ht => (isObj_set t "todos" todos).trans ht) c
  refine Triple.bind (triple_save htidy hstamped) fun _ => ?_
  exact Triple.conseq (triple_say _) (fun _ h => h)
    (fun _ w hw => ⟨by simp only [addTodoOutcome, todoOf, hr, hv, htodos], trivial,
      by simpa only [addTodoOutcome, todoOf, hr, hv, htodos, written_written] using hw⟩) (fun _ h => h)

end AddTodo

/-! ## Setting a status -/

/-- The first task with the id gets the status and the clock's stamp; a list without the task
is left alone. -/
def setStatusOutcome (c : Time.Civil) (id status : Value) (data : List Value) : Outcome :=
  match findTask data id with
  | .error e => ⟨data, some e⟩
  | .ok none => ⟨data, none⟩
  | .ok (some i) =>
    ⟨data.set i (((data.getD i .null).set "status" status).set "updated" (.str (Time.manila c).iso)),
      none⟩

theorem setStatusOutcome_tidy {data : List Value} (h : Tidy data) (c : Time.Civil) (id : Value)
    {status : Value} (hs : status.Plain) : Tidy (setStatusOutcome c id status data).tasks := by
  unfold setStatusOutcome
  split
  · exact h
  · exact h
  · next i hr =>
    have ht := h.getD (findTask_lt hr)
    exact h.set ⟨(ht.1.set hs _).set (.str _) _, by simp only [isObj_set, ht.2]⟩ i

section SetStatus

variable {q : Queue} {c : Time.Civil} {L : List Value}

theorem triple_setStatus (hL : Tidy L) (id : Value) {status : Value} (hs : status.Plain) :
    Triple (StoreAt q c L) (setStatus id status)
      (fun _ w => (q = .execution → (setStatusOutcome c id status (fresh c L)).fault = none) ∧
        True ∧ StoreAt q c (written q (setStatusOutcome c id status (fresh c L)).tasks L) w)
      (fun w => (q = .execution → (setStatusOutcome c id status (fresh c L)).fault.isSome) ∧
        StoreAt q c (written q (setStatusOutcome c id status (fresh c L)).tasks L) w) := by
  unfold setStatus
  refine triple_loaded (setStatusOutcome c id status) _ hL fun data hdata hclean => ?_
  refine Triple.lift_bind (fun e he w hw => ⟨by simp only [setStatusOutcome, he, Option.isSome_some], by
    simpa only [setStatusOutcome, he] using hw⟩) fun r hr => ?_
  rcases r with _ | i
  · exact Triple.conseq (triple_say _) (fun _ h => h)
      (fun _ w hw => ⟨by simp only [setStatusOutcome, hr], trivial,
        by simpa only [setStatusOutcome, hr] using hw⟩) (fun _ h => h)
  refine Triple.bind triple_stampNow fun stamp => Triple.pure_pre fun hstamp => ?_
  subst hstamp
  have htidy : q = .execution → Tidy (data.set i (((data.getD i .null).set "status" status).set
      "updated" (.str (Time.manila c).iso))) := fun hq => by
    simpa only [setStatusOutcome, hr] using setStatusOutcome_tidy (hdata hq) c id hs
  have hstamped := hclean.set_stamped (findTask_lt hr) (fun t ht => (isObj_set t "status" status).trans ht) c
  refine Triple.bind (triple_save htidy hstamped) fun _ => ?_
  exact Triple.conseq (triple_say _) (fun _ h => h)
    (fun _ w hw => ⟨by simp only [setStatusOutcome, hr], trivial,
      by simpa only [setStatusOutcome, hr, written_written] using hw⟩) (fun _ h => h)

end SetStatus

/-! ## On the execution queue, when the operation succeeds -/

section Execution

variable {c : Time.Civil} {L : List Value}

theorem triple_listOpen_ok (hL : Tidy L) :
    Triple (StoreAt .execution c L) listOpen
      (fun r w => StoreAt .execution c (fresh c L) w ∧ r = openOf (fresh c L)) (fun _ => False) := by
  refine Triple.bind ((triple_load hL).conseq (fun _ h => h) (fun _ _ h => h)
    (fun _ h => nomatch h.1)) fun data => ?_
  exact Triple.ret _ fun w ⟨hw, hd, _⟩ => ⟨by rwa [← hd rfl], by rw [hd rfl]⟩

theorem triple_newTask_ok (hL : Tidy L) (s : String) :
    Triple (StoreAt .execution c L) (newTask (.str s))
      (fun r w => StoreAt .execution c
        (fresh c L ++ [freshTask (newId (Time.manila c).civil s) s (Time.manila c).iso]) w ∧
        r = .str (newId (Time.manila c).civil s))
      (fun _ => False) :=
  (triple_newTask hL (.str s)).conseq (fun _ h => h) (fun _ _ ⟨_, hr, hw⟩ => ⟨hw, hr s rfl⟩)
    (fun _ ⟨hf, _⟩ => by simp [newTaskOutcome] at hf)

theorem triple_addTodo_ok (hL : Tidy L) (id : Value) {text : Value} (htext : text.Plain)
    (hok : (addTodoOutcome c id text (fresh c L)).fault = none) :
    Triple (StoreAt .execution c L) (addTodo id text)
      (fun _ => StoreAt .execution c (addTodoOutcome c id text (fresh c L)).tasks) (fun _ => False) :=
  (triple_addTodo hL id htext).conseq (fun _ h => h) (fun _ _ ⟨_, _, hw⟩ => hw)
    (fun _ ⟨hf, _⟩ => by simp [hok] at hf)

theorem triple_setStatus_ok (hL : Tidy L) (id : Value) {status : Value} (hs : status.Plain)
    (hok : (setStatusOutcome c id status (fresh c L)).fault = none) :
    Triple (StoreAt .execution c L) (setStatus id status)
      (fun _ => StoreAt .execution c (setStatusOutcome c id status (fresh c L)).tasks)
      (fun _ => False) :=
  (triple_setStatus hL id hs).conseq (fun _ h => h) (fun _ _ ⟨_, _, hw⟩ => hw)
    (fun _ ⟨hf, _⟩ => by simp [hok] at hf)

end Execution

end Taskflow.Queue
