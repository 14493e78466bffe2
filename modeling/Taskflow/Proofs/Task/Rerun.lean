import Taskflow.Task.Execute
import Taskflow.Proofs.Queue.Operations
import Taskflow.Proofs.Json.SortPerm
import Taskflow.Proofs.Task.Chunking
import Mathlib
/-!
Running the same task twice.
-/

namespace Taskflow.Task

open Json Workspace Queue

/-- A task of the store in progress, with its todos, created and last updated at `stamp`. -/
def taskRecord (id d : String) (todos : List Value) (stamp : String) : Value :=
  .obj [("id", .str id), ("description", .str d), ("todos", .arr todos),
    ("status", .str "in_progress"), ("created", .str stamp), ("updated", .str stamp)]

/-- The groups of the subtasks the chunker makes of a description. -/
def groupsOf (d : String) : List (String × List Subtask) := groupSubtasks (chunk d none).subtasks d

def groupText (g : String × List Subtask) : String := groupTodoText g.1 (g.2.map (·.description))

/-- The todo texts a run adds to a task whose todo texts are `present`: those of the groups
whose heading is not among them, in order. -/
def addedTexts (d : String) (present : List Value) : List String :=
  ((groupsOf d).filter fun g => !Value.among (.str g.1) present).map groupText

def todosOf (texts : List String) : List Value := texts.map fun s => todoOf (.str s)

theorem addedTexts_nil (d : String) : addedTexts d [] = (groupsOf d).map groupText := by
  rw [addedTexts, List.filter_eq_self.2 fun g _ => by simp [Value.among]]

section Record

variable {c : Time.Civil} {pre : List Value} {X d : String} {T : List Value}

theorem set_todos_freshTask (X d : String) (T : List Value) (stamp : String) :
    (freshTask X d stamp).set "todos" (.arr T) = taskRecord X d T stamp := by
  simp [freshTask, taskRecord, Value.set, Value.setMember]

theorem taskRecord_plain (X d : String) {T : List Value} (hT : ∀ t ∈ T, t.Plain) (stamp : String) :
    (taskRecord X d T stamp).Plain := by
  rw [← set_todos_freshTask]
  exact (freshTask_plain X d stamp).set (.arr hT) "todos"

theorem todosOf_plain (texts : List String) : ∀ t ∈ todosOf texts, t.Plain := by
  intro t ht
  obtain ⟨s, -, rfl⟩ := List.mem_map.1 ht
  exact todoOf_plain (.str s)

theorem taskRecord_tidy (X d : String) (texts : List String) (stamp : String) :
    Tidy [taskRecord X d (todosOf texts) stamp] := by
  intro t ht
  rw [List.mem_singleton.1 ht]
  exact ⟨taskRecord_plain X d (todosOf_plain texts) stamp, rfl⟩

theorem taskRecord_not_stale (now : Time.Civil) (X d : String) (T : List Value) (stamp : String) :
    isStale now (taskRecord X d T stamp) = false := by
  simp [isStale, taskRecord, Value.getD, Value.get?, Value.same]

theorem taskRecord_open (X d : String) (T : List Value) (stamp : String) :
    ((taskRecord X d T stamp).getD "status" .null).same (.str "completed") = false := by
  simp [taskRecord, Value.getD, Value.get?, Value.same]

theorem fresh_record (hpre : fresh c pre = pre) (stamp : String) :
    fresh c (pre ++ [taskRecord X d T stamp]) = pre ++ [taskRecord X d T stamp] := by
  unfold fresh at hpre ⊢
  rw [List.filter_append, hpre]
  simp [taskRecord_not_stale]

/-- The ids of the tasks before the record differ from the record's. -/
def OthersIds (X : String) (pre : List Value) : Prop :=
  ∀ u ∈ pre, ∃ v, u.item "id" = .ok v ∧ v.same (.str X) = false

theorem findTask_record (hpre : OthersIds X pre) (stamp : String) :
    findTask (pre ++ [taskRecord X d T stamp]) (.str X) = .ok (some pre.length) :=
  findTask_after hpre rfl (by simp [Value.same])

/-- Adding a todo to the record at the end of the list. -/
theorem addTodoOutcome_record (hfresh : fresh c pre = pre) (hpre : OthersIds X pre) (s : String) :
    addTodoOutcome c (.str X) (.str s)
        (fresh c (pre ++ [taskRecord X d T (Time.manila c).iso])) =
      ⟨pre ++ [taskRecord X d (T ++ [todoOf (.str s)]) (Time.manila c).iso], none⟩ := by
  rw [fresh_record hfresh, addTodoOutcome, findTask_record hpre]
  simp [taskRecord, todoOf, Value.item, Value.push, Value.set, Value.setMember]

/-- Setting the record's status to in progress changes nothing. -/
theorem setStatusOutcome_record (hfresh : fresh c pre = pre) (hpre : OthersIds X pre) :
    setStatusOutcome c (.str X) (.str "in_progress")
        (fresh c (pre ++ [taskRecord X d T (Time.manila c).iso])) =
      ⟨pre ++ [taskRecord X d T (Time.manila c).iso], none⟩ := by
  rw [fresh_record hfresh, setStatusOutcome, findTask_record hpre]
  simp [taskRecord, Value.set, Value.setMember]

end Record

/-! ## Finding the task -/

/-- The task the find-or-create loop settles on: the first with the description; a task without
a description met before it is a fault. -/
def firstDescribed (d : String) : List Value → Except Fault (Option Value)
  | [] => .ok none
  | t :: ts => match t.item "description" with
    | .error e => .error e
    | .ok v => if v.same (.str d) then .ok (some t) else firstDescribed d ts

theorem firstDescribed_append (d : String) (pre rest : List Value) :
    firstDescribed d (pre ++ rest) = match firstDescribed d pre with
      | .ok none => firstDescribed d rest
      | r => r := by
  induction pre with
  | nil => rfl
  | cons t ts ih =>
    simp only [List.cons_append, firstDescribed]
    split
    · rfl
    · split
      · rfl
      · exact ih

/-- No task of the list is described `d`. -/
theorem firstDescribed_none {d : String} :
    ∀ {ts : List Value}, (∀ t ∈ ts, ∃ v, t.item "description" = .ok v ∧ v.same (.str d) = false) →
      firstDescribed d ts = .ok none
  | [], _ => rfl
  | t :: ts, h => by
    obtain ⟨v, hv, hs⟩ := h t List.mem_cons_self
    simp only [firstDescribed, hv, hs, Bool.false_eq_true, ↓reduceIte]
    exact firstDescribed_none fun u hu => h u (List.mem_cons_of_mem t hu)

/-- The one task described `d` is found, wherever it stands. -/
theorem firstDescribed_only {d : String} {x : Value} (hx : x.item "description" = .ok (.str d)) :
    ∀ {ts : List Value}, x ∈ ts →
      (∀ t ∈ ts, t ≠ x → ∃ v, t.item "description" = .ok v ∧ v.same (.str d) = false) →
      firstDescribed d ts = .ok (some x)
  | [], hm, _ => nomatch hm
  | t :: ts, hm, h => by
    by_cases htx : t = x
    · subst htx
      simp [firstDescribed, hx, Value.same]
    · obtain ⟨v, hv, hs⟩ := h t List.mem_cons_self htx
      simp only [firstDescribed, hv, hs, Bool.false_eq_true, ↓reduceIte]
      exact firstDescribed_only hx ((List.mem_cons.1 hm).resolve_left (Ne.symm htx))
        fun u hu => h u (List.mem_cons_of_mem t hu)

theorem mem_openOf {t : Value} {data : List Value} :
    t ∈ openOf data ↔ t ∈ data ∧ (t.getD "status" .null).same (.str "completed") = false := by
  simp only [openOf]
  rw [(sortByKey_perm _ true _).mem_iff, List.mem_filter, Bool.not_eq_true']

section Find

variable {c : Time.Civil} {L : List Value} {d : String}

/-- Finding or creating the task described `d`: when the loop over the open tasks finds one,
its id and the task; otherwise a task created at the clock. -/
theorem triple_findOrCreate (hL : Tidy L) {found : Option Value}
    (hfound : firstDescribed d (openOf (fresh c L)) = .ok found) :
    Triple (StoreAt .execution c L) (findOrCreate d)
      (fun r w => match found with
        | some t => StoreAt .execution c (fresh c L) w ∧ t.item "id" = .ok r.1 ∧ r.2 = some t
        | none => StoreAt .execution c
            (fresh c L ++ [freshTask (newId (Time.manila c).civil d) d (Time.manila c).iso]) w ∧
            r = (.str (newId (Time.manila c).civil d), none))
      (fun _ => ∃ t, found = some t ∧ ∀ v, t.item "id" ≠ .ok v) := by
  unfold findOrCreate
  refine Triple.bind ((triple_listOpen_ok hL).conseq (fun _ h => h) (fun _ _ h => h)
    (fun _ h => h.elim)) fun tasks => Triple.pure_pre fun htasks => ?_
  subst htasks
  -- the loop keeps the store and has found what `firstDescribed` finds in the tasks so far
  refine Triple.bind ((Triple.forIn_prefix (fun pre r w => StoreAt .execution c (fresh c L) w ∧
    firstDescribed d pre = .ok r) ?_ none).conseq (fun _ hw => ⟨hw, rfl⟩) (fun _ _ h => h)
    (fun _ h => h)) fun r => Triple.pure_pre fun hr => ?_
  · intro pre x suf s hxs
    refine Triple.pure_pre fun hpre => ?_
    cases s with
    | some t =>
      refine Triple.ret _ fun w hw => ⟨hw, ?_⟩
      rw [firstDescribed_append, hpre]
    | none =>
      refine Triple.lift_bind (fun e he w hw => ?_) fun v hv => ?_
      · rw [hxs, firstDescribed_append, hpre] at hfound
        simp [firstDescribed, he] at hfound
      · split
        · next hs =>
          exact Triple.ret _ fun w hw => ⟨hw, by simp [firstDescribed_append, hpre, firstDescribed, hv, hs]⟩
        · next hs =>
          exact Triple.ret _ fun w hw => ⟨hw, by simp [firstDescribed_append, hpre, firstDescribed, hv, hs]⟩
  rw [hfound] at hr
  cases hr
  cases found with
  | none =>
    refine Triple.bind ((triple_newTask_ok hL.fresh d).conseq (fun _ h => h) (fun _ _ h => h)
      (fun _ h => h.elim)) fun v => Triple.pure_pre fun hv => ?_
    exact Triple.ret _ fun w hw => ⟨by rwa [fresh_fresh] at hw, by rw [hv]⟩
  | some t =>
    refine Triple.lift_bind (fun e he w _ => ⟨t, rfl, fun v hv => by rw [hv] at he; cases he⟩)
      fun v hv => ?_
    exact Triple.ret _ fun w hw => ⟨hw, hv, rfl⟩

end Find

/-! ## Adding the groups -/

/-- The todo texts of the task found, as the run reads them. -/
def presentOf : Option Value → Except Fault (List Value)
  | some t => do (← (← t.lookup "todos" (.arr [])).elems).mapM (·.item "text")
  | none => .ok []

theorem mapM_text_todosOf (texts : List String) :
    (todosOf texts).mapM (·.item "text") = .ok (texts.map .str) := by
  induction texts with
  | nil => rfl
  | cons s ss ih =>
    rw [todosOf] at ih
    rw [todosOf, List.map_cons, List.mapM_cons, ih]
    rfl

theorem presentOf_record (X d : String) (texts : List String) (stamp : String) :
    presentOf (some (taskRecord X d (todosOf texts) stamp)) = .ok (texts.map .str) := by
  simp only [presentOf, taskRecord, Value.lookup, Value.getD, Value.get?]
  simpa [Value.elems, bind, Except.bind] using mapM_text_todosOf texts

section Groups

variable {c : Time.Civil} {pre : List Value} {X d : String}

/-- A group's todo goes at the end of the task's todos. -/
theorem triple_addGroup (hfresh : fresh c pre = pre) (hpre : OthersIds X pre) (htidy : Tidy pre)
    (texts : List String) (present : List Value) (g : String × List Subtask) :
    Triple (StoreAt .execution c (pre ++ [taskRecord X d (todosOf texts) (Time.manila c).iso]))
      (addGroup (.str X) present g.1 g.2)
      (fun _ => StoreAt .execution c
        (pre ++ [taskRecord X d (todosOf (texts ++ [groupText g])) (Time.manila c).iso]))
      (fun _ => False) := by
  have hL := htidy.append (taskRecord_tidy X d texts (Time.manila c).iso)
  have hout : addTodoOutcome c (.str X) (.str (groupTodoText g.1 (g.2.map (·.description))))
      (fresh c (pre ++ [taskRecord X d (todosOf texts) (Time.manila c).iso])) =
      ⟨pre ++ [taskRecord X d (todosOf texts ++ [todoOf (.str (groupText g))]) (Time.manila c).iso],
        none⟩ :=
    addTodoOutcome_record hfresh hpre (groupText g)
  unfold addGroup
  refine Triple.bind (Triple.attempt_ok (triple_addTodo_ok hL (.str X) (.str _) (by rw [hout])))
    fun r => Triple.exists_pre fun a => Triple.pure_pre fun hr => ?_
  subst hr
  exact Triple.ret () fun w hw => by
    rw [hout] at hw
    simpa only [todosOf, List.map_append, List.map_cons, List.map_nil] using hw

/-- A run on the store where the find-or-create step settles on the task `X`, whose todo texts
it reads as `present`: the task gets the todo of every group whose heading is not among them, and
its status is set again. -/
theorem triple_executeTask {L : List Value} (hfresh : fresh c pre = pre) (hpre : OthersIds X pre)
    (htidy : Tidy pre) {texts : List String} {existing : Option Value} {present : List Value}
    (hfind : Triple (StoreAt .execution c L) (findOrCreate d)
      (fun r w => StoreAt .execution c (pre ++ [taskRecord X d (todosOf texts) (Time.manila c).iso]) w ∧
        r = (.str X, existing)) (fun _ => False))
    (hpresent : presentOf existing = .ok present) :
    Triple (StoreAt .execution c L) (executeTask d)
      (fun _ => StoreAt .execution c
        (pre ++ [taskRecord X d (todosOf (texts ++ addedTexts d present)) (Time.manila c).iso]))
      (fun _ => False) := by
  unfold executeTask
  extract_lets ck
  refine Triple.bind (Triple.attempt_ok hfind) fun r => Triple.exists_pre fun res =>
    Triple.pure_pre fun hr => Triple.pure_pre fun hres => ?_
  subst hr hres
  simp -zeta only [pure_bind]
  extract_lets body
  -- the groups loop: after the groups `gs`, the task has the todos of those of them not present
  have hbody : Triple (StoreAt .execution c (pre ++ [taskRecord X d (todosOf texts) (Time.manila c).iso]))
      (body present) (fun _ => StoreAt .execution c
        (pre ++ [taskRecord X d (todosOf (texts ++ addedTexts d present)) (Time.manila c).iso]))
      (fun _ => False) := by
    simp only [body]
    refine Triple.bind ((Triple.forIn_prefix (fun gs _ w => StoreAt .execution c (pre ++
      [taskRecord X d (todosOf (texts ++ ((gs.filter fun g => !Value.among (.str g.1) present).map
        groupText))) (Time.manila c).iso]) w) ?_ ()).conseq
      (fun _ hw => by simpa only [List.filter_nil, List.map_nil, List.append_nil] using hw)
      (fun _ _ h => h) (fun _ h => h)) fun _ => ?_
    · intro gs g suf _ _
      split
      · next hg =>
        refine Triple.bind (triple_addGroup hfresh hpre htidy _ present g) fun _ =>
          Triple.ret _ fun w hw => ?_
        simpa only [List.filter_append, List.filter_cons, List.filter_nil, hg, ↓reduceIte,
          List.map_append, List.map_cons, List.map_nil, List.append_assoc] using hw
      · next hg =>
        exact Triple.ret _ fun w hw => by
          simpa only [List.filter_append, List.filter_cons, List.filter_nil, hg, Bool.false_eq_true,
            ↓reduceIte, List.map_append, List.map_nil, List.append_nil] using hw
    · have hL := htidy.append (taskRecord_tidy X d (texts ++ addedTexts d present) (Time.manila c).iso)
      have hout := @setStatusOutcome_record c pre X d (todosOf (texts ++ addedTexts d present))
        hfresh hpre
      refine Triple.bind (Triple.attempt_ok (triple_setStatus_ok hL (.str X) (.str _) (by rw [hout])))
        fun r => Triple.exists_pre fun a => Triple.pure_pre fun hr => ?_
      subst hr
      rw [hout] at *
      -- either report is a returned value, so the choice between them is one return
      rw [← apply_ite (pure : Value → WorkspaceM Value)]
      exact Triple.ret _ fun _ hw => hw
  -- from here on the body is used through `hbody` only; without its text in scope the
  -- elaborator never unfolds it to compare goals
  clear_value body
  -- the todo texts of the task found are read first; for a new task there are none
  have hread : Triple (StoreAt .execution c (pre ++ [taskRecord X d (todosOf texts) (Time.manila c).iso]))
      (match existing with
        | some t => do
          let v ← lift (t.lookup "todos" (.arr []))
          let items ← lift v.elems
          body (← lift (items.mapM (·.item "text")))
        | none => body [])
      (fun _ => StoreAt .execution c
        (pre ++ [taskRecord X d (todosOf (texts ++ addedTexts d present)) (Time.manila c).iso]))
      (fun _ => False) := by
    cases existing with
    | none =>
      cases hpresent
      exact hbody
    | some t =>
      simp only [presentOf, bind, Except.bind] at hpresent
      refine Triple.lift_bind (fun e he => by simp [he] at hpresent) fun v hv => ?_
      refine Triple.lift_bind (fun e he => by simp [hv, he] at hpresent) fun items hitems => ?_
      refine Triple.lift_bind (fun e he => by simp [hv, hitems, he] at hpresent) fun p hp => ?_
      have hpp : p = present := by simpa [hv, hitems, hp] using hpresent
      subst hpp
      exact hbody
  refine Triple.bind (Triple.attempt_ok hread) fun r => Triple.exists_pre fun v =>
    Triple.pure_pre fun hr => ?_
  subst hr
  exact Triple.ret _ fun _ hw => hw

end Groups

/-! ## Two runs -/

theorem groupText_ne_heading {g : String × List Subtask} (h : g.2 ≠ []) : groupText g ≠ g.1 := by
  obtain ⟨heading, _ | ⟨s, ss⟩⟩ := g
  · exact absurd rfl h
  intro heq
  have hlen := congrArg String.length heq
  simp only [groupText, groupTodoText, Text.join, List.map_cons, List.zipIdx_cons,
    String.intercalate_cons_cons, String.length_append] at hlen
  have hnl : "\n".length = 1 := rfl
  omega

/-- A description whose subtasks form one group gets that group's todo again on a second pass
over the first pass's texts. -/
theorem addedTexts_rerun_single {d : String} {g : String × List Subtask} (hg : groupsOf d = [g])
    (hsub : g.2 ≠ []) :
    addedTexts d (((groupsOf d).map groupText).map .str) = [groupText g] := by
  have hnot : Value.among (.str g.1) [.str (groupText g)] = false := by
    simp only [Value.among, List.any_cons, List.any_nil, Value.same, Bool.or_false]
    exact beq_false_of_ne (groupText_ne_heading hsub).symm
  simp only [addedTexts, hg, List.map_cons, List.map_nil, List.filter_cons, hnot, Bool.not_false,
    ↓reduceIte, List.filter_nil]

section Twice

variable {c : Time.Civil} {L : List Value} {d : String}

/-- In a store with no open task described `d`, the find-or-create step creates the task. -/
theorem triple_findOrCreate_new (hL : Tidy L)
    (hopen : ∀ t ∈ L, (t.getD "status" .null).same (.str "completed") = false →
      ∃ v, t.item "description" = .ok v ∧ v.same (.str d) = false) :
    Triple (StoreAt .execution c L) (findOrCreate d)
      (fun r w => StoreAt .execution c (fresh c L ++
          [taskRecord (newId (Time.manila c).civil d) d (todosOf []) (Time.manila c).iso]) w ∧
        r = (.str (newId (Time.manila c).civil d), none))
      (fun _ => False) := by
  have hnone : firstDescribed d (openOf (fresh c L)) = .ok none :=
    firstDescribed_none fun t ht => by
      obtain ⟨hmem, hst⟩ := mem_openOf.1 ht
      exact hopen t (List.mem_filter.1 hmem).1 hst
  exact (triple_findOrCreate hL hnone).conseq (fun _ h => h) (fun _ _ h => h)
    (fun _ ⟨_, h, _⟩ => nomatch h)

/-- When the open task described `d` is the task `X` at the end of the store, after tasks
described otherwise, the find-or-create step settles on it and changes nothing. -/
theorem triple_findOrCreate_record {pre : List Value} {texts : List String} {X stamp : String}
    (hfresh : fresh c pre = pre) (htidy : Tidy pre)
    (hopen : ∀ t ∈ pre, (t.getD "status" .null).same (.str "completed") = false →
      ∃ v, t.item "description" = .ok v ∧ v.same (.str d) = false) :
    Triple (StoreAt .execution c (pre ++ [taskRecord X d (todosOf texts) stamp])) (findOrCreate d)
      (fun r w => StoreAt .execution c (pre ++ [taskRecord X d (todosOf texts) stamp]) w ∧
        r = (.str X, some (taskRecord X d (todosOf texts) stamp)))
      (fun _ => False) := by
  have hL := htidy.append (taskRecord_tidy X d texts stamp)
  have hrec : fresh c (pre ++ [taskRecord X d (todosOf texts) stamp]) =
      pre ++ [taskRecord X d (todosOf texts) stamp] := fresh_record hfresh stamp
  have hfound : firstDescribed d (openOf (fresh c (pre ++ [taskRecord X d (todosOf texts) stamp]))) =
      .ok (some (taskRecord X d (todosOf texts) stamp)) := by
    rw [hrec]
    refine firstDescribed_only rfl
      (mem_openOf.2 ⟨List.mem_append_right _ (List.mem_singleton_self _), taskRecord_open ..⟩)
      fun t ht hne => ?_
    obtain ⟨hmem, hst⟩ := mem_openOf.1 ht
    rcases List.mem_append.1 hmem with hpre | hlast
    · exact hopen t hpre hst
    · exact absurd (List.mem_singleton.1 hlast) hne
  refine (triple_findOrCreate hL hfound).conseq (fun _ h => h) (fun r w ⟨hw, hid, hr⟩ => ?_)
    (fun _ ⟨t, ht, hno⟩ => ?_)
  · have hX : r.1 = .str X := by
      have hid' : (taskRecord X d (todosOf texts) stamp).item "id" = .ok (.str X) := rfl
      rw [hid'] at hid
      exact (Except.ok.inj hid).symm
    exact ⟨by rwa [hrec] at hw, Prod.ext hX hr⟩
  · cases ht
    exact hno (.str X) rfl

end Twice

/-- Running a task twice at one clock: the first run creates it with a todo per group; the second
adds again every group whose heading is not among the first run's texts. -/
theorem executeTask_twice (d : String) (w : Workspace) {c : Time.Civil} {L : List Value}
    (hw : StoreAt .execution c L w) (hL : Tidy L)
    (hopen : ∀ t ∈ L, (t.getD "status" .null).same (.str "completed") = false →
      ∃ v, t.item "description" = .ok v ∧ v.same (.str d) = false)
    (hids : OthersIds (newId (Time.manila c).civil d) L) :
    let X := newId (Time.manila c).civil d
    let first := (groupsOf d).map groupText
    let w₁ := ((executeTask d).run.run w).2
    StoreAt .execution c (fresh c L ++ [taskRecord X d (todosOf first) (Time.manila c).iso]) w₁ ∧
    StoreAt .execution c (fresh c L ++
        [taskRecord X d (todosOf (first ++ addedTexts d (first.map .str))) (Time.manila c).iso])
      ((executeTask d).run.run w₁).2 := by
  intro X first w₁
  have hfresh : fresh c (fresh c L) = fresh c L := fresh_fresh
  have hothers : OthersIds X (fresh c L) := fun u hu => hids u (List.mem_filter.1 hu).1
  have hopen' : ∀ t ∈ fresh c L, (t.getD "status" .null).same (.str "completed") = false →
      ∃ v, t.item "description" = .ok v ∧ v.same (.str d) = false :=
    fun t ht => hopen t (List.mem_filter.1 ht).1
  -- the first run creates the task and adds every group
  have hrun₁ := (triple_executeTask hfresh hothers hL.fresh (triple_findOrCreate_new hL hopen)
    (rfl : presentOf none = .ok [])).conseq (fun _ h => h)
    (fun _ _ h => by rwa [List.nil_append, addedTexts_nil] at h) (fun _ h => h)
  obtain ⟨_, -, hw₁⟩ := Triple.run_ok hrun₁ hw
  -- the second run finds it and reads the first run's texts as present
  have hrun₂ := triple_executeTask hfresh hothers hL.fresh
    (triple_findOrCreate_record hfresh hL.fresh hopen') (presentOf_record X d first _)
  obtain ⟨_, -, hw₂⟩ := Triple.run_ok hrun₂ hw₁
  exact ⟨hw₁, hw₂⟩

/-- The rules lane reads one step from a short fix: no strategy applies, the fallback names the
typo, and the steps form one group headed by the description. -/
theorem groupsOf_fix_typo :
    groupsOf "fix typo" = [("Fix typo", subtasksOf ["Fix the typo in documentation"])] := by
  have hn : Steps.normalise "fix typo" = "fix typo" := by cbv
  have hs : Steps.sentences "fix typo" = ["fix typo"] := by decide +kernel
  have hdash : Text.Pattern.test {} Steps.dashItem "fix typo" = false := by cbv
  have hletter : Text.Pattern.test .caseless Steps.letterItem "fix typo" = false := by cbv
  have hinline : Steps.Strategy.applies .inlineList "fix typo" ["fix typo"] = false := by
    show (Text.Pattern.test {} Steps.dashItem (Text.join " " ["fix typo"]) ||
      Text.Pattern.test .caseless Steps.letterItem (Text.join " " ["fix typo"])) = false
    rw [show Text.join " " ["fix typo"] = "fix typo" from rfl, hdash, hletter]
    rfl
  have hbullet : Steps.Strategy.applies .bulletList "fix typo" ["fix typo"] = false := by cbv
  have hfound : Steps.Strategy.all.foldl (fun acc st =>
      if st.applies "fix typo" ["fix typo"] then
        (st.steps ["fix typo"]).foldl (fun acc x => if acc.contains x then acc else acc ++ [x]) acc
      else acc) [] = [] := by
    simp only [Steps.Strategy.all, List.foldl_cons, List.foldl_nil, hinline, hbullet]
    decide +kernel
  have hrule : Steps.ruleSteps "fix typo" = ["Fix the typo in documentation"] := by
    unfold Steps.ruleSteps
    simp only [hn, hs, hfound]
    decide +kernel
  -- without a model at hand, both lanes read the rules
  have hext : (Steps.extract "fix typo" none).1 = [.str "Fix the typo in documentation"] := by
    have hlane : Steps.extract "fix typo" none = ((Steps.ruleSteps "fix typo").map .str, false) := by
      unfold Steps.extract
      cases Task.Lane.ofScore (Task.laneScore "fix typo") <;> rfl
    rw [hlane, hrule]
    rfl
  have htidied : tidied (.str "Fix the typo in documentation") =
      some "Fix the typo in documentation" := by
    have htidy : tidyAction "Fix the typo in documentation" = "Fix the typo in documentation" := by
      cbv
    rw [tidied, show (Value.str "Fix the typo in documentation").display =
      "Fix the typo in documentation" from rfl, htidy]
    decide +kernel
  have hsub : (chunk "fix typo" none).subtasks = subtasksOf ["Fix the typo in documentation"] := by
    rw [subtasks_chunk, hext, tidyActions_eq]
    simp only [List.isEmpty_cons, Bool.false_eq_true, ↓reduceIte, List.filterMap_cons, htidied,
      List.filterMap_nil]
    rfl
  have hhead : headingOf (Text.lower "fix typo") = none := by decide +kernel
  have hmain : mainAction "fix typo" = "Fix typo" := by decide +kernel
  unfold groupsOf groupSubtasks
  rw [hsub, hhead, length_subtasksOf, hmain]
  simp

/-- Both runs on an empty store, on a one-step fix: the second run adds the task's one todo again. -/
theorem executeTask_twice_empty_store :
    let w : Workspace := { clock := { year := 2025, month := 1, day := 15, hour := 12 } }
    let d := "fix typo"
    let X := newId (Time.manila w.clock).civil d
    let t := "Fix typo\n    1. Fix the typo in documentation"
    let w₁ := ((executeTask d).run.run w).2
    StoreAt .execution w.clock [taskRecord X d (todosOf [t]) (Time.manila w.clock).iso] w₁ ∧
    StoreAt .execution w.clock [taskRecord X d (todosOf [t, t]) (Time.manila w.clock).iso]
      ((executeTask d).run.run w₁).2 := by
  intro w d X t w₁
  have hg := groupsOf_fix_typo
  have ht : groupText ("Fix typo", subtasksOf ["Fix the typo in documentation"]) = t := rfl
  -- the group has a subtask, so its todo text is not its heading and the second run adds it
  have hadd : addedTexts d (((groupsOf d).map groupText).map .str) = [t] := by
    rw [addedTexts_rerun_single hg (by simp [subtasksOf]), ht]
  obtain ⟨h₁, h₂⟩ := executeTask_twice d w ⟨rfl, rfl, rfl⟩ (fun _ h => (List.not_mem_nil h).elim)
    (fun _ h => (List.not_mem_nil h).elim) (fun _ h => (List.not_mem_nil h).elim)
  have hnil : fresh w.clock ([] : List Value) = [] := rfl
  rw [hnil, List.nil_append] at h₁ h₂
  rw [hadd, hg, List.map_singleton, ht] at h₂
  rw [hg, List.map_singleton, ht] at h₁
  exact ⟨h₁, h₂⟩

end Taskflow.Task