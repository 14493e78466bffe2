import Taskflow.Proofs.Plan.Lint
/-!
The read-only views of a plan: the next-phase report of each task and the outline of one task.
-/

namespace Taskflow.Plan

open Json Text Workspace Queue

variable {φ : Prop} {E : Workspace → Prop}

/-! ## Steps that only print -/

theorem triple_say_const (line : String) : Triple (fun _ => φ) (say line) (fun _ _ => φ) E :=
  Triple.update fun _ h => h

/-- Printing each line of a list keeps what held before. -/
theorem triple_sayEach {α : Type} (xs : List α) (f : α → String) :
    Triple (fun _ => φ) (forIn xs PUnit.unit fun x _ => do
        say (f x)
        pure (ForInStep.yield PUnit.unit)) (fun _ _ => φ) E :=
  Triple.forIn_prefix (fun _ _ _ => φ) (fun _ _ _ _ _ =>
    Triple.bind (triple_say_const _) fun _ => Triple.ret _ fun _ h => h) _

/-! ## Reading a phase -/

theorem importantNote_str (s : String) : ∃ note, importantNote (.str s) = .ok note := by
  unfold importantNote
  split
  · exact ⟨_, rfl⟩
  · exact ⟨_, rfl⟩

theorem blocksWith_str_ok (fence : Pattern) (s : String) :
    ∃ bs, blocksWith fence (.str s) = .ok bs := by
  unfold blocksWith
  split
  · exact ⟨_, rfl⟩
  · exact ⟨_, rfl⟩

theorem codeBlocks_str (s : String) : ∃ bs, codeBlocks (.str s) = .ok bs := by
  obtain ⟨bs, hbs⟩ := blocksWith_str_ok fencePattern s
  exact ⟨bs.map strip, by rw [codeBlocks, hbs]; rfl⟩

/-- Taking a phase's title: it returns unless the text is blanks only, where it faults. -/
theorem triple_titleLine_bind {β : Type} {p : Value} {R : β → Workspace → Prop}
    {f : String → WorkspaceM β} (hb : blankOnly (phaseText p) = false → Triple (fun _ => φ)
      (f (firstLine (phaseText p))) R E) (he : ∀ w, φ → blankOnly (phaseText p) = true → E w) :
    Triple (fun _ => φ) (lift (titleLine (.str (phaseText p))) >>= f) R E := by
  rw [titleLine_str]
  cases h : blankOnly (phaseText p)
  · exact Triple.lift_ok_bind rfl (hb h)
  · exact Triple.lift_error_bind rfl fun w hw => he w hw h

/-- An action whose triple says it returns exactly when `c` holds returns from a starting
workspace exactly when `c` holds. -/
theorem run_ok_iff {α : Type} {P : Workspace → Prop} {act : WorkspaceM α} {c : Prop}
    (h : Triple P act (fun _ _ => c) (fun _ => ¬ c)) {w : Workspace} (hw : P w) :
    (∃ a, (act.run.run w).1 = .ok a) ↔ c := by
  have hrun := h w hw
  revert hrun
  rcases act.run.run w with ⟨_ | a, w'⟩
  · intro hc
    constructor
    · rintro ⟨_, he⟩
      cases he
    · exact fun h => absurd h hc
  · exact fun hc => ⟨fun _ => hc, fun _ => ⟨a, rfl⟩⟩

/-! ## The first unfinished phase -/

/-- A search loop in `Except` that stops at the first item passing `q` finds that item and its
position. -/
theorem forIn_first {α ε : Type} {xs : List α} {q : α → Bool}
    {f : α → Option (Int × α) × Int → Except ε (ForInStep (Option (Int × α) × Int))}
    (h : ∀ x ∈ xs, ∀ s : Option (Int × α) × Int,
      f x s = .ok (if q x then .done (some (s.2, x), s.2) else .yield (none, s.2 + 1)))
    (i : Int) :
    ∃ j, forIn xs (none, i) f = .ok ((xs.find? q).map (fun x => (i + xs.findIdx q, x)), j) := by
  induction xs generalizing i with
  | nil => exact ⟨i, rfl⟩
  | cons x xs ih =>
    rw [List.forIn_cons, h x List.mem_cons_self]
    cases hq : q x
    · obtain ⟨j, hj⟩ := ih (fun y hy => h y (List.mem_cons_of_mem x hy)) (i + 1)
      refine ⟨j, ?_⟩
      simp only [Bool.false_eq_true, ↓reduceIte, ok_bind]
      rw [hj]
      simp only [List.find?_cons, hq, List.findIdx_cons, cond_false]
      congr 3
      funext y
      congr 1
      omega
    · exact ⟨i, by simp [hq, List.findIdx_cons]; rfl⟩

/-- The first unfinished phase of a plan, with its position, or `-1` and nothing. -/
theorem firstUnfinished_phases {ps : List Value} (hps : ∀ p ∈ ps, IsPhase p) :
    firstUnfinished (.arr ps) = .ok (match ps.find? (fun p => !phaseDone p) with
      | some p => ((ps.findIdx (fun p => !phaseDone p) : Int), p)
      | none => (-1, .null)) := by
  have hstep : ∀ x ∈ ps, ∀ s : Option (Int × Value) × Int,
      (do
        let d ← isDone x
        if (!d) = true then pure (ForInStep.done (some (s.2, x), s.2))
        else pure (ForInStep.yield (none, s.2 + 1)) : Except Fault _) =
        .ok (if !phaseDone x then .done (some (s.2, x), s.2) else .yield (none, s.2 + 1)) := by
    intro x hx s
    rw [(hps x hx).isDone_eq, ok_bind]
    cases phaseDone x <;> rfl
  obtain ⟨j, hj⟩ := forIn_first hstep 0
  unfold firstUnfinished
  dsimp only
  have helems : (Value.arr ps).elems = .ok ps := rfl
  rw [helems, ok_bind, hj, ok_bind]
  cases ps.find? (fun p => !phaseDone p) <;> simp <;> rfl

/-- The position the search gives is negative exactly when every phase is done, and otherwise
it comes with the first unfinished phase. -/
theorem firstUnfinished_cases {ps : List Value} (hps : ∀ p ∈ ps, IsPhase p) :
    ∃ idx todo, firstUnfinished (.arr ps) = .ok (idx, todo) ∧
      (idx < 0 → ps.find? (fun p => !phaseDone p) = none) ∧
      (¬ idx < 0 → ps.find? (fun p => !phaseDone p) = some todo) := by
  rw [firstUnfinished_phases hps]
  cases ps.find? (fun p => !phaseDone p) with
  | none => exact ⟨_, _, rfl, fun _ => rfl, fun h => absurd (by decide) h⟩
  | some p => exact ⟨_, _, rfl, fun h => absurd h (by omega), fun _ => rfl⟩

/-! ## The next-phase report -/

/-- Counting the done phases only reads them. -/
theorem triple_countDone {ps : List Value} (hps : ∀ p ∈ ps, IsPhase p) (n : Nat) :
    Triple (fun _ => φ) (forIn ps n fun x (k : Nat) => do
        let d ← lift (x.lookup "done" .null)
        if d.truthy = true then pure (ForInStep.yield (k + 1)) else pure (ForInStep.yield k))
      (fun _ _ => φ) E := by
  refine Triple.forIn_prefix (fun _ _ _ => φ) (fun pre x suf k hxs => ?_) n
  have hx : IsPhase x := hps x (by rw [hxs]; exact List.mem_append_right pre List.mem_cons_self)
  refine Triple.lift_ok_bind (lookup_of_isObj hx.1 _ _) ?_
  exact Triple.ite (fun _ => Triple.ret _ fun _ h => h) (fun _ => Triple.ret _ fun _ h => h)

/-- The report on the first unfinished phase faults exactly when that phase's text is blanks
only. -/
theorem triple_sayNextPhase {todo : Value} (h : IsPhase todo) (idx : Int) :
    Triple (fun _ => φ) (sayNextPhase idx todo)
      (fun _ _ => φ ∧ blankOnly (phaseText todo) = false)
      (fun _ => blankOnly (phaseText todo) = true) := by
  unfold sayNextPhase
  refine Triple.lift_ok_bind h.lookup_text ?_
  refine Triple.bind (triple_say_const _) fun _ => ?_
  refine triple_titleLine_bind (fun hb => ?_) (fun _ _ hb => hb)
  -- past the title every step returns
  refine (show Triple (fun _ => φ ∧ blankOnly (phaseText todo) = false) _ _ (fun _ => False) from
    ?_).conseq (fun _ hw => ⟨hw, hb⟩) (fun _ _ hw => hw) (fun _ hw => hw.elim)
  refine Triple.bind (triple_say_const _) fun _ => ?_
  obtain ⟨note, hnote⟩ := importantNote_str (phaseText todo)
  refine Triple.lift_ok_bind hnote ?_
  refine Triple.bind (triple_say_const _) fun _ => ?_
  obtain ⟨bs, hbs⟩ := codeBlocks_str (phaseText todo)
  refine Triple.lift_ok_bind hbs ?_
  cases bs with
  | nil => exact triple_say_const _
  | cons b rest =>
    -- a free list keeps the elaborator from running the line split of the preview
    dsimp only
    generalize previewLines b 12 = preview
    refine Triple.bind (triple_say_const _) fun _ => Triple.bind (triple_say_const _) fun _ => ?_
    exact Triple.bind (triple_sayEach _ _) fun _ => triple_say_const _

/-- No phase of the list has a text of blanks only, so each has a title. -/
def Titled (ps : List Value) : Prop := ∀ p ∈ ps, blankOnly (phaseText p) = false

theorem titled_append {xs ys : List Value} : Titled (xs ++ ys) ↔ Titled xs ∧ Titled ys :=
  List.forall_mem_append

theorem titled_toList {o : Option Value} : Titled o.toList ↔ ∀ p ∈ o, blankOnly (phaseText p) = false := by
  simp only [Titled, Option.mem_toList, Option.mem_def]

/-- The phases the report on a task titles: the first, which the lint titles, and the first
unfinished one. -/
def reportTitles (ps : List Value) : List Value :=
  ps.head?.toList ++ (ps.find? fun p => !phaseDone p).toList

theorem triple_sayPlan {t : Value} {ps : List Value} (ht : t.isObj = true)
    (htodos : t.getD "todos" (.arr []) = .arr ps) (hps : ∀ p ∈ ps, IsPhase p) :
    Triple (fun _ => True) (sayPlan t) (fun _ _ => Titled (reportTitles ps))
      (fun _ => ¬ Titled (reportTitles ps)) := by
  have htodos' : t.lookup "todos" (.arr []) = .ok (.arr ps) := by rw [lookup_of_isObj ht, htodos]
  unfold sayPlan
  refine Triple.lift_ok_bind (lookup_of_isObj ht _ _) ?_
  refine Triple.lift_ok_bind htodos' ?_
  obtain ⟨idx, todo, hfirst, hdone, hnext⟩ := firstUnfinished_cases hps
  refine Triple.lift_ok_bind hfirst ?_
  dsimp -zeta only
  extract_lets finished jp
  -- the lint and its report, the same after either branch: it faults exactly when the first
  -- phase has no title
  have hjp : ∀ ψ : Prop, Triple (fun _ => ψ) (jp ())
      (fun _ _ => ψ ∧ Titled ps.head?.toList) (fun _ => ¬ Titled ps.head?.toList) := by
    intro ψ
    simp only [jp]
    refine Triple.lift_bind (fun e he w _ htit => ?_) (fun r hr => ?_)
    · obtain ⟨r, hr⟩ := (lint_ok_iff htodos' hps).2 (titled_toList.1 htit)
      rw [hr] at he
      cases he
    · have htit : Titled ps.head?.toList := titled_toList.2 ((lint_ok_iff htodos' hps).1 ⟨r, hr⟩)
      refine (show Triple (fun _ => ψ ∧ Titled ps.head?.toList) _ _ (fun _ => False) from
        ?_).conseq (fun _ hw => ⟨hw, htit⟩) (fun _ _ hw => hw) (fun _ hw => hw.elim)
      refine Triple.ite (fun _ => triple_say_const _) (fun _ => ?_)
      refine Triple.bind (triple_say_const _) fun _ => ?_
      exact Triple.ite (fun _ => triple_say_const _) (fun _ => Triple.ret _ fun _ hw => hw)
  -- the header, the count of done phases and the progress line only print
  refine Triple.bind (triple_say_const _) fun _ => Triple.bind (triple_say_const _) fun _ => ?_
  refine Triple.lift_ok_bind rfl ?_
  refine Triple.bind (triple_countDone hps _) fun _ => ?_
  refine Triple.lift_ok_bind rfl ?_
  refine Triple.bind (triple_say_const _) fun _ => ?_
  refine Triple.ite (fun hneg => ?_) (fun hpos => ?_)
  · -- every phase is done, and only the first phase is titled
    have hnone : reportTitles ps = ps.head?.toList := by
      rw [reportTitles, hdone hneg, Option.toList_none, List.append_nil]
    rw [hnone]
    exact Triple.bind (triple_say_const _) fun _ =>
      (hjp True).conseq (fun _ h => h) (fun _ _ h => h.2) (fun _ h => h)
  · -- the first unfinished phase is titled before the lint titles the first phase
    have hsome := hnext hpos
    have htodo : IsPhase todo := hps todo (List.mem_of_find?_eq_some hsome)
    have hreport : reportTitles ps = ps.head?.toList ++ [todo] := by
      rw [reportTitles, hsome, Option.toList_some]
    rw [hreport]
    refine Triple.bind ((triple_sayNextPhase htodo idx).conseq (fun _ h => h) (fun _ _ h => h.2)
      (fun _ hb htit => ?_)) fun _ => (hjp _).conseq (fun _ h => h) (fun _ _ h => ?_)
        (fun _ h htit => h (titled_append.1 htit).1)
    · have := (titled_append.1 htit).2 todo List.mem_cons_self
      rw [hb] at this
      cases this
    · exact titled_append.2 ⟨h.2, fun p hp => by rw [List.mem_singleton.1 hp]; exact h.1⟩

/-! ## The outline of a task -/

theorem item_of_get? {v x : Value} {k : String} (h : v.get? k = some x) : v.item k = .ok x := by
  cases v with
  | obj kvs =>
    simp only [Value.get?, Option.map_eq_some_iff] at h
    obtain ⟨kv, hkv, rfl⟩ := h
    simp only [Value.item, hkv]
  | _ => cases h

theorem item_text_of_find {p : Value} {k : Nat}
    (hk : find? (phaseText p) "IMPORTANT NOTE:" = some k) : ∃ x, p.item "text" = .ok x := by
  cases hget : p.get? "text" with
  | some x => exact ⟨x, item_of_get? hget⟩
  | none =>
    -- without a `text` the phase reads as the empty text, where no note is found
    have hempty : phaseText p = "" := by
      rw [phaseText, Value.getD, hget]
      rfl
    rw [hempty] at hk
    cases hk

def hasId (t : Value) (id : String) : Bool := (t.getD "id" .null).same (.str id)

/-- The search for a task stops at the first task with the identifier. -/
theorem findPlan_first {pre post : List Value} {t : Value} {id : String}
    (hpre : ∀ u ∈ pre, u.isObj = true ∧ hasId u id = false) (ht : t.isObj = true)
    (hid : hasId t id = true) : findPlan (.arr (pre ++ t :: post)) id = .ok (some t) := by
  unfold findPlan
  have helems : (Value.arr (pre ++ t :: post)).elems = .ok (pre ++ t :: post) := rfl
  rw [helems, ok_bind]
  suffices h : forIn (pre ++ t :: post) ((none : Option (Option Value)), ())
      (fun (u : Value) (_ : Option (Option Value) × Unit) => (do
        let d ← u.lookup "id" .null
        if d.same (.str id) = true then pure (ForInStep.done (some (some u), ()))
        else pure (ForInStep.yield (none, ())) : Except Fault _)) = .ok (some (some t), ()) by
    rw [h]
    rfl
  clear helems
  induction pre with
  | nil =>
    simp only [List.nil_append, List.forIn_cons, lookup_of_isObj ht, ok_bind]
    rw [show (t.getD "id" .null).same (.str id) = true from hid]
    rfl
  | cons u pre ih =>
    have hu := hpre u List.mem_cons_self
    simp only [List.cons_append, List.forIn_cons, lookup_of_isObj hu.1, ok_bind]
    rw [show (u.getD "id" .null).same (.str id) = false from hu.2]
    exact ih fun v hv => hpre v (List.mem_cons_of_mem u hv)

/-- One phase of the outline faults exactly when its text is blanks only. -/
theorem triple_sayPhase {td : Value} (h : IsPhase td) (i : Nat) :
    Triple (fun _ => φ) (sayPhase i td)
      (fun _ _ => φ ∧ blankOnly (phaseText td) = false)
      (fun _ => blankOnly (phaseText td) = true) := by
  unfold sayPhase
  refine Triple.lift_ok_bind (lookup_of_isObj h.1 _ _) ?_
  refine Triple.lift_ok_bind h.lookup_text ?_
  refine triple_titleLine_bind (fun hb => ?_) (fun _ _ hb => hb)
  -- past the title every step returns
  refine (show Triple (fun _ => φ ∧ blankOnly (phaseText td) = false) _ _ (fun _ => False) from
    ?_).conseq (fun _ hw => ⟨hw, hb⟩) (fun _ _ hw => hw) (fun _ hw => hw.elim)
  refine Triple.bind (triple_say_const _) fun _ => ?_
  refine Triple.lift_ok_bind h.lookup_text ?_
  extract_lets blocks note
  -- the first block's lines, after the note if any
  have hblocks : Triple (fun _ => φ ∧ blankOnly (phaseText td) = false) (blocks ())
      (fun _ _ => φ ∧ blankOnly (phaseText td) = false) (fun _ => False) := by
    simp only [blocks]
    refine Triple.lift_ok_bind h.lookup_text ?_
    obtain ⟨bs, hbs⟩ := blocksWith_str_ok wideFencePattern (phaseText td)
    refine Triple.lift_ok_bind hbs ?_
    cases bs with
    | nil => exact Triple.ret _ fun _ hw => hw
    | cons b rest =>
      dsimp only
      generalize previewLines b 4 = preview
      exact Triple.bind (triple_say_const _) fun _ =>
        Triple.bind (triple_sayEach _ _) fun _ => Triple.ret _ fun _ hw => hw
  dsimp only
  rw [pure_bind]
  simp only [note]
  cases hk : find? (phaseText td) "IMPORTANT NOTE:" with
  | none => exact hblocks
  | some k =>
    obtain ⟨x, hx⟩ := item_text_of_find hk
    refine Triple.lift_ok_bind hx ?_
    cases x <;>
      · dsimp only
        rw [pure_bind]
        exact Triple.bind (triple_say_const _) fun _ => hblocks

/-- The outline of the first task with the identifier faults exactly when one of its phases has
a text of blanks only. -/
theorem triple_planOutline {args : List String} {vs : List (String × Command.Given)} {id text : String}
    {tasks pre post : List Value} {t : Value} {ps : List Value}
    (hargs : outlineGrammar.parse args = .parsed vs) (hid : Command.textOf vs "task_id" = some id)
    (hmode : Command.textOf vs "mode" = some "execution")
    (hread : read (String.ofList (Repo.readLines text.toList)) = .ok (.arr tasks))
    (htasks : tasks = pre ++ t :: post) (hpre : ∀ u ∈ pre, u.isObj = true ∧ hasId u id = false)
    (ht : t.isObj = true) (hnames : hasId t id = true)
    (htodos : t.getD "todos" (.arr []) = .arr ps) (hps : ∀ p ∈ ps, IsPhase p) :
    Triple (fun w => w.files.tasks = some text) (planOutline args) (fun _ _ => Titled ps)
      (fun _ => ¬ Titled ps) := by
  -- an object with an identifier has a member, so it is true
  have htruthy : t.truthy = true := by
    obtain ⟨kvs, rfl⟩ := eq_obj_of_isObj ht
    cases kvs with
    | nil => cases hnames
    | cons kv kvs => rfl
  have hdoc : readQueueDoc text = pure (.arr tasks) := by
    unfold readQueueDoc
    dsimp only
    rw [hread]
  unfold planOutline
  rw [hargs]
  dsimp -zeta only
  rw [hmode, hid]
  refine Triple.get_bind fun w hw => ?_
  have hq : w.files.queue (Queue.ofMode ((some "execution").getD "execution")) = some text := hw
  rw [hq]
  dsimp -zeta only
  rw [hdoc, pure_bind]
  -- from here on the workspace does not matter
  refine (show Triple (fun _ => True) _ _ _ from ?_).conseq (fun _ _ => trivial) (fun _ _ h => h)
    (fun _ h => h)
  have hmember : tasksMember (.arr tasks) = .arr tasks := rfl
  rw [hmember, htasks]
  refine Triple.lift_ok_bind (findPlan_first hpre ht hnames) ?_
  dsimp -zeta only
  extract_lets start jp
  rw [htruthy]
  simp only [Bool.not_true, Bool.false_eq_true, ↓reduceIte, jp]
  have htodos' : t.lookup "todos" (.arr []) = .ok (.arr ps) := by rw [lookup_of_isObj ht, htodos]
  refine Triple.lift_ok_bind htodos' ?_
  refine Triple.lift_ok_bind rfl ?_
  refine Triple.bind (triple_countDone hps _) fun _ => ?_
  refine Triple.lift_ok_bind rfl ?_
  refine Triple.bind (triple_say_const _) fun _ => ?_
  refine Triple.lift_ok_bind rfl ?_
  refine Triple.bind ?_ fun _ => triple_say_const _
  -- the phases are titled one after another; the first without a title stops the outline
  refine (Triple.forIn_prefix (fun pre _ _ => Titled pre) (fun pre x suf i hxs => ?_) _).conseq
    (fun _ _ p hp => absurd hp List.not_mem_nil) (fun _ _ h => h) (fun _ h => h)
  have hx : x ∈ ps := by
    rw [hxs]
    exact List.mem_append_right pre List.mem_cons_self
  refine Triple.bind ((triple_sayPhase (hps x hx) i).conseq (fun _ h => h) (fun _ _ h => h)
    (fun _ hb htit => ?_)) fun _ => Triple.ret _ fun _ h => ?_
  · have := htit x hx
    rw [hb] at this
    cases this
  · exact titled_append.2 ⟨h.1, fun p hp => by rw [List.mem_singleton.1 hp]; exact h.2⟩

/-! ## Plans of phases -/

/-- The todos of a task, where they are a list. -/
def phasesOf (t : Value) : List Value :=
  match t.getD "todos" (.arr []) with
  | .arr ps => ps
  | _ => []

/-- A task of a plan file: an object whose todos are a list of phases. -/
structure PlanTask (t : Value) : Prop where
  obj : t.isObj = true
  todos : t.getD "todos" (.arr []) = .arr (phasesOf t)
  phases : ∀ p ∈ phasesOf t, IsPhase p

theorem PlanTask.lookup_todos {t : Value} (h : PlanTask t) :
    t.lookup "todos" (.arr []) = .ok (.arr (phasesOf t)) := by
  rw [lookup_of_isObj h.obj, h.todos]

/-- The read-only views of a plan complete exactly when the phases they title are not texts of
blanks only: the lint, the next-phase report and the outline each title their own phases. -/
theorem plan_views_complete_iff_titled {tasks : List Value} (htasks : ∀ t ∈ tasks, PlanTask t) :
    (∀ t ∈ tasks, (∃ r, lint t = .ok r) ↔ Titled (phasesOf t).head?.toList) ∧
    (∀ t ∈ tasks, ∀ w : Workspace,
      (∃ a, ((sayPlan t).run.run w).1 = .ok a) ↔ Titled (reportTitles (phasesOf t))) ∧
    (∀ (w : Workspace) (text id : String) (args : List String) (vs : List (String × Command.Given))
      (pre post : List Value) (t : Value),
      w.files.tasks = some text → read (String.ofList (Repo.readLines text.toList)) = .ok (.arr tasks) →
      tasks = pre ++ t :: post → (∀ u ∈ pre, hasId u id = false) → hasId t id = true →
      outlineGrammar.parse args = .parsed vs → Command.textOf vs "task_id" = some id →
      Command.textOf vs "mode" = some "execution" →
      ((∃ a, ((planOutline args).run.run w).1 = .ok a) ↔ Titled (phasesOf t))) := by
  refine ⟨fun t ht => ?_, fun t ht w => ?_, ?_⟩
  · have h := htasks t ht
    rw [lint_ok_iff h.lookup_todos h.phases, titled_toList]
  · have h := htasks t ht
    exact run_ok_iff (triple_sayPlan h.obj h.todos h.phases) trivial
  · intro w text id args vs pre post t hfile hread hsplit hpre hid hargs htask hmode
    have hmem : ∀ u ∈ pre, u ∈ tasks := fun u hu => by
      rw [hsplit]
      exact List.mem_append_left _ hu
    have ht := htasks t (by rw [hsplit]; exact List.mem_append_right pre List.mem_cons_self)
    exact run_ok_iff (triple_planOutline hargs htask hmode hread hsplit
      (fun u hu => ⟨(htasks u (hmem u hu)).obj, hpre u hu⟩) ht.obj hid ht.todos ht.phases) hfile

/-- A plan of one task whose only phase is a blank: the views complete as the theorem says,
and the lint of that task stops. -/
theorem plan_views_complete_iff_titled_blank_setup :
    let tasks : List Value :=
      [.obj [("todos", .arr [.obj [("done", .bool false), ("text", .str " ")]])]]
    (∀ t ∈ tasks, PlanTask t) ∧
    ((∀ t ∈ tasks, (∃ r, lint t = .ok r) ↔ Titled (phasesOf t).head?.toList) ∧
    (∀ t ∈ tasks, ∀ w : Workspace,
      (∃ a, ((sayPlan t).run.run w).1 = .ok a) ↔ Titled (reportTitles (phasesOf t))) ∧
    (∀ (w : Workspace) (text id : String) (args : List String) (vs : List (String × Command.Given))
      (pre post : List Value) (t : Value),
      w.files.tasks = some text → read (String.ofList (Repo.readLines text.toList)) = .ok (.arr tasks) →
      tasks = pre ++ t :: post → (∀ u ∈ pre, hasId u id = false) → hasId t id = true →
      outlineGrammar.parse args = .parsed vs → Command.textOf vs "task_id" = some id →
      Command.textOf vs "mode" = some "execution" →
      ((∃ a, ((planOutline args).run.run w).1 = .ok a) ↔ Titled (phasesOf t)))) ∧
    ∀ t ∈ tasks, ¬ ∃ r, lint t = .ok r := by
  intro tasks
  have htasks : ∀ t ∈ tasks, PlanTask t := by
    intro t ht
    rw [List.mem_singleton] at ht
    subst ht
    refine ⟨rfl, rfl, fun p hp => ?_⟩
    rw [List.mem_singleton.1 hp]
    exact ⟨rfl, _, rfl⟩
  have hviews := plan_views_complete_iff_titled htasks
  refine ⟨htasks, hviews, fun t ht hlint => ?_⟩
  -- the lint would title the blank phase
  have htitled := (hviews.1 t ht).1 hlint
  rw [List.mem_singleton.1 ht] at htitled
  exact absurd (htitled _ (List.mem_singleton.2 rfl)) (by decide +kernel)

end Taskflow.Plan
