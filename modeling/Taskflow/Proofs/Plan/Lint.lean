import Taskflow.Plan.Outline
import Taskflow.Proofs.Queue.Gate
/-!
What linting a plan finds.
-/

namespace Taskflow.Plan

open Json Text Queue
open scoped List

/-! ## The completion check -/

theorem monotonic_true_iff (ds : List Bool) : monotonic ds true = true ↔ false ∉ ds := by
  induction ds with
  | nil => simp [monotonic]
  | cons d ds ih => cases d <;> simp [monotonic, ih]

theorem monotonic_false_iff (ds : List Bool) :
    monotonic ds false = true ↔ ¬ [true, false] <+ ds := by
  induction ds with
  | nil => simp [monotonic]
  | cons d ds ih =>
    cases d with
    | false => simp [monotonic, ih, List.sublist_cons_iff]
    | true =>
      -- a done phase opens the pair exactly when some later phase is undone
      have hpair : [true, false] <+ true :: ds ↔ false ∈ ds := by
        rw [List.cons_sublist_cons, List.singleton_sublist]
      simp only [monotonic, Bool.not_true, Bool.false_and, Bool.false_eq_true, ↓reduceIte,
        Bool.false_or, monotonic_true_iff, hpair]

/-! ## Phases -/

/-- A phase of a plan: an object whose `text`, where it has one, is a string. -/
def IsPhase (p : Value) : Prop := p.isObj = true ∧ ∃ s, p.getD "text" (.str "") = .str s

/-- The text of a phase, empty where it has none. -/
def phaseText (p : Value) : String :=
  match p.getD "text" (.str "") with
  | .str s => s
  | _ => ""

def phaseDone (p : Value) : Bool := (p.getD "done" (.bool false)).truthy

/-- A text that is not empty and holds blanks only: stripped, it has no first line. -/
def blankOnly (s : String) : Bool := !s.isEmpty && (strip s).isEmpty

/-- The first line of a stripped text; the empty text when there is none. -/
def firstLine (s : String) : String := ((lines (strip s)).head?).getD ""

/-- The positions, from 0, of the phases whose text holds no important note. -/
def notesMissing (ps : List Value) : List Nat :=
  ((ps.zipIdx).filter fun e => !has (phaseText e.1) "IMPORTANT NOTE:").map (·.2)

theorem lookup_of_isObj {p : Value} (h : p.isObj = true) (k : String) (d : Value) :
    p.lookup k d = .ok (p.getD k d) := by
  obtain ⟨kvs, rfl⟩ := eq_obj_of_isObj h
  rfl

theorem IsPhase.lookup_text {p : Value} (h : IsPhase p) :
    p.lookup "text" (.str "") = .ok (.str (phaseText p)) := by
  obtain ⟨s, hs⟩ := h.2
  rw [lookup_of_isObj h.1, hs, phaseText, hs]

theorem IsPhase.isDone_eq {p : Value} (h : IsPhase p) : isDone p = .ok (phaseDone p) := by
  unfold isDone
  rw [lookup_of_isObj h.1]
  rfl

theorem mapM_isDone {ps : List Value} (hps : ∀ p ∈ ps, IsPhase p) :
    ps.mapM isDone = .ok (ps.map phaseDone) := by
  induction ps with
  | nil => rfl
  | cons p ps ih =>
    rw [List.mapM_cons, (hps p List.mem_cons_self).isDone_eq,
      ih fun q hq => hps q (List.mem_cons_of_mem p hq)]
    rfl

/-! ## Titles -/

theorem linesList_go_eq_nil {cs acc : List Char} :
    linesList.go cs acc = [] ↔ cs = [] ∧ acc = [] := by
  fun_induction linesList.go cs acc <;> simp_all

theorem lines_eq_nil {t : String} : lines t = [] ↔ t = "" := by
  rw [lines, List.map_eq_nil_iff, linesList, linesList_go_eq_nil, ← String.toList_eq_nil_iff]
  simp

/-- A title is the first line of the stripped text; a text of blanks only has none, and taking
it is an index fault. -/
theorem titleLine_str (s : String) :
    titleLine (.str s) =
      if blankOnly s then .error (.indexOutOfRange "list") else .ok (firstLine s) := by
  by_cases hs : s.isEmpty
  · have he : s = "" := String.isEmpty_iff.1 hs
    subst he
    rfl
  · have htruthy : (Value.str s).truthy = true := by simpa [Value.truthy] using hs
    unfold titleLine
    rw [htruthy, Bool.not_true]
    simp only [Bool.false_eq_true, ↓reduceIte, blankOnly, hs, Bool.not_false, Bool.true_and]
    cases hl : lines (strip s) with
    | nil =>
      have hstrip : strip s = "" := lines_eq_nil.1 hl
      simp [hstrip]
    | cons l rest =>
      have hstrip : (strip s).isEmpty = false := by
        rw [Bool.eq_false_iff, ne_eq, String.isEmpty_iff, ← lines_eq_nil, hl]
        exact List.cons_ne_nil l rest
      simp [hstrip, firstLine, hl]

/-! ## The lint of a plan of phases -/

/-- A loop in `Except` whose every step goes on with a known state is a fold. -/
theorem forIn_eq_foldl {α β ε : Type} {xs : List α} {f : α → β → Except ε (ForInStep β)}
    (g : β → α → β) (h : ∀ x ∈ xs, ∀ b, f x b = .ok (.yield (g b x))) (b : β) :
    forIn xs b f = .ok (xs.foldl g b) := by
  induction xs generalizing b with
  | nil => rfl
  | cons x xs ih =>
    rw [List.forIn_cons, h x List.mem_cons_self b, ok_bind]
    exact ih (fun y hy => h y (List.mem_cons_of_mem x hy)) (g b x)

/-- One phase of the note check: its position is kept when its text lacks the note. -/
def noteStep (acc : List Nat × Nat) (p : Value) : List Nat × Nat :=
  (if has (phaseText p) "IMPORTANT NOTE:" then acc.1 else acc.1 ++ [acc.2], acc.2 + 1)

theorem foldl_noteStep (ps : List Value) (m : List Nat) (i : Nat) :
    ps.foldl noteStep (m, i) =
      (m ++ ((ps.zipIdx i).filter fun e => !has (phaseText e.1) "IMPORTANT NOTE:").map (·.2),
        i + ps.length) := by
  induction ps generalizing m i with
  | nil => simp
  | cons p ps ih =>
    rw [List.foldl_cons, noteStep]
    by_cases hp : has (phaseText p) "IMPORTANT NOTE:" = true
    · simp only [hp, ↓reduceIte, ih, List.zipIdx_cons, List.filter_cons, Bool.not_true,
        Bool.false_eq_true, List.length_cons, Prod.mk.injEq, true_and]
      omega
    · rw [Bool.not_eq_true] at hp
      simp only [hp, Bool.false_eq_true, ↓reduceIte, ih, List.zipIdx_cons, List.filter_cons,
        Bool.not_false, List.map_cons, List.append_assoc, List.singleton_append, List.length_cons,
        Prod.mk.injEq, true_and]
      omega

theorem foldl_noteStep_fst (ps : List Value) : (ps.foldl noteStep ([], 0)).1 = notesMissing ps := by
  rw [foldl_noteStep, List.nil_append]
  rfl

theorem not_monotonic_iff (ds : List Bool) : (!monotonic ds false) = true ↔ [true, false] <+ ds := by
  rw [Bool.not_eq_true', ← Bool.not_eq_true, monotonic_false_iff, not_not]

/-- Linting a plan of phases: it faults only on the title of a first phase that is blanks only;
otherwise it reports a first phase that is not the setup phase, completion with an undone phase
after a done one, and the phases without an important note. -/
theorem lint_phases {task : Value} {ps : List Value}
    (htodos : task.lookup "todos" (.arr []) = .ok (.arr ps)) (hps : ∀ p ∈ ps, IsPhase p) :
    lint task = (match ps with
      | [] => Except.ok []
      | p :: _ => (titleLine (.str (phaseText p))).map fun t =>
          if startsWith t setupTitle then [] else ["Phase 0 is not first"]).map fun issues =>
      (issues ++ (if [true, false] <+ ps.map phaseDone then
          ["Completion is non-monotonic (undone after done)"] else []), notesMissing ps) := by
  have hstep : ∀ x ∈ ps, ∀ b : List Nat × Nat,
      (do
        let t ← x.lookup "text" (.str "")
        let h ← t.holds (.str "IMPORTANT NOTE:")
        if (!h) = true then pure (ForInStep.yield (b.1 ++ [b.2], b.2 + 1))
        else pure (ForInStep.yield (b.1, b.2 + 1)) : Except Fault (ForInStep (List Nat × Nat))) =
        .ok (.yield (noteStep b x)) := by
    intro x hx b
    rw [(hps x hx).lookup_text, ok_bind]
    show (if (!has (phaseText x) "IMPORTANT NOTE:") = true then _ else _) = _
    unfold noteStep
    cases has (phaseText x) "IMPORTANT NOTE:" <;> rfl
  unfold lint
  rw [htodos, ok_bind]
  dsimp only
  have helems : (Value.arr ps).elems = .ok ps := rfl
  simp only [helems, ok_bind]
  rw [forIn_eq_foldl noteStep hstep ([], 0)]
  simp only [ok_bind, mapM_isDone hps, not_monotonic_iff, foldl_noteStep_fst]
  cases ps with
  | nil =>
    have hfalse : (Value.arr []).truthy = false := rfl
    simp only [hfalse, Bool.false_eq_true, ↓reduceIte]
    rfl
  | cons p rest =>
    have hat : (Value.arr (p :: rest)).atIndex 0 = .ok p := by
      simp [Value.atIndex, Value.position]
    have htruthy : (Value.arr (p :: rest)).truthy = true := rfl
    simp only [htruthy, ↓reduceIte, hat, ok_bind, (hps p List.mem_cons_self).lookup_text]
    cases titleLine (.str (phaseText p)) with
    | error e => rfl
    | ok t =>
      rw [ok_bind]
      by_cases ht : startsWith t setupTitle <;>
        by_cases hm : [true, false] <+ phaseDone p :: rest.map phaseDone <;>
        simp [ht, hm, Except.map] <;> rfl

/-- Linting returns exactly when the first phase, if there is one, has a title. -/
theorem lint_ok_iff {task : Value} {ps : List Value}
    (htodos : task.lookup "todos" (.arr []) = .ok (.arr ps)) (hps : ∀ p ∈ ps, IsPhase p) :
    (∃ r, lint task = .ok r) ↔ ∀ p ∈ ps.head?, blankOnly (phaseText p) = false := by
  rw [lint_phases htodos hps]
  cases ps with
  | nil => exact ⟨fun _ _ hp => absurd hp (Option.not_mem_none _), fun _ => ⟨_, rfl⟩⟩
  | cons p rest =>
    dsimp only
    rw [titleLine_str]
    cases h : blankOnly (phaseText p) <;> simp [Except.map, h]

/-! ## Completion order -/

/-- On a plan of phases whose first text has a title, linting returns, and it reports
non-monotonic completion exactly when some phase that is not done comes after a done one: the
flags must be a run of undone phases followed by a run of done ones. -/
theorem lint_flags_undone_after_done {task : Value} {ps : List Value}
    (htodos : task.lookup "todos" (.arr []) = .ok (.arr ps)) (hps : ∀ p ∈ ps, IsPhase p)
    (htitled : ∀ p ∈ ps.head?, blankOnly (phaseText p) = false) :
    ∃ issues missing, lint task = .ok (issues, missing) ∧
      ("Completion is non-monotonic (undone after done)" ∈ issues ↔
        [true, false] <+ ps.map phaseDone) := by
  rw [lint_phases htodos hps]
  cases ps with
  | nil => exact ⟨_, _, rfl, by simp⟩
  | cons p rest =>
    have htitle : titleLine (.str (phaseText p)) = .ok (firstLine (phaseText p)) := by
      rw [titleLine_str, htitled p rfl]
      rfl
    refine ⟨_, _, by dsimp only; rw [htitle]; rfl, ?_⟩
    -- the setup check adds its own issue only, so the completion issue comes from the last check
    by_cases hs : startsWith (firstLine (phaseText p)) setupTitle <;> simp [hs]

/-- The check at a plan whose setup phase is done and whose next phase is not. -/
theorem lint_flags_undone_after_done_in_progress :
    let ps : List Value := [.obj [("done", .bool true), ("text", .str "PHASE 0: SETUP & PROTOCOL")],
      .obj [("done", .bool false), ("text", .str "PHASE 1: BUILD")]]
    ∃ issues missing, lint (.obj [("todos", .arr ps)]) = .ok (issues, missing) ∧
      ("Completion is non-monotonic (undone after done)" ∈ issues ↔
        [true, false] <+ ps.map phaseDone) := by
  intro ps
  refine lint_flags_undone_after_done rfl (fun p hp => ?_) (fun p hp => ?_)
  · simp only [ps, List.mem_cons, List.not_mem_nil, or_false] at hp
    rcases hp with rfl | rfl <;> exact ⟨rfl, _, rfl⟩
  · cases hp
    decide

/-- A plan in ordinary forward progress, its setup phase done and its next phase not, is
reported as non-monotonic, although no done phase follows an undone one. -/
theorem lint_flags_plan_in_progress :
    lint (.obj [("todos", .arr [
        .obj [("done", .bool true), ("text", .str "PHASE 0: SETUP & PROTOCOL\nIMPORTANT NOTE: ready")],
        .obj [("done", .bool false), ("text", .str "PHASE 1: BUILD\nIMPORTANT NOTE: next")]])]) =
      .ok (["Completion is non-monotonic (undone after done)"], []) ∧
    ¬ [false, true] <+ [true, false] := by
  refine ⟨by rfl, by decide⟩

end Taskflow.Plan
