import Taskflow.Review.Phase
/-!
Merging the findings of a review.
-/

namespace Taskflow.Review

/-! ## Keeping the first member of each key -/

section FirstByKey

variable {α β : Type} [DecidableEq β] (key : α → β)

def firstByKey (xs : List α) : List α := xs.eraseDupsBy fun a b => decide (key a = key b)

/-- One step of keeping the first member of each key: `b` is appended unless a kept member has
its key. -/
def pushNewKey (kept : List α) (b : α) : List α :=
  if ∃ a ∈ kept, key a = key b then kept else kept ++ [b]

theorem eraseDupsBy_loop_eq_foldl (xs acc : List α) :
    List.eraseDupsBy.loop (fun a b => decide (key a = key b)) xs acc =
      xs.foldl (pushNewKey key) acc.reverse := by
  induction xs generalizing acc with
  | nil => rfl
  | cons x xs ih =>
    -- the loop keeps its members reversed, and asks whether the new member's key is among them
    have hseen : acc.any (fun b => decide (key x = key b)) = true ↔
        ∃ a ∈ acc.reverse, key a = key x := by
      simp only [List.any_eq_true, decide_eq_true_eq, List.mem_reverse]
      exact exists_congr fun a => and_congr_right fun _ => eq_comm
    rw [List.foldl_cons, List.eraseDupsBy.loop, pushNewKey]
    by_cases h : ∃ a ∈ acc.reverse, key a = key x
    · rw [if_pos h, hseen.2 h, ih]
    · rw [if_neg h, Bool.eq_false_iff.2 (mt hseen.1 h)]
      dsimp only
      rw [ih, List.reverse_cons]

theorem firstByKey_eq_foldl (xs : List α) : firstByKey key xs = xs.foldl (pushNewKey key) [] :=
  eraseDupsBy_loop_eq_foldl key xs []

theorem firstByKey_append (xs ys : List α) :
    firstByKey key (xs ++ ys) = ys.foldl (pushNewKey key) (firstByKey key xs) := by
  rw [firstByKey_eq_foldl, firstByKey_eq_foldl, List.foldl_append]

theorem firstByKey_concat (xs : List α) (b : α) :
    firstByKey key (xs ++ [b]) = pushNewKey key (firstByKey key xs) b := by
  rw [firstByKey_append, List.foldl_cons, List.foldl_nil]

theorem mem_pushNewKey {a b : α} {kept : List α} (h : a ∈ pushNewKey key kept b) :
    a ∈ kept ∨ a = b := by
  unfold pushNewKey at h
  split at h
  · exact .inl h
  · simpa using h

theorem mem_foldl_pushNewKey {a : α} (ys : List α) :
    ∀ {kept : List α}, a ∈ ys.foldl (pushNewKey key) kept → a ∈ kept ∨ a ∈ ys := by
  induction ys with
  | nil => exact fun h => .inl h
  | cons y ys ih =>
    intro kept h
    rcases ih h with h | h
    · rcases mem_pushNewKey key h with h | rfl
      · exact .inl h
      · exact .inr List.mem_cons_self
    · exact .inr (List.mem_cons_of_mem y h)

theorem prefix_foldl_pushNewKey (ys : List α) :
    ∀ {kept : List α}, kept <+: ys.foldl (pushNewKey key) kept := by
  induction ys with
  | nil => exact fun {_} => List.prefix_refl _
  | cons y ys ih =>
    intro kept
    have hstep : kept <+: pushNewKey key kept y := by
      unfold pushNewKey
      split
      · exact List.prefix_refl _
      · exact List.prefix_append _ _
    exact hstep.trans ih

theorem head?_foldl_pushNewKey (ys : List α) (a : α) (kept : List α) :
    (ys.foldl (pushNewKey key) (a :: kept)).head? = some a := by
  have h : a :: kept <+: ys.foldl (pushNewKey key) (a :: kept) := prefix_foldl_pushNewKey key ys
  obtain ⟨us, hus⟩ := h
  rw [← hus]
  rfl

theorem mem_of_mem_firstByKey {a : α} {xs : List α} (h : a ∈ firstByKey key xs) : a ∈ xs := by
  rw [firstByKey_eq_foldl] at h
  exact (mem_foldl_pushNewKey key xs h).resolve_left List.not_mem_nil

theorem exists_key_pushNewKey (k : β) (kept : List α) (b : α) :
    (∃ a ∈ pushNewKey key kept b, key a = k) ↔ (∃ a ∈ kept, key a = k) ∨ key b = k := by
  unfold pushNewKey
  split
  · rename_i hb
    obtain ⟨c, hc, hcb⟩ := hb
    constructor
    · exact .inl
    · rintro (h | rfl)
      · exact h
      · exact ⟨c, hc, hcb⟩
  · simp [or_and_right, exists_or]

/-- A key is among the kept members exactly when it was among the members. -/
theorem exists_key_foldl_pushNewKey (k : β) (ys : List α) :
    ∀ kept : List α, (∃ a ∈ ys.foldl (pushNewKey key) kept, key a = k) ↔
      (∃ a ∈ kept, key a = k) ∨ ∃ a ∈ ys, key a = k := by
  induction ys with
  | nil => simp
  | cons y ys ih =>
    intro kept
    rw [List.foldl_cons, ih, exists_key_pushNewKey]
    simp [or_assoc]

theorem exists_key_firstByKey (k : β) (xs : List α) :
    (∃ a ∈ firstByKey key xs, key a = k) ↔ ∃ a ∈ xs, key a = k := by
  rw [firstByKey_eq_foldl, exists_key_foldl_pushNewKey]
  simp

theorem nodup_keys_pushNewKey {kept : List α} (h : (kept.map key).Nodup) (b : α) :
    ((pushNewKey key kept b).map key).Nodup := by
  unfold pushNewKey
  split
  · exact h
  · rename_i hb
    rw [List.map_append, List.nodup_append]
    refine ⟨h, List.nodup_cons.2 ⟨List.not_mem_nil, List.nodup_nil⟩, ?_⟩
    intro x hx y hy hxy
    obtain ⟨a, ha, rfl⟩ := List.mem_map.1 hx
    rw [List.map_singleton, List.mem_singleton] at hy
    exact hb ⟨a, ha, hxy.trans hy⟩

theorem nodup_keys_foldl_pushNewKey (ys : List α) :
    ∀ {kept : List α}, (kept.map key).Nodup → ((ys.foldl (pushNewKey key) kept).map key).Nodup := by
  induction ys with
  | nil => exact id
  | cons y ys ih => exact fun h => ih (nodup_keys_pushNewKey key h y)

theorem nodup_keys_firstByKey (xs : List α) : ((firstByKey key xs).map key).Nodup := by
  rw [firstByKey_eq_foldl]
  exact nodup_keys_foldl_pushNewKey key xs List.nodup_nil

end FirstByKey

/-! ## Evidence -/

/-- Where a line of evidence stands: its file and its line number. -/
def Evidence.place (e : Evidence) : String × Nat := (e.path, e.line)

theorem addEvidence_eq_foldl (cited more : List Evidence) :
    addEvidence cited more = more.foldl (pushNewKey Evidence.place) cited := by
  unfold addEvidence
  congr
  funext acc e
  simp [pushNewKey, Evidence.place]

/-- Evidence added to the first citations of some evidence gives the first citations of all of
it. -/
theorem addEvidence_firstByKey (xs more : List Evidence) :
    addEvidence (firstByKey Evidence.place xs) more = firstByKey Evidence.place (xs ++ more) := by
  rw [addEvidence_eq_foldl, firstByKey_append]

/-! ## Findings -/

/-- The problem a finding reports: its kind, severity and description. -/
def Finding.problem (f : Finding) : Category × Severity × String :=
  (f.category, f.severity, f.description)

theorem Finding.sameProblem_iff (g f : Finding) : g.sameProblem f = true ↔ g.problem = f.problem := by
  simp [Finding.sameProblem, Finding.problem, and_assoc]

/-- The evidence that the findings give for the problem of `f`: the evidence of each finding
that reports it, in order, each place at its first citation. -/
def evidenceOf (R : List Finding) (f : Finding) : List Evidence :=
  firstByKey Evidence.place ((R.filter fun g => g.problem = f.problem).flatMap Finding.evidence)

/-- One finding per problem, in the order the problems were first reported, each with all the
evidence given for its problem. -/
def mergedByProblem (R : List Finding) : List Finding :=
  (firstByKey Finding.problem R).map fun f => { f with evidence := evidenceOf R f }

theorem problem_with_evidence (f : Finding) (es : List Evidence) :
    ({ f with evidence := es } : Finding).problem = f.problem := rfl

theorem map_problem_mergedByProblem (R : List Finding) :
    (mergedByProblem R).map Finding.problem = (firstByKey Finding.problem R).map Finding.problem := by
  simp [mergedByProblem, Function.comp_def, problem_with_evidence]

/-- One more finding adds its evidence to its own problem only. -/
theorem evidenceOf_concat (P : List Finding) (f g : Finding) :
    evidenceOf (P ++ [f]) g =
      if f.problem = g.problem then addEvidence (evidenceOf P g) f.evidence else evidenceOf P g := by
  unfold evidenceOf
  rw [List.filter_append]
  by_cases h : f.problem = g.problem
  · rw [if_pos h, addEvidence_firstByKey]
    simp [h]
  · rw [if_neg h]
    simp [h]

theorem evidenceOf_of_new {P : List Finding} {f : Finding} (h : ∀ g ∈ P, g.problem ≠ f.problem) :
    evidenceOf P f = [] := by
  rw [evidenceOf, List.filter_eq_nil_iff.2 fun g hg => by simpa using h g hg]
  rfl

/-- Over findings of distinct problems, a new finding either adds its evidence to the one of its
problem or is appended. -/
theorem mergeInto_of_nodup {gs : List Finding} (hgs : (gs.map Finding.problem).Nodup) (f : Finding) :
    mergeInto gs f =
      if ∃ g ∈ gs, g.problem = f.problem then
        gs.map fun g => if g.problem = f.problem then
          { g with evidence := addEvidence g.evidence f.evidence } else g
      else gs ++ [{ f with evidence := addEvidence [] f.evidence }] := by
  induction gs with
  | nil => simp [mergeInto]
  | cons g gs ih =>
    rw [List.map_cons, List.nodup_cons] at hgs
    obtain ⟨hg, hgs⟩ := hgs
    by_cases hgf : g.problem = f.problem
    · -- the first finding takes the evidence, and no later one reports its problem
      have hrest : ∀ h ∈ gs, h.problem ≠ f.problem := fun h hh hhf =>
        hg (List.mem_map.2 ⟨h, hh, hhf.trans hgf.symm⟩)
      rw [mergeInto, if_pos ((Finding.sameProblem_iff g f).2 hgf),
        if_pos ⟨g, List.mem_cons_self, hgf⟩, List.map_cons, if_pos hgf,
        List.map_congr_left fun h hh => if_neg (hrest h hh), List.map_id']
    · rw [mergeInto, if_neg (by rw [Finding.sameProblem_iff]; exact hgf), ih hgs]
      by_cases hex : ∃ h ∈ gs, h.problem = f.problem
      · obtain ⟨h, hh, hhf⟩ := hex
        rw [if_pos ⟨h, hh, hhf⟩, if_pos ⟨h, List.mem_cons_of_mem g hh, hhf⟩, List.map_cons, if_neg hgf]
      · have hex' : ¬ ∃ h ∈ g :: gs, h.problem = f.problem := by
          rintro ⟨h, hh, hhf⟩
          rcases List.mem_cons.1 hh with rfl | hh
          · exact hgf hhf
          · exact hex ⟨h, hh, hhf⟩
        rw [if_neg hex, if_neg hex', List.cons_append]

theorem mergeInto_mergedByProblem (P : List Finding) (f : Finding) :
    mergeInto (mergedByProblem P) f = mergedByProblem (P ++ [f]) := by
  have hnodup : ((mergedByProblem P).map Finding.problem).Nodup := by
    rw [map_problem_mergedByProblem]
    exact nodup_keys_firstByKey _ P
  have hex : (∃ g ∈ mergedByProblem P, g.problem = f.problem) ↔
      ∃ g ∈ firstByKey Finding.problem P, g.problem = f.problem := by
    constructor
    · rintro ⟨g, hg, hgf⟩
      obtain ⟨a, ha, rfl⟩ := List.mem_map.1 hg
      exact ⟨a, ha, hgf⟩
    · rintro ⟨a, ha, haf⟩
      exact ⟨_, List.mem_map.2 ⟨a, ha, rfl⟩, haf⟩
  rw [mergeInto_of_nodup hnodup]
  conv => rhs; rw [mergedByProblem, firstByKey_concat, pushNewKey]
  by_cases h : ∃ g ∈ firstByKey Finding.problem P, g.problem = f.problem
  · -- the problem was reported: its finding takes the new evidence, the others keep theirs
    rw [if_pos (hex.2 h), if_pos h, mergedByProblem, List.map_map]
    refine List.map_congr_left fun g _ => ?_
    rw [Function.comp_apply, evidenceOf_concat]
    split
    · rename_i hg
      rw [if_pos (show f.problem = g.problem from hg.symm)]
    · rename_i hg
      rw [if_neg (show ¬ f.problem = g.problem from fun h => hg h.symm)]
  · -- a new problem: the others keep their evidence, and the new finding brings its own
    have hP : ∀ g ∈ P, g.problem ≠ f.problem := fun g hg hgf =>
      h ((exists_key_firstByKey Finding.problem f.problem P).2 ⟨g, hg, hgf⟩)
    rw [if_neg (mt hex.1 h), if_neg h, mergedByProblem, List.map_append, List.map_singleton]
    congr 1
    · refine List.map_congr_left fun g hg => ?_
      have hgf : g.problem ≠ f.problem := hP g (mem_of_mem_firstByKey _ hg)
      rw [evidenceOf_concat, if_neg (Ne.symm hgf)]
    · rw [evidenceOf_concat, if_pos rfl, evidenceOf_of_new hP]

/-- Merging findings gives one finding per problem, in the order the problems were first
reported, each with all the evidence given for its problem, a place cited once. -/
theorem merge_eq_mergedByProblem (R : List Finding) : merge R = mergedByProblem R := by
  -- the fold of the merge, started from the specification of the findings before it
  suffices h : ∀ P, R.foldl mergeInto (mergedByProblem P) = mergedByProblem (P ++ R) by
    have hnil : mergedByProblem [] = [] := rfl
    rw [merge, ← hnil, h [], List.nil_append]
  induction R with
  | nil => simp
  | cons f R ih =>
    intro P
    rw [List.foldl_cons, mergeInto_mergedByProblem, ih, List.append_assoc, List.singleton_append]

/-- A review reports, for the findings its detectors give in the order they run, one finding per
problem, in the order the problems were first reported, each with the evidence of every report
of its problem in order, a place cited once, at its first citation. -/
theorem reviewPhase_findings (tree : Repo.Tree) (root : String) (tasks : Json.Value) (index : Int)
    (proactive : Bool) :
    reviewPhase tree root tasks index proactive =
      (phaseText tasks index).map fun p =>
        .obj [("phase_index", .int index), ("title", .str p.1),
          ("findings", .arr ((mergedByProblem (phaseFindings tree root p.2 proactive)).map
            Finding.toValue))] := by
  rw [reviewPhase]
  cases phaseText tasks index with
  | error e => rfl
  | ok p => simp only [merge_eq_mergedByProblem]; rfl

end Taskflow.Review
