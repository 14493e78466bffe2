import Taskflow.Task.Execute
import Taskflow.Proofs.Text.Frames
import Taskflow.Proofs.Text.Pieces
import Mathlib.Tactic.Set
/-!
Cutting a task into subtasks: what every cut gives.
-/

namespace Taskflow.Task

open Text Json

/-! ## Keeping each text once, ignoring case -/

/-- One step of `dedupeIgnoringCase`: a text whose lower case is not among the keys yet is kept,
and its lower case becomes a key. -/
def keepNew (acc : List String × List String) (x : String) : List String × List String :=
  if acc.2.contains (lower x) then acc else (acc.1 ++ [x], acc.2 ++ [lower x])

theorem dedupeIgnoringCase_eq (xs : List String) :
    dedupeIgnoringCase xs = (xs.foldl keepNew ([], [])).1 := rfl

/-- The keys of the fold are the lower cases of the texts kept, and those are distinct. -/
def KeysOf (acc : List String × List String) : Prop :=
  acc.2 = acc.1.map lower ∧ acc.2.Nodup

theorem KeysOf.step {acc : List String × List String} (h : KeysOf acc) (x : String) :
    KeysOf (keepNew acc x) := by
  unfold Task.keepNew
  split
  · exact h
  · next hx =>
    have hnew : lower x ∉ acc.2 := fun hm => hx (List.contains_iff_mem.2 hm)
    refine ⟨by rw [h.1, List.map_append, List.map_singleton], ?_⟩
    exact List.nodup_append.2 ⟨h.2, List.nodup_cons.2 ⟨List.not_mem_nil, List.nodup_nil⟩, fun a ha b hb =>
      (List.mem_singleton.1 hb) ▸ fun e => hnew (e ▸ ha)⟩

theorem KeysOf.foldl {acc : List String × List String} (h : KeysOf acc) (xs : List String) :
    KeysOf (xs.foldl keepNew acc) := by
  induction xs generalizing acc with
  | nil => exact h
  | cons x xs ih => exact ih (h.step x)

theorem foldl_keepNew_extends (xs : List String) (acc : List String × List String) :
    ∃ ys, (xs.foldl keepNew acc).1 = acc.1 ++ ys ∧ ∀ y ∈ ys, y ∈ xs := by
  induction xs generalizing acc with
  | nil => exact ⟨[], by simp, fun _ h => absurd h List.not_mem_nil⟩
  | cons x xs ih =>
    obtain ⟨ys, hys, hmem⟩ := ih (keepNew acc x)
    rw [List.foldl_cons, hys]
    unfold Task.keepNew
    split
    · exact ⟨ys, rfl, fun y hy => List.mem_cons_of_mem x (hmem y hy)⟩
    · refine ⟨x :: ys, by simp, fun y hy => ?_⟩
      rcases List.mem_cons.1 hy with rfl | hy
      · exact List.mem_cons_self
      · exact List.mem_cons_of_mem _ (hmem y hy)

theorem dedupeIgnoringCase_nodup (xs : List String) :
    ((dedupeIgnoringCase xs).map lower).Nodup := by
  have h := KeysOf.foldl (show KeysOf ([], []) from ⟨rfl, List.nodup_nil⟩) xs
  rw [dedupeIgnoringCase_eq, ← h.1]
  exact h.2

theorem mem_of_mem_dedupeIgnoringCase {xs : List String} {y : String}
    (hy : y ∈ dedupeIgnoringCase xs) : y ∈ xs := by
  obtain ⟨ys, hys, hmem⟩ := foldl_keepNew_extends xs ([], [])
  rw [dedupeIgnoringCase_eq, hys, List.nil_append] at hy
  exact hmem y hy

theorem dedupeIgnoringCase_eq_nil {xs : List String} : dedupeIgnoringCase xs = [] ↔ xs = [] := by
  refine ⟨fun h => ?_, fun h => by rw [h]; rfl⟩
  cases xs with
  | nil => rfl
  | cons x xs =>
    obtain ⟨ys, hys, -⟩ := foldl_keepNew_extends xs ([x], [lower x])
    rw [dedupeIgnoringCase_eq, List.foldl_cons] at h
    have hfirst : keepNew ([], []) x = ([x], [lower x]) := rfl
    rw [hfirst, hys] at h
    simp at h

/-! ## Tidied steps -/

/-- The text a step tidies to, or none when it is dropped: a false step, one that shows as
blanks only, or one that tidies to nothing. -/
def tidied (v : Value) : Option String :=
  if !v.truthy || (strip v.display).isEmpty then none
  else if (tidyAction v.display).isEmpty then none
  else some (tidyAction v.display)

theorem tidyActions_eq (vs : List Value) :
    tidyActions vs = dedupeIgnoringCase (vs.filterMap tidied) := by
  unfold tidyActions
  dsimp only
  congr 1
  induction vs with
  | nil => rfl
  | cons v vs ih =>
    rw [List.filterMap_cons, List.filterMap_cons]
    by_cases hv : !v.truthy || (strip v.display).isEmpty
    · have hv' : (!v.truthy) = true ∨ (strip v.display).isEmpty = true := by simpa using hv
      have hnone : tidied v = none := by rw [tidied, if_pos hv]
      rcases hv' with h | h <;> simpa [h, hnone] using ih
    · have hv' : (!v.truthy) = false ∧ (strip v.display).isEmpty = false := by simpa using hv
      by_cases ht : (tidyAction v.display).isEmpty
      · have hnone : tidied v = none := by rw [tidied, if_neg hv, if_pos ht]
        simpa [hv'.1, hv'.2, ht, hnone] using ih
      · have hsome : tidied v = some (tidyAction v.display) := by rw [tidied, if_neg hv, if_neg ht]
        simpa [hv'.1, hv'.2, ht, hsome] using ih

/-- The subtasks of a cut, from the steps the extractor gives or the one that repeats the task. -/
theorem subtasks_chunk (task : String) (model : Option Steps.ModelReply) :
    (chunk task model).subtasks = subtasksOf (tidyActions
      (if (Steps.extract task model).1.isEmpty then [.str s!"Complete task: {task}"]
        else (Steps.extract task model).1)) := by
  unfold chunk
  rcases Steps.extract task model with ⟨steps, asked⟩
  rfl

theorem ne_empty_of_tidied {v : Value} {s : String} (h : tidied v = some s) : s ≠ "" := by
  unfold tidied at h
  split at h
  · exact absurd h (by simp)
  · split at h
    · exact absurd h (by simp)
    · next ht =>
      rw [Option.some.injEq] at h
      rw [← h]
      simpa using ht

/-! ## Subtasks numbered from 1 -/

theorem length_subtasksOf (ds : List String) : (subtasksOf ds).length = ds.length := by
  simp [subtasksOf]

theorem getElem?_subtasksOf (ds : List String) (i : Nat) :
    (subtasksOf ds)[i]? = ds[i]?.map fun d => ⟨s!"subtask_{i + 1}", d, i + 1, estimateMinutes d⟩ := by
  simp [subtasksOf]
  rfl

theorem map_description_subtasksOf (ds : List String) :
    (subtasksOf ds).map Subtask.description = ds := by
  simp [subtasksOf, List.map_map, Function.comp_def]

/-! ## The step that repeats the task -/

section Head

theorem head?_dropBack {p : Char → Bool} {c : Char} (hc : p c = false) (l : List Char) :
    (dropBack p (c :: l)).head? = some c := by
  unfold dropBack
  rw [List.reverse_cons, List.dropWhile_append]
  split
  · simp [hc]
  · simp

theorem head?_strip {s : String} {c : Char} (hc : isBlank c = false) (hs : s.toList.head? = some c) :
    (strip s).toList.head? = some c := by
  obtain ⟨l, hl⟩ := List.head?_eq_some_iff.1 hs
  rw [strip, String.toList_ofList, hl, dropFront, List.dropWhile_cons, hc]
  exact head?_dropBack hc l

theorem head?_stripEndOf {s : String} {c : Char} {cs : List Char} (hc : c ∉ cs)
    (hs : s.toList.head? = some c) : (stripEndOf cs s).toList.head? = some c := by
  obtain ⟨l, hl⟩ := List.head?_eq_some_iff.1 hs
  rw [stripEndOf, String.toList_ofList, hl]
  exact head?_dropBack (by simpa using hc) l

end Head

section Replace

open Pattern

theorem matchAt_start {fl : MatchFlags} {p : Pattern} {ne : Bool} {pos : Nat} {prev : Option Char}
    {rest : List Char} {m : Found} (h : matchAt fl p ne pos prev rest = some m) : m.start = pos := by
  unfold matchAt at h
  obtain ⟨c, -, rfl⟩ := Option.map_eq_some_iff.1 h
  rfl

/-- A search finds matches at or after the place it starts from. -/
theorem le_start_of_searchFrom {fl : MatchFlags} {p : Pattern} :
    ∀ {ne : Bool} {pos : Nat} {prev : Option Char} {rest : List Char} {m : Found},
      searchFrom fl p ne pos prev rest = some m → pos ≤ m.start
  | _, _, _, [], _, h => by
    rw [searchFrom] at h
    exact Nat.le_of_eq (matchAt_start h).symm
  | _, _, _, c :: cs, _, h => by
    rw [searchFrom] at h
    split at h
    · next hm =>
      cases h
      exact Nat.le_of_eq (matchAt_start hm).symm
    · have := le_start_of_searchFrom h
      omega

theorem searchFrom_of_findAll {fl : MatchFlags} {p : Pattern} {cs : List Char} {m : Found}
    {ms : List Found} (h : findAll fl p cs = m :: ms) : searchFrom fl p false 0 none cs = some m := by
  unfold findAll at h
  rw [findAllFrom] at h
  split at h
  · cases h
  · next m' hm' =>
    cases h
    exact hm'

/-- A fold that only appends to the text it builds. -/
theorem foldl_extends {β : Type} (step : String × Nat → β → String × Nat)
    (hstep : ∀ acc m, ∃ t, (step acc m).1 = acc.1 ++ t) :
    ∀ (ms : List β) (acc : String × Nat), ∃ t, (ms.foldl step acc).1 = acc.1 ++ t
  | [], acc => ⟨"", by simp⟩
  | m :: ms, acc => by
    obtain ⟨t, ht⟩ := hstep acc m
    obtain ⟨t', ht'⟩ := foldl_extends step hstep ms (step acc m)
    exact ⟨t ++ t', by rw [List.foldl_cons, ht', ht, String.append_assoc]⟩

/-- A replacement keeps the text's first character when no match starts there. -/
theorem head?_replace {fl : MatchFlags} {p : Pattern} {new s : String} {c : Char}
    (hs : s.toList.head? = some c)
    (h0 : ∀ rest, matchAt fl p false 0 none (c :: rest) = none) :
    (Pattern.replace fl p new s).toList.head? = some c := by
  obtain ⟨rest, hrest⟩ := List.head?_eq_some_iff.1 hs
  unfold Pattern.replace Pattern.replaceBy
  dsimp only
  cases hms : findAll fl p s.toList with
  | nil => simpa using hs
  | cons m ms =>
    -- the first match starts after the first character, which the text before it keeps
    have hfind := searchFrom_of_findAll hms
    rw [hrest, searchFrom, h0 rest] at hfind
    have hstart : 1 ≤ m.start := le_start_of_searchFrom hfind
    obtain ⟨t, ht⟩ := foldl_extends (fun (acc : String × Nat) (m : Found) =>
      (acc.1 ++ String.ofList ((s.toList.drop acc.2).take (m.start - acc.2)) ++ new, m.stop))
      (fun acc m => ⟨_, String.append_assoc⟩) ms
      ("" ++ String.ofList ((s.toList.drop 0).take (m.start - 0)) ++ new, m.stop)
    obtain ⟨k, hk⟩ : ∃ k, m.start = k + 1 := ⟨m.start - 1, by omega⟩
    rw [List.foldl_cons, ht]
    simp [String.toList_append, hrest, hk]

end Replace

section Tidy

open Pattern

theorem matchAt_bulletLead (rest : List Char) :
    matchAt {} bulletLead false 0 none ('C' :: rest) = none := by
  unfold matchAt bulletLead
  rw [run_seq_cons, run_lineStart_zero, run_seq_cons, Pattern.plus, run_cat, Pattern.chars,
    (OneChar.oneOf {} _).refuse (by decide +kernel)]
  rfl

theorem matchAt_iLead (rest : List Char) : matchAt {} iLead false 0 none ('C' :: rest) = none := by
  unfold matchAt iLead
  rw [run_seq_cons, run_lineStart_zero, run_seq_cons, Pattern.chars,
    (OneChar.oneOf {} _).refuse (by decide +kernel)]
  rfl

theorem matchAt_blanks (rest : List Char) :
    matchAt {} (Pattern.plus Pattern.blank) false 0 none ('C' :: rest) = none := by
  unfold matchAt
  rw [Pattern.plus, Pattern.blank, run_cat, (OneChar.oneOf {} _).refuse (by decide +kernel)]
  rfl

theorem completeTask_head (task : String) : (s!"Complete task: {task}").toList.head? = some 'C' := by
  have h : "Complete task: ".toList = 'C' :: "omplete task: ".toList := by decide +kernel
  show ("Complete task: " ++ task).toList.head? = some 'C'
  rw [String.toList_append, h]
  rfl

/-- The step that repeats the task tidies to a text that begins with `C`: no tidying step removes
the leading `C`. -/
theorem tidyAction_completeTask (task : String) :
    (tidyAction s!"Complete task: {task}").toList.head? = some 'C' := by
  have hC : isBlank 'C' = false := by decide
  unfold tidyAction
  dsimp only
  refine head?_strip hC (head?_stripEndOf (by decide) ?_)
  refine head?_replace ?_ matchAt_blanks
  refine head?_replace ?_ matchAt_iLead
  refine head?_replace ?_ matchAt_bulletLead
  exact head?_strip hC (completeTask_head task)

theorem tidied_completeTask (task : String) :
    tidied (.str s!"Complete task: {task}") = some (tidyAction s!"Complete task: {task}") := by
  -- the step, its stripped text and its tidied text all start with `C`
  have hs := isEmpty_of_head (completeTask_head task)
  have hstrip := isEmpty_of_head (head?_strip (by decide) (completeTask_head task))
  have htidy := isEmpty_of_head (tidyAction_completeTask task)
  have hshown : (Value.str s!"Complete task: {task}").display = s!"Complete task: {task}" := rfl
  have htruthy : (Value.str s!"Complete task: {task}").truthy = true := by
    rw [Value.truthy, hs]
    rfl
  rw [tidied, hshown, htruthy, hstrip, htidy]
  rfl

end Tidy

/-! ## Every cut -/

/-- The subtasks of a cut are numbered, nonempty, pending and distinct ignoring case, and the cut
is empty exactly when the extractor gives steps that all tidy to nothing. -/
theorem chunk_subtasks (task : String) (model : Option Steps.ModelReply) :
    (∀ i s, (chunk task model).subtasks[i]? = some s →
      s.id = s!"subtask_{i + 1}" ∧ s.priority = i + 1 ∧ s.description ≠ "" ∧
        s.record.get? "status" = some (.str "pending")) ∧
    ((chunk task model).subtasks.map fun s => lower s.description).Nodup ∧
    ((chunk task model).subtasks = [] ↔
      (Steps.extract task model).1 ≠ [] ∧ ∀ v ∈ (Steps.extract task model).1, tidied v = none) := by
  set steps := (Steps.extract task model).1
  set used : List Value := if steps.isEmpty then [.str s!"Complete task: {task}"] else steps
  set ds := dedupeIgnoringCase (used.filterMap tidied)
  have hsubs : (chunk task model).subtasks = subtasksOf ds := by
    rw [subtasks_chunk, tidyActions_eq]
  rw [hsubs]
  refine ⟨fun i s hs => ?_, ?_, ?_⟩
  · -- subtask `i` is built from description `i`, which some step tidied to
    rw [getElem?_subtasksOf] at hs
    obtain ⟨d, hd, rfl⟩ := Option.map_eq_some_iff.1 hs
    have hmem : d ∈ used.filterMap tidied := mem_of_mem_dedupeIgnoringCase (List.mem_of_getElem? hd)
    obtain ⟨v, -, hv⟩ := List.mem_filterMap.1 hmem
    exact ⟨rfl, rfl, ne_empty_of_tidied hv, rfl⟩
  · have hmap : (subtasksOf ds).map (fun s => lower s.description) = ds.map lower := by
      rw [← congrArg (List.map lower) (map_description_subtasksOf ds), List.map_map]
      rfl
    rw [hmap]
    exact dedupeIgnoringCase_nodup _
  · rw [← List.length_eq_zero_iff, length_subtasksOf, List.length_eq_zero_iff,
      dedupeIgnoringCase_eq_nil, List.filterMap_eq_nil_iff]
    by_cases hsteps : steps = []
    · -- no steps: the step that repeats the task stands in, and it never tidies away
      have hused : used = [.str s!"Complete task: {task}"] := by simp [used, hsteps]
      rw [hused]
      simp [hsteps, tidied_completeTask]
    · have hused : used = steps := by simp [used, hsteps]
      rw [hused]
      simp [hsteps]

end Taskflow.Task
