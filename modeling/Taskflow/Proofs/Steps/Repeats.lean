import Taskflow.Proofs.Steps.InlineLists
/-!
Which list strategies repeat a step.
-/

namespace Taskflow.Steps

open Text

/-! ## Bullet lists -/

theorem nodup_pushBulletLine {steps : List String} (h : steps.Nodup) (line : String) :
    (pushBulletLine steps line).Nodup := by
  unfold pushBulletLine
  dsimp only
  split
  · split
    · exact h
    · split
      · exact h
      · next hnew =>
        refine List.nodup_append.2 ⟨h, List.nodup_cons.2 ⟨List.not_mem_nil, List.nodup_nil⟩, ?_⟩
        intro a ha b hb hab
        rw [hab, List.mem_singleton.1 hb] at ha
        exact hnew (.inr (List.contains_iff_mem.2 ha))
  · exact h

theorem bulletSteps_nodup (ss : List String) : (bulletSteps ss).Nodup :=
  List.foldlRecOn ss _ List.nodup_nil fun _ h s _ =>
    List.foldlRecOn (splitOn s "\n") _ h fun _ h line _ => nodup_pushBulletLine h line

/-! ## Parallel parts -/

theorem mem_of_mem_parallelParts {s p : String} (hp : p ∈ parallelParts s) {x : Char}
    (hx : x ∈ p.toList) : x ∈ s.toList := by
  unfold parallelParts at hp
  split at hp
  · simp at hp
  · obtain ⟨q, hq, rfl⟩ := List.mem_map.1 hp
    obtain ⟨r, hr, rfl⟩ := List.mem_map.1 (List.mem_filter.1 hq).1
    -- back through the conjunction cut, the strip, the split and the cut of `in parallel`
    have hxr : x ∈ r.toList := by
      rcases mem_replace hx with hx | hx
      · exact (strip_contiguous r).subset hx
      · simp at hx
    rcases mem_replace (mem_of_mem_split hr hxr) with hx | hx
    · exact hx
    · simp at hx

theorem bracket_mem_marked (p : String) : '[' ∈ ("[PARALLEL] " ++ capitalize p).toList := by
  have h : "[PARALLEL] ".toList = '[' :: "PARALLEL] ".toList := by decide
  rw [String.toList_append, h]
  exact List.mem_cons_self

/-- Parts without a `[` are never among steps that each hold one, so each nonempty part is
added. -/
theorem foldl_pushParallelPart : ∀ {ps acc : List String}, (∀ p ∈ ps, '[' ∉ p.toList) →
    (∀ t ∈ acc, '[' ∈ t.toList) →
      ps.foldl pushParallelPart acc =
        acc ++ (ps.filter (!·.isEmpty)).map fun p => "[PARALLEL] " ++ capitalize p
  | [], _, _, _ => by simp
  | p :: ps, acc, hps, hacc => by
    have hnew : p ∉ acc := fun h => hps p List.mem_cons_self (hacc p h)
    have hrest : ∀ q ∈ ps, '[' ∉ q.toList := fun q hq => hps q (List.mem_cons_of_mem p hq)
    by_cases he : p.isEmpty
    · rw [List.foldl_cons, pushParallelPart, if_pos (.inl he), foldl_pushParallelPart hrest hacc]
      simp [he]
    · have hacc' : ∀ t ∈ acc ++ ["[PARALLEL] " ++ capitalize p], '[' ∈ t.toList := by
        intro t ht
        rcases List.mem_append.1 ht with ht | ht
        · exact hacc t ht
        · rw [List.mem_singleton.1 ht]
          exact bracket_mem_marked p
      rw [List.foldl_cons, pushParallelPart, if_neg (by simpa [he] using hnew),
        foldl_pushParallelPart hrest hacc']
      simp [he]

/-- For sentences without a `[`, the parallel strategy keeps every nonempty part, capitalised
and marked. -/
theorem parallelSteps_eq {ss : List String} (hss : ∀ s ∈ ss, '[' ∉ s.toList) :
    parallelSteps ss = ((ss.flatMap parallelParts).filter (!·.isEmpty)).map
      fun p => "[PARALLEL] " ++ capitalize p := by
  rw [parallelSteps, foldl_pushParallelPart ?_ (by simp), List.nil_append]
  intro p hp hmem
  obtain ⟨s, hs, hps⟩ := List.mem_flatMap.1 hp
  exact hss s hs (mem_of_mem_parallelParts hps hmem)

/-! ## The three list strategies -/

/-- The bullet-list strategy never repeats a step; the parallel strategy keeps every part of
sentences without a [, and the inline-list strategy every item of a dash list whose items
differ from the raised items before them, repeats included. -/
theorem listStrategies_repeats (ss items : List String) :
    (bulletSteps ss).Nodup ∧
    ((∀ s ∈ ss, '[' ∉ s.toList) →
      parallelSteps ss = ((ss.flatMap parallelParts).filter (!·.isEmpty)).map
        (fun p => "[PARALLEL] " ++ capitalize p)) ∧
    ((∀ a ∈ items, DashListItem a) → RaisedApart items →
      inlineSteps [dashList items] = items.map upperFirst) :=
  ⟨bulletSteps_nodup ss, fun hss => parallelSteps_eq hss,
    fun hitems hapart => inlineSteps_dashList hitems hapart⟩

/-- A sentence naming one part twice gives it twice as a parallel step, and a dash list of one
item twice gives it twice. -/
theorem listStrategies_repeats_build_do :
    ((∀ s ∈ ["build a and build a in parallel"], '[' ∉ s.toList) ∧
        (∀ a ∈ ["do a", "do a"], DashListItem a) ∧ RaisedApart ["do a", "do a"]) ∧
      (bulletSteps ["build a and build a in parallel"]).Nodup ∧
        parallelSteps ["build a and build a in parallel"] =
          ((["build a and build a in parallel"].flatMap parallelParts).filter (!·.isEmpty)).map
            (fun p => "[PARALLEL] " ++ capitalize p) ∧
        inlineSteps [dashList ["do a", "do a"]] = ["do a", "do a"].map upperFirst :=
  have hss : ∀ s ∈ ["build a and build a in parallel"], '[' ∉ s.toList := by decide
  have hitems : ∀ a ∈ ["do a", "do a"], DashListItem a := by
    simp only [List.mem_cons, List.not_mem_nil, or_false, or_self, forall_eq]
    exact ⟨by decide, by simp [Trimmed, isBlank], by simp [itemEnd]⟩
  have hapart : RaisedApart ["do a", "do a"] := by decide +kernel
  have h := listStrategies_repeats ["build a and build a in parallel"] ["do a", "do a"]
  ⟨⟨hss, hitems, hapart⟩, h.1, h.2.1 hss, h.2.2 hitems hapart⟩

end Taskflow.Steps
