import Taskflow.Proofs.Text.Pieces
/-!
Replacing a piece of text.
-/

namespace Taskflow.Text

/-! ## Replacing -/

section Replace

variable {old new : List Char}

theorem replaceList_nil (old new : List Char) : replaceList old new [] = [] := by
  rw [replaceList]

theorem replaceList_cons_of_no_match {c : Char} {cs : List Char}
    (h : ¬ (old ≠ [] ∧ old.isPrefixOf (c :: cs) = true)) :
    replaceList old new (c :: cs) = c :: replaceList old new cs := by
  rw [replaceList, dif_neg h]

theorem replaceList_cons_of_match {c : Char} {cs : List Char}
    (h : old ≠ [] ∧ old.isPrefixOf (c :: cs) = true) :
    replaceList old new (c :: cs) = new ++ replaceList old new ((c :: cs).drop old.length) := by
  rw [replaceList, dif_pos h]

theorem replaceList_of_prefix (hne : old ≠ []) (new rest : List Char) :
    replaceList old new (old ++ rest) = new ++ replaceList old new rest := by
  obtain ⟨c, o, rfl⟩ := List.exists_cons_of_ne_nil hne
  rw [List.cons_append, replaceList_cons_of_match ⟨hne, List.isPrefixOf_iff_prefix.2 (by simp)⟩]
  simp

theorem replaceList_of_not_prefix {c : Char} {cs : List Char} (h : ¬ old <+: c :: cs)
    (new : List Char) : replaceList old new (c :: cs) = c :: replaceList old new cs :=
  replaceList_cons_of_no_match fun hp => h (List.isPrefixOf_iff_prefix.1 hp.2)

theorem replaceList_of_absent : ∀ {l : List Char}, ¬ old <:+: l → replaceList old new l = l
  | [], _ => replaceList_nil old new
  | c :: cs, h => by
    have hcopy : replaceList old new (c :: cs) = c :: replaceList old new cs :=
      replaceList_of_not_prefix (fun hp => h hp.isInfix) new
    rw [hcopy, replaceList_of_absent fun hi => h (hi.trans (List.suffix_cons c cs).isInfix)]

/-- A stretch where no occurrence starts is copied as it is. -/
theorem replaceList_append_of_clear : ∀ {x : List Char} (y : List Char),
    (∀ j < x.length, ¬ old <+: (x ++ y).drop j) → replaceList old new (x ++ y) = x ++ replaceList old new y
  | [], _, _ => rfl
  | c :: x, y, h => by
    rw [List.cons_append, replaceList_of_not_prefix (by simpa using h 0 (by simp)),
      replaceList_append_of_clear y fun j hj => by simpa using h (j + 1) (by simpa using hj),
      List.cons_append]

theorem prefix_append_sep_iff {w x y : List Char} {c : Char} (hc : c ∉ w) :
    w <+: x ++ c :: y ↔ w <+: x := by
  refine ⟨fun h => ?_, fun h => h.trans (List.prefix_append x _)⟩
  by_cases hle : w.length ≤ x.length
  · exact List.prefix_of_prefix_length_le h (List.prefix_append x _) hle
  · -- the word would reach `c`
    have hxw : x ++ [c] <+: w :=
      List.prefix_of_prefix_length_le (by simp) h
        (by simp; omega)
    exact absurd (hxw.subset (by simp)) hc

/-- Replacement works on either side of a character the piece lacks. -/
theorem replaceList_append_sep {c : Char} (hc : c ∉ old) (y : List Char) :
    ∀ x : List Char, replaceList old new (x ++ c :: y) =
      replaceList old new x ++ c :: replaceList old new y
  | [] => by
    have hp : ¬ (old ≠ [] ∧ old.isPrefixOf (c :: y) = true) := fun ⟨h0, hp⟩ => by
      obtain ⟨d, o, rfl⟩ := List.exists_cons_of_ne_nil h0
      rw [List.isPrefixOf_iff_prefix, List.cons_prefix_cons] at hp
      exact hc (hp.1 ▸ List.mem_cons_self)
    rw [List.nil_append, replaceList_cons_of_no_match hp, replaceList_nil, List.nil_append]
  | d :: x => by
    have hiff : old.isPrefixOf (d :: (x ++ c :: y)) = old.isPrefixOf (d :: x) := by
      rw [Bool.eq_iff_iff, List.isPrefixOf_iff_prefix, List.isPrefixOf_iff_prefix,
        ← List.cons_append, prefix_append_sep_iff hc]
    by_cases hp : old ≠ [] ∧ old.isPrefixOf (d :: x) = true
    · -- an occurrence in front, wholly before `c`
      have hlen : old.length ≤ x.length + 1 := by
        simpa using (List.isPrefixOf_iff_prefix.1 hp.2).length_le
      have : 0 < old.length := List.length_pos_iff.2 hp.1
      rw [List.cons_append, replaceList_cons_of_match (hiff ▸ hp), replaceList_cons_of_match hp,
        ← List.cons_append, List.drop_append_of_le_length (by simpa using hlen),
        replaceList_append_sep hc y ((d :: x).drop old.length), List.append_assoc]
    · rw [List.cons_append, replaceList_cons_of_no_match (hiff ▸ hp),
        replaceList_cons_of_no_match hp, replaceList_append_sep hc y x, List.cons_append]
termination_by x => x.length
decreasing_by
  all_goals simp only [List.length_drop, List.length_cons]
  all_goals omega

/-- A piece that lacks `c` and occurs in a text with `c` in it occurs on one side of `c`. -/
theorem infix_append_sep {w y : List Char} {c : Char} (hc : c ∉ w) :
    ∀ {x : List Char}, w <:+: x ++ c :: y → w <:+: x ∨ w <:+: y
  | [], h => by
    rw [List.nil_append, List.infix_cons_iff] at h
    rcases h with h | h
    · cases w with
      | nil => exact .inr List.nil_infix
      | cons e w =>
        rw [List.cons_prefix_cons] at h
        exact absurd (h.1 ▸ List.mem_cons_self) hc
    · exact .inr h
  | d :: x, h => by
    rw [List.cons_append, List.infix_cons_iff, ← List.cons_append, prefix_append_sep_iff hc] at h
    rcases h with h | h
    · exact .inl h.isInfix
    · rcases infix_append_sep hc h with h | h
      · exact .inl (h.trans (List.suffix_cons d x).isInfix)
      · exact .inr h

theorem not_infix_append_sep {w x y : List Char} {c : Char} (hc : c ∉ w) (hx : ¬ w <:+: x)
    (hy : ¬ w <:+: y) : ¬ w <:+: x ++ c :: y := fun h =>
  (infix_append_sep hc h).elim hx hy

end Replace

/-! ## Words between spaces -/

section Spaced

variable {w : List Char}

/-- A spaceless word followed by a space starts a spaceless word followed by a space only when
the two are the same. -/
theorem eq_of_spaced_start {w : List Char} (hw : ' ' ∉ w) :
    ∀ {u r : List Char}, ' ' ∉ u → w ++ [' '] <+: u ++ ' ' :: r → w = u := by
  induction w with
  | nil =>
    intro u r hu h
    cases u with
    | nil => rfl
    | cons f u =>
      rw [List.nil_append, List.cons_append, List.cons_prefix_cons] at h
      exact absurd (h.1 ▸ List.mem_cons_self) hu
  | cons e w ih =>
    intro u r hu h
    cases u with
    | nil =>
      rw [List.cons_append, List.nil_append, List.cons_prefix_cons] at h
      exact absurd (h.1 ▸ List.mem_cons_self) hw
    | cons f u =>
      rw [List.cons_append, List.cons_append, List.cons_prefix_cons] at h
      obtain ⟨rfl, h⟩ := h
      rw [ih (fun h' => hw (List.mem_cons_of_mem e h')) (fun h' => hu (List.mem_cons_of_mem e h')) h]

/-- The word between spaces occurs only where a space opens it. -/
theorem spaced_not_infix_word {r : List Char} (hb : ¬ w <:+: r) :
    ∀ {u : List Char}, ' ' ∉ u → ¬ (' ' :: (w ++ [' '])) <:+: u ++ ' ' :: r
  | [], _, h => by
    rw [List.nil_append, List.infix_cons_iff] at h
    rcases h with h | h
    · rw [List.cons_prefix_cons] at h
      exact hb (List.prefix_append w [' '] |>.trans h.2).isInfix
    · exact hb ((List.infix_append [' '] w [' ']).trans h)
  | f :: u, hu, h => by
    rw [List.cons_append, List.infix_cons_iff] at h
    rcases h with h | h
    · rw [List.cons_prefix_cons] at h
      exact hu (h.1 ▸ List.mem_cons_self)
    · exact spaced_not_infix_word hb (fun h' => hu (List.mem_cons_of_mem f h')) h

/-- A spaceless word between two spaces occurs in a text of words between spaces only where it
stands as a word: not in `a`, not in `b`, and not as `u` when it differs from `u`. -/
theorem spaced_absent {u b : List Char} (hw : ' ' ∉ w) (hu : ' ' ∉ u) (hwu : w ≠ u)
    (hb : ¬ w <:+: b) : ∀ {a : List Char}, ¬ w <:+: a →
      ¬ (' ' :: (w ++ [' '])) <:+: a ++ ' ' :: (u ++ ' ' :: b)
  | [], _, h => by
    rw [List.nil_append, List.infix_cons_iff] at h
    rcases h with h | h
    · rw [List.cons_prefix_cons] at h
      exact hwu (eq_of_spaced_start hw hu h.2)
    · exact spaced_not_infix_word hb hu h
  | d :: a, ha, h => by
    rw [List.cons_append, List.infix_cons_iff] at h
    rcases h with h | h
    · -- a space in `a` opens the word, which then runs out of `a`
      rw [List.cons_prefix_cons] at h
      have hpre : w <+: a ++ ' ' :: (u ++ ' ' :: b) := (List.prefix_append w [' ']).trans h.2
      exact not_prefix_append_of_head (fun h' => ha (h'.trans (List.suffix_cons d a).isInfix))
        (by simpa using hw) hpre
    · exact spaced_absent hw hu hwu hb (fun h' => ha (h'.trans (List.suffix_cons d a).isInfix)) h

/-- No occurrence of a spaceless word between spaces starts inside a stretch where the word does
not occur, when a space follows the stretch. -/
theorem spaced_not_prefix_drop (hw : ' ' ∉ w) {a : List Char} (ha : ¬ w <:+: a) (r : List Char) :
    ∀ j < a.length, ¬ (' ' :: (w ++ [' '])) <+: (a ++ ' ' :: r).drop j := by
  intro j hj h
  rw [List.drop_append_of_le_length (Nat.le_of_lt hj), List.drop_eq_getElem_cons hj,
    List.cons_append, List.cons_prefix_cons] at h
  have hpre : w <+: a.drop (j + 1) ++ ' ' :: r := (List.prefix_append w [' ']).trans h.2
  exact not_prefix_append_of_head (fun h' => ha (h'.trans (List.drop_suffix _ a).isInfix))
    (by simpa using hw) hpre

end Spaced

end Taskflow.Text
