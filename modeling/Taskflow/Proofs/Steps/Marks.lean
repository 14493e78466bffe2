import Taskflow.Steps.Marked
import Taskflow.Proofs.Text.Replace
import Taskflow.Proofs.Steps.Sentences
/-!
Cleaning the marks out of a step text.
-/

namespace Taskflow.Steps

open Text

def MarkFree (s : String) : Prop := ∀ m ∈ marks, has s m = false

instance (s : String) : Decidable (MarkFree s) := inferInstanceAs (Decidable (∀ m ∈ marks, _))

theorem marks_spaceless : ∀ m ∈ marks, ' ' ∉ m.toList := by decide

theorem marks_nodup : marks.Nodup := by decide

theorem mark_inside_mark : ∀ m ∈ marks, ∀ t ∈ marks, has t m = true →
    m = t ∨ (m = "CORRECT" ∧ t = "INCORRECT") := by decide

theorem not_infix_of_has {s m : String} (h : has s m = false) : ¬ m.toList <:+: s.toList :=
  fun hi => by simp [has_iff.2 hi] at h

theorem toList_spaced (a t b : String) :
    (a ++ " " ++ t ++ " " ++ b).toList = a.toList ++ ' ' :: (t.toList ++ ' ' :: b.toList) := by
  simp

theorem toList_space (a b : String) : (a ++ " " ++ b).toList = a.toList ++ ' ' :: b.toList := by
  simp

theorem toList_spaced_word (m : String) : (" " ++ m ++ " ").toList = ' ' :: (m.toList ++ [' ']) := by
  simp

theorem infix_spaced_word (m : String) : m.toList <:+: ' ' :: (m.toList ++ [' ']) :=
  ⟨[' '], [' '], by simp⟩

theorem prefix_space_after (m : String) : m.toList <+: (m ++ " ").toList := ⟨[' '], by simp⟩

theorem prefix_reverse_space_before (m : String) : m.toList.reverse <+: (" " ++ m).toList.reverse :=
  ⟨[' '], by simp⟩

/-! ## One pass -/

section Pass

theorem removeMark_of_absent {s m : String} (h : ¬ m.toList <:+: s.toList) : removeMark s m = s := by
  have h1 : Text.replace s (" " ++ m ++ " ") " " = s := by
    rw [Text.replace, replaceList_of_absent, String.ofList_toList]
    rw [toList_spaced_word]
    exact fun hi => h ((infix_spaced_word m).trans hi)
  have h2 : startsWith s (m ++ " ") = false := by
    rw [← Bool.not_eq_true, startsWith_iff]
    exact fun hp => h ((prefix_space_after m).trans hp).isInfix
  have h3 : endsWith s (" " ++ m) = false := by
    rw [← Bool.not_eq_true, endsWith, List.isPrefixOf_iff_prefix]
    intro hp
    exact h (List.reverse_infix.1 ((prefix_reverse_space_before m).trans hp).isInfix)
  have h4 : Text.replace s m "" = s := by
    rw [Text.replace, replaceList_of_absent h, String.ofList_toList]
  simp only [removeMark, h1, h2, h3, h4, Bool.false_eq_true, ↓reduceIte]

/-- A pass depends on the text only through what its first step, the removal between spaces,
leaves. -/
theorem removeMark_congr {s s' m : String}
    (h : Text.replace s (" " ++ m ++ " ") " " = Text.replace s' (" " ++ m ++ " ") " ") :
    removeMark s m = removeMark s' m := by
  simp only [removeMark, h]

section Word

variable {a b m : String} (hm : ' ' ∉ m.toList) (ha : ¬ m.toList <:+: a.toList)
  (hb : ¬ m.toList <:+: b.toList)
include hm ha hb

theorem removeMark_between_self :
    removeMark (a ++ " " ++ m ++ " " ++ b) m = a ++ " " ++ b := by
  have hab : ¬ m.toList <:+: (a ++ " " ++ b).toList := by
    rw [toList_space]
    exact not_infix_append_sep hm ha hb
  have hword : ¬ (' ' :: (m.toList ++ [' '])) <:+: b.toList := fun h =>
    hb ((infix_spaced_word m).trans h)
  have hword' : ¬ (' ' :: (m.toList ++ [' '])) <:+: (a ++ " " ++ b).toList := fun h =>
    hab ((infix_spaced_word m).trans h)
  -- the first step takes the word and its first space; on `a ++ " " ++ b` it finds nothing
  have hfirst : Text.replace (a ++ " " ++ m ++ " " ++ b) (" " ++ m ++ " ") " " =
      Text.replace (a ++ " " ++ b) (" " ++ m ++ " ") " " := by
    have hrest : ' ' :: (m.toList ++ ' ' :: b.toList) = ' ' :: (m.toList ++ [' ']) ++ b.toList := by
      simp
    rw [Text.replace, Text.replace, toList_spaced_word, replaceList_of_absent hword',
      toList_spaced, replaceList_append_of_clear _ (spaced_not_prefix_drop hm ha _), hrest,
      replaceList_of_prefix (List.cons_ne_nil _ _), replaceList_of_absent hword, toList_space]
    rfl
  rw [removeMark_congr hfirst, removeMark_of_absent hab]

theorem removeMark_between_other {u : String} (hu : ' ' ∉ u.toList) (hum : u ≠ m) :
    removeMark (a ++ " " ++ u ++ " " ++ b) m = a ++ " " ++ Text.replace u m "" ++ " " ++ b := by
  have hum' : m.toList ≠ u.toList := fun h => hum (String.toList_inj.1 h).symm
  have hm' : ' ' ∉ m.toList.reverse := by simpa using hm
  have h1 : Text.replace (a ++ " " ++ u ++ " " ++ b) (" " ++ m ++ " ") " " =
      a ++ " " ++ u ++ " " ++ b := by
    rw [Text.replace, replaceList_of_absent, String.ofList_toList]
    rw [toList_spaced_word, toList_spaced]
    exact spaced_absent hm hu hum' hb ha
  have h2 : startsWith (a ++ " " ++ u ++ " " ++ b) (m ++ " ") = false := by
    rw [← Bool.not_eq_true, startsWith_iff, toList_spaced]
    intro hp
    have hp' : m.toList <+: a.toList ++ ' ' :: (u.toList ++ ' ' :: b.toList) :=
      (prefix_space_after m).trans hp
    exact not_prefix_append_of_head ha (by simpa using hm) hp'
  have h3 : endsWith (a ++ " " ++ u ++ " " ++ b) (" " ++ m) = false := by
    rw [← Bool.not_eq_true, endsWith, List.isPrefixOf_iff_prefix, toList_spaced]
    intro hp
    have hrev : m.toList.reverse <+:
        b.toList.reverse ++ ' ' :: (u.toList.reverse ++ ' ' :: a.toList.reverse) :=
      (prefix_reverse_space_before m).trans (by simpa using hp)
    exact not_prefix_append_of_head (fun h => hb (List.reverse_infix.1 h)) (by simpa using hm') hrev
  have h4 : Text.replace (a ++ " " ++ u ++ " " ++ b) m "" = a ++ " " ++ Text.replace u m "" ++ " " ++ b := by
    apply String.toList_injective
    simp only [Text.replace, String.toList_ofList, toList_spaced]
    rw [replaceList_append_sep hm, replaceList_append_sep hm, replaceList_of_absent ha,
      replaceList_of_absent hb]
  simp only [removeMark, h1, h2, h3, h4, Bool.false_eq_true, ↓reduceIte]

end Word

end Pass

/-! ## All the passes -/

section Passes

theorem MarkFree.space_append {a b : String} (ha : MarkFree a) (hb : MarkFree b) :
    MarkFree (a ++ " " ++ b) := fun m hm => by
  rw [← Bool.not_eq_true, has_iff, toList_space]
  exact not_infix_append_sep (marks_spaceless m hm) (not_infix_of_has (ha m hm))
    (not_infix_of_has (hb m hm))

theorem removeMarks_free {s : String} (h : MarkFree s) : marks.foldl removeMark s = s :=
  foldl_eq_self fun m hm => removeMark_of_absent (not_infix_of_has (h m hm))

/-- A pass of a mark that is in none of the three words leaves them as they are. -/
theorem removeMark_between_absent {a b t m : String} (ha : MarkFree a) (hb : MarkFree b)
    (hm : m ∈ marks) (ht : has t m = false) :
    removeMark (a ++ " " ++ t ++ " " ++ b) m = a ++ " " ++ t ++ " " ++ b := by
  have hms := marks_spaceless m hm
  apply removeMark_of_absent
  rw [toList_spaced]
  exact not_infix_append_sep hms (not_infix_of_has (ha m hm))
    (not_infix_append_sep hms (not_infix_of_has ht) (not_infix_of_has (hb m hm)))

/-- A mark standing as a word between mark-free texts is removed whole, when no mark removed
before it occurs inside it. -/
theorem removeMarks_between {a b t : String} (ha : MarkFree a) (hb : MarkFree b)
    (ht : t ∈ marks) (hne : t ≠ "INCORRECT") :
    marks.foldl removeMark (a ++ " " ++ t ++ " " ++ b) = a ++ " " ++ b := by
  obtain ⟨pre, post, hsplit⟩ := List.append_of_mem ht
  have hts := marks_spaceless t ht
  -- the marks before `t` are other marks, none inside `t`
  have hpre : ∀ m ∈ pre, has t m = false := fun m hm => by
    have hmarks : m ∈ marks := hsplit ▸ List.mem_append_left _ hm
    have htpre : t ∉ pre := by
      have := marks_nodup
      rw [hsplit, List.nodup_append] at this
      exact fun h => this.2.2 t h t List.mem_cons_self rfl
    cases hmt : has t m with
    | false => rfl
    | true =>
      rcases mark_inside_mark m hmarks t ht hmt with rfl | ⟨-, rfl⟩
      · exact absurd hm htpre
      · exact absurd rfl hne
  rw [hsplit, List.foldl_append,
    foldl_eq_self fun m hm => removeMark_between_absent ha hb (hsplit ▸ List.mem_append_left _ hm)
      (hpre m hm),
    List.foldl_cons, removeMark_between_self hts (not_infix_of_has (ha t ht))
      (not_infix_of_has (hb t ht)),
    foldl_eq_self fun m hm => removeMark_of_absent
      (not_infix_of_has ((ha.space_append hb) m (hsplit ▸ List.mem_append_right _
        (List.mem_cons_of_mem t hm))))]

/-- `INCORRECT` between mark-free texts leaves `IN`: `CORRECT` is removed before it and takes
the end of the word. -/
theorem removeMarks_incorrect_between {a b : String} (ha : MarkFree a) (hb : MarkFree b) :
    marks.foldl removeMark (a ++ " " ++ "INCORRECT" ++ " " ++ b) = a ++ " " ++ "IN" ++ " " ++ b := by
  have hsplit : marks = ["[SEQ_1]", "[SEQ_2]", "[SEQ_3]", "[IF]"] ++ "CORRECT" :: ["INCORRECT"] :=
    rfl
  have hcut : Text.replace "INCORRECT" "CORRECT" "" = "IN" := by decide +kernel
  have hIN : MarkFree "IN" := by decide
  rw [hsplit, List.foldl_append,
    foldl_eq_self fun m hm => removeMark_between_absent ha hb (hsplit ▸ List.mem_append_left _ hm)
      (by revert m; decide),
    List.foldl_cons, removeMark_between_other (by decide) (not_infix_of_has (ha _ (by decide)))
      (not_infix_of_has (hb _ (by decide))) (by decide) (by decide), hcut,
    List.foldl_cons, List.foldl_nil,
    removeMark_of_absent (not_infix_of_has (((ha.space_append hIN).space_append hb) _ (by decide)))]

theorem cleanSentence_congr {s s' : String}
    (h : marks.foldl removeMark s = marks.foldl removeMark s') : cleanSentence s = cleanSentence s' := by
  simp only [cleanSentence, h]

/-- A mark standing as a word between two mark-free texts is removed whole: the text cleans as
the two texts joined by a space. The exception is `INCORRECT`, which leaves `IN` behind. -/
theorem cleanSentence_mark_between {a b : String} (ha : MarkFree a) (hb : MarkFree b) :
    (∀ t ∈ marks, t ≠ "INCORRECT" →
        cleanSentence (a ++ " " ++ t ++ " " ++ b) = cleanSentence (a ++ " " ++ b)) ∧
      cleanSentence (a ++ " " ++ "INCORRECT" ++ " " ++ b) =
        cleanSentence (a ++ " " ++ "IN" ++ " " ++ b) := by
  have hIN : MarkFree "IN" := by decide
  refine ⟨fun t ht hne => cleanSentence_congr ?_, cleanSentence_congr ?_⟩
  · rw [removeMarks_between ha hb ht hne, removeMarks_free (ha.space_append hb)]
  · rw [removeMarks_incorrect_between ha hb,
      removeMarks_free ((ha.space_append hIN).space_append hb)]

theorem cleanSentence_mark_between_login_retry :
    (MarkFree "login" ∧ MarkFree "retry") ∧
      ((∀ t ∈ marks, t ≠ "INCORRECT" →
          cleanSentence ("login" ++ " " ++ t ++ " " ++ "retry") = cleanSentence ("login" ++ " " ++ "retry")) ∧
        cleanSentence ("login" ++ " " ++ "INCORRECT" ++ " " ++ "retry") =
          cleanSentence ("login" ++ " " ++ "IN" ++ " " ++ "retry")) :=
  have ha : MarkFree "login" := by decide
  have hb : MarkFree "retry" := by decide
  ⟨⟨ha, hb⟩, cleanSentence_mark_between ha hb⟩

end Passes

end Taskflow.Steps
