import Taskflow.Steps.Sentence
import Taskflow.Proofs.Task.Tidy
/-!
Cutting a text into sentences loses and repeats nothing.
-/

namespace Taskflow.Steps

open Text

/-! ## Stripping a piece -/

section Strip

theorem strip_isEmpty (x : List Char) : (strip (String.ofList x)).isEmpty = x.all isBlank := by
  unfold strip
  rw [String.toList_ofList, dropFront]
  cases hd : x.dropWhile isBlank with
  | nil =>
    -- nothing is left once the blanks in front are gone
    have hall : x.all isBlank = true := by
      simpa using List.dropWhile_eq_nil_iff.1 hd
    simp [hall, dropBack]
  | cons c r =>
    have hc : isBlank c = false := Task.head_dropWhile x c (by simp [hd])
    have hne : ¬ x.all isBlank = true := by
      intro hall
      rw [List.dropWhile_eq_nil_iff.2 (by simpa using hall)] at hd
      cases hd
    have hback : (dropBack isBlank (c :: r)).head? = some c := Task.head?_dropBack hc r
    cases hb : dropBack isBlank (c :: r) with
    | nil => simp [hb] at hback
    | cons _ _ => simp [hne]

theorem filter_strip (x : List Char) :
    (strip (String.ofList x)).toList.filter (fun c => !isBlank c) = x.filter (fun c => !isBlank c) := by
  have hfront : (x.takeWhile isBlank).filter (fun c => !isBlank c) = [] :=
    List.filter_eq_nil_iff.2 fun c hc => by simp [List.mem_takeWhile_imp hc]
  have hback : ∀ l : List Char, (dropBack isBlank l).filter (fun c => !isBlank c) =
      l.filter (fun c => !isBlank c) := by
    intro l
    -- the blanks dropped from the back are those a `takeWhile` of the reversed text keeps
    have hl : l = dropBack isBlank l ++ (l.reverse.takeWhile isBlank).reverse := by
      rw [dropBack, ← List.reverse_append, List.takeWhile_append_dropWhile, List.reverse_reverse]
    have hblanks : (l.reverse.takeWhile isBlank).filter (fun c => !isBlank c) = [] :=
      List.filter_eq_nil_iff.2 fun c hc => by simp [List.mem_takeWhile_imp hc]
    conv => rhs; rw [hl]
    rw [List.filter_append, List.filter_reverse, hblanks, List.reverse_nil, List.append_nil]
  simp only [strip, String.toList_ofList, hback, dropFront]
  conv => rhs; rw [← List.takeWhile_append_dropWhile (p := isBlank) (l := x)]
  rw [List.filter_append, hfront, List.nil_append]

theorem trimmed_strip (s : String) : Trimmed (strip s).toList := by
  unfold strip
  rw [String.toList_ofList]
  refine ⟨fun c hc => ?_, Task.getLast_dropBack isBlank _⟩
  cases hd : dropFront isBlank s.toList with
  | nil => simp [hd, dropBack] at hc
  | cons d r =>
    have hdb : isBlank d = false := Task.head_dropWhile s.toList d (by
      show d ∈ (dropFront isBlank s.toList).head?
      rw [hd]
      rfl)
    rw [hd, Task.head?_dropBack hdb r, Option.mem_some_iff] at hc
    rw [← hc]
    exact hdb

theorem strip_strip (s : String) : strip (strip s) = strip s := strip_eq_self (trimmed_strip s)

end Strip

/-! ## The cut -/

section Cut

/-- The sentences of the pieces closed at stops, then of what is left: a piece is stripped,
and what is left counts unless it is all blanks. -/
def cutSentences (segs : List (List Char)) (tail : List Char) : List String :=
  segs.map (fun s => strip (String.ofList s)) ++
    (if tail.all isBlank then [] else [strip (String.ofList tail)])

/-- The cutter's run from an open sentence `cur` (held reversed): the open sentence and the rest
of the text are pieces that each end in a stop, then what is left, and the sentences are those
of the pieces. -/
theorem sentencesFrom_cut (cs cur : List Char) :
    ∃ segs tail, cur.reverse ++ cs = segs.flatten ++ tail ∧
      (∀ s ∈ segs, s.getLast?.any isStop = true) ∧ sentencesFrom cs cur = cutSentences segs tail := by
  induction cs generalizing cur with
  | nil =>
    refine ⟨[], cur.reverse, by simp, by simp, ?_⟩
    simp only [sentencesFrom, cutSentences, strip_isEmpty, List.map_nil, List.nil_append]
  | cons c rest ih =>
    by_cases hcut : isStop c = true ∧ endsSentence rest = true
    · -- the open sentence closes at `c`, and the rest starts a new one
      obtain ⟨segs, tail, htext, hstops, hsent⟩ := ih []
      refine ⟨(cur.reverse ++ [c]) :: segs, tail, ?_, ?_, ?_⟩
      · simp only [List.reverse_nil, List.nil_append] at htext
        simp [htext]
      · intro s hs
        rcases List.mem_cons.1 hs with rfl | hs
        · simp [hcut.1]
        · exact hstops s hs
      · rw [sentencesFrom, if_pos hcut, hsent]
        simp [cutSentences]
    · obtain ⟨segs, tail, htext, hstops, hsent⟩ := ih (c :: cur)
      refine ⟨segs, tail, by simpa using htext, hstops, ?_⟩
      rw [sentencesFrom, if_neg hcut, hsent]

theorem strip_ne_empty_of_stop {s : List Char} (h : s.getLast?.any isStop = true) :
    strip (String.ofList s) ≠ "" := by
  obtain ⟨e, he, hstop⟩ := (Option.any_eq_true _ _).1 h
  have hblank : isBlank e = false := by
    simp only [isStop, decide_eq_true_eq] at hstop
    rcases hstop with rfl | rfl | rfl <;> decide
  intro hs
  have hall : s.all isBlank = true := by
    rw [← strip_isEmpty, hs]
    rfl
  have := List.all_eq_true.1 hall e (List.mem_of_getLast? he)
  rw [hblank] at this
  cases this

theorem cutSentences_facts {segs : List (List Char)} {tail : List Char}
    (hstops : ∀ s ∈ segs, s.getLast?.any isStop = true) :
    ∀ s ∈ cutSentences segs tail, s ≠ "" ∧ strip s = s := by
  intro s hs
  rcases List.mem_append.1 hs with hs | hs
  · obtain ⟨p, hp, rfl⟩ := List.mem_map.1 hs
    exact ⟨strip_ne_empty_of_stop (hstops p hp), strip_strip _⟩
  · split at hs
    · cases hs
    · next hne =>
      rw [List.mem_singleton.1 hs]
      refine ⟨fun h => hne ?_, strip_strip _⟩
      rw [← strip_isEmpty, h]
      rfl

theorem cutSentences_nonblank (segs : List (List Char)) (tail : List Char) :
    ((cutSentences segs tail).flatMap String.toList).filter (fun c => !isBlank c) =
      (segs.flatten ++ tail).filter (fun c => !isBlank c) := by
  have hsegs : ((segs.map fun s => strip (String.ofList s)).flatMap String.toList).filter
      (fun c => !isBlank c) = segs.flatten.filter (fun c => !isBlank c) := by
    induction segs with
    | nil => rfl
    | cons s segs ih => simp only [List.map_cons, List.flatMap_cons, List.filter_append,
        filter_strip, ih, List.flatten_cons]
  have htail : ((if tail.all isBlank then [] else [strip (String.ofList tail)]).flatMap
      String.toList).filter (fun c => !isBlank c) = tail.filter (fun c => !isBlank c) := by
    split
    · next hall =>
      -- a tail of blanks holds nothing to keep
      rw [List.flatMap_nil, List.filter_nil, eq_comm, List.filter_eq_nil_iff]
      intro c hc
      simpa using List.all_eq_true.1 hall c hc
    · simp [filter_strip]
  rw [cutSentences, List.flatMap_append, List.filter_append, hsegs, htail, List.filter_append]

end Cut

/-- Cutting a text into sentences loses and repeats nothing: the sentences are the stripped
pieces ending in a stop, then the stripped rest, and hold the text's non-blanks in order. -/
theorem sentences_cut (t : String) :
    (∃ (segs : List (List Char)) (tail : List Char), t.toList = segs.flatten ++ tail ∧ (∀ s ∈ segs, s.getLast?.any isStop = true) ∧
      sentences t = segs.map (fun s => strip (String.ofList s)) ++
        (if tail.all isBlank then [] else [strip (String.ofList tail)])) ∧
    (∀ s ∈ sentences t, s ≠ "" ∧ strip s = s) ∧
    ((sentences t).flatMap String.toList).filter (fun c => !isBlank c) =
      t.toList.filter (fun c => !isBlank c) := by
  obtain ⟨segs, tail, htext, hstops, hsent⟩ := sentencesFrom_cut t.toList []
  rw [List.reverse_nil, List.nil_append] at htext
  have ht : sentences t = cutSentences segs tail := hsent
  refine ⟨⟨segs, tail, htext, hstops, ht⟩, ht ▸ cutSentences_facts hstops, ?_⟩
  rw [ht, cutSentences_nonblank, htext]

end Taskflow.Steps
