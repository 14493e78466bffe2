import Taskflow.Steps.Extract
import Taskflow.Proofs.Text.Pieces
import Taskflow.Proofs.Text.Frames
import Mathlib.Data.List.Basic
/-!
Reading steps back from a list written one step a line.
-/

namespace Taskflow.Steps

open Text Pattern

/-! ## Lines -/

theorem stepsInText_empty : stepsInText "" = [] := by
  have h : splitOn "" "\n" = [""] := by
    unfold splitOn splitList
    rw [String.toList_empty, splitList.go]
    rfl
  rw [stepsInText, h]
  decide

theorem splitOn_join_newline {l : String} {ls : List String} (hl : '\n' ∉ l.toList)
    (hls : ∀ x ∈ ls, '\n' ∉ x.toList) : splitOn (join "\n" (l :: ls)) "\n" = l :: ls := by
  have hnl : "\n".toList = ['\n'] := by decide
  have hflat : ls.flatMap (fun t => "\n".toList ++ t.toList) = (ls.map String.toList).flatMap ('\n' :: ·) := by
    simp [hnl, List.flatMap_map]
  unfold splitOn join
  rw [toList_intercalate_cons, hflat, hnl, splitList_cons_flatMap hl (by simpa using hls)]
  simp

/-- Text written one line after another is read line by line. -/
theorem stepsInText_join : ∀ {ls : List String}, (∀ l ∈ ls, '\n' ∉ l.toList) →
    stepsInText (join "\n" ls) = ls.filterMap stepOfLine
  | [], _ => stepsInText_empty
  | l :: ls, h => by
    rw [stepsInText, splitOn_join_newline (h l List.mem_cons_self)
      fun x hx => h x (List.mem_cons_of_mem l hx)]

/-! ## The list mark -/

/-- A character that opens a list mark: a digit, a dot, a dash, a star or a plus. -/
def MarkChar (c : Char) : Prop := c.isDigit = true ∨ c ∈ ['.', '-', '*', '+']

instance : DecidablePred MarkChar := fun _ => inferInstanceAs (Decidable (_ ∨ _))

theorem MarkChar.ascii {c : Char} (hc : MarkChar c) : c.toNat < 128 := by
  rcases hc with hc | hc
  · have h := (Bool.and_eq_true_iff.1 hc).2
    simp only [decide_eq_true_eq, UInt32.le_iff_toNat_le] at h
    have h9 : ('9' : Char).val.toNat = 57 := rfl
    simp only [Char.toNat]
    omega
  · simp only [List.mem_cons, List.not_mem_nil, or_false] at hc
    rcases hc with rfl | rfl | rfl | rfl <;> decide

/-- What the reading of a line needs of the character that opens it. -/
theorem MarkChar.facts {c : Char} (hc : MarkChar c) :
    classAccepts {} [.digit, .single '.', .single '-', .single '*', .single '+'] c = true ∧
      isBlank c = false ∧ c.toLower = c ∧ c ∉ ['t', 's', 'r'] :=
  ascii_of_fin (P := fun c => MarkChar c →
    classAccepts {} [.digit, .single '.', .single '-', .single '*', .single '+'] c = true ∧
      isBlank c = false ∧ c.toLower = c ∧ c ∉ ['t', 's', 'r']) (by decide) hc.ascii hc

/-- A list mark and the blanks after it are a match at the start of the line. -/
theorem matchAt_listMark {c : Char}
    (hc : classAccepts {} [.digit, .single '.', .single '-', .single '*', .single '+'] c = true)
    {gap r : List Char} (hgap : ∀ x ∈ gap, isBlank x = true) (hr : ∀ d ∈ r.head?, isBlank d = false) :
    ∃ prev, matchAt {} listMark false 0 none (c :: (gap ++ r)) =
      some ⟨0, gap.length + 1, [], prev, r⟩ := by
  unfold matchAt listMark
  rw [run_seq_cons, run_lineStart_zero, run_seq_cons, (OneChar.oneOf {} _).take hc, seq_single,
    many]
  -- the blanks run greedily up to `r`, after which the match is accepted
  obtain ⟨prev, h⟩ := blank_oneChar.star_word_of_isSome (g := fun c => !(false && c.pos == 0))
    (k := []) (σ := []) gap r (0 + 1) (some c) hgap hr fun prev' => by rw [run_nil]; rfl
  refine ⟨prev, ?_⟩
  rw [h, run_nil]
  simp [Nat.add_comm]

/-- Replacing the list mark removes it and the blanks after it. -/
theorem replace_listMark {c : Char}
    (hc : classAccepts {} [.digit, .single '.', .single '-', .single '*', .single '+'] c = true)
    {gap r : List Char} (hgap : ∀ x ∈ gap, isBlank x = true) (hr : ∀ d ∈ r.head?, isBlank d = false) :
    Pattern.replace {} listMark "" (String.ofList (c :: (gap ++ r))) = String.ofList r := by
  obtain ⟨prev, hm⟩ := matchAt_listMark hc hgap hr
  have hall : findAll {} listMark (String.ofList (c :: (gap ++ r))).toList =
      [⟨0, gap.length + 1, [], prev, r⟩] := by
    rw [String.toList_ofList]
    exact findAll_anchored rfl _ _ hm (Nat.succ_pos _)
  rw [replace_of_findAll_single hall rfl, String.toList_ofList, String.empty_append]
  simp

/-! ## One line -/

/-- A line that opens with a list mark reads as the trimmed text after the mark and its blanks,
when that text names an action verb. -/
theorem stepOfLine_marked {c : Char} (hc : MarkChar c) {gap : List Char}
    (hgap : ∀ x ∈ gap, isBlank x = true) {t : String} (ht : Trimmed t.toList) (ht0 : t.toList ≠ [])
    (hv : actionVerbs.any (has (lower t)) = true) :
    stepOfLine (String.ofList (c :: (gap ++ t.toList))) = some t := by
  obtain ⟨hacc, hcb, hlow, hhead⟩ := hc.facts
  have hline : strip (String.ofList (c :: (gap ++ t.toList))) = String.ofList (c :: (gap ++ t.toList)) := by
    refine strip_eq_self ?_
    rw [String.toList_ofList, ← List.cons_append]
    exact Trimmed.prepend (by simp [hcb]) ht ht0
  have hlower := head?_lower_cons hc.ascii hlow (gap ++ t.toList)
  -- the line opens with a mark, so it is no heading
  have hheading : ∀ p ∈ ["task:", "steps:", "requirements:"],
      startsWith (lower (String.ofList (c :: (gap ++ t.toList)))) p = false := by
    intro p hp
    simp only [List.mem_cons, List.not_mem_nil, or_false] at hp
    rcases hp with rfl | rfl | rfl
    · exact startsWith_eq_false_of_head hlower (d := 't') (by decide) fun h => hhead (by simp [h])
    · exact startsWith_eq_false_of_head hlower (d := 's') (by decide) fun h => hhead (by simp [h])
    · exact startsWith_eq_false_of_head hlower (d := 'r') (by decide) fun h => hhead (by simp [h])
  have hcut : Pattern.replace {} listMark "" (String.ofList (c :: (gap ++ t.toList))) = t := by
    rw [replace_listMark hacc hgap ht.1, String.ofList_toList]
  have hempty : (String.ofList (c :: (gap ++ t.toList))).isEmpty = false :=
    isEmpty_of_head (by rw [String.toList_ofList]; rfl)
  unfold stepOfLine
  simp only [hline, hcut, strip_eq_self ht, hempty, hheading "task:" (by simp),
    hheading "steps:" (by simp), hheading "requirements:" (by simp), hv]
  simp

/-! ## Lists -/

def bulleted (b : Char) (s : String) : String := String.singleton b ++ " " ++ s

def numbered (d : Char) (n : Nat) (s : String) : String :=
  toString n ++ String.singleton d ++ " " ++ s

/-- A step as a list holds it: one trimmed line that names an action verb. -/
structure StepLine (s : String) : Prop where
  trimmed : Trimmed s.toList
  one_line : '\n' ∉ s.toList
  verb : actionVerbs.any (has (lower s)) = true

instance (s : String) : Decidable (StepLine s) :=
  decidable_of_iff (Trimmed s.toList ∧ '\n' ∉ s.toList ∧ actionVerbs.any (has (lower s)) = true)
    ⟨fun ⟨a, b, c⟩ => ⟨a, b, c⟩, fun h => ⟨h.1, h.2, h.3⟩⟩

theorem StepLine.ne_nil {s : String} (h : StepLine s) : s.toList ≠ [] := by
  intro h0
  rw [String.toList_eq_nil_iff] at h0
  subst h0
  exact absurd h.verb (by decide)

theorem toList_bulleted (b : Char) (s : String) :
    (bulleted b s).toList = b :: ' ' :: s.toList := by
  have hsp : " ".toList = [' '] := by decide
  simp [bulleted, hsp]

theorem toList_numbered (d : Char) (n : Nat) (s : String) :
    (numbered d n s).toList = Nat.toDigits 10 n ++ d :: ' ' :: s.toList := by
  have hsp : " ".toList = [' '] := by decide
  simp [numbered, hsp]

theorem stepOfLine_bulleted {b : Char} (hb : MarkChar b) {s : String} (hs : StepLine s) :
    stepOfLine (bulleted b s) = some s := by
  have hsp : isBlank ' ' = true := by decide
  have hgap : ∀ x ∈ [' '], isBlank x = true := fun x hx => by rw [List.mem_singleton.1 hx]; exact hsp
  rw [← String.ofList_toList (s := bulleted b s), toList_bulleted]
  exact stepOfLine_marked hb hgap hs.trimmed hs.ne_nil hs.verb

theorem stepOfLine_numbered {d : Char} (hd : d ∈ ['.', ')']) {s : String} (hs : StepLine s)
    (n : Nat) : stepOfLine (numbered d n s) = some (String.ofList (numbered d n s).toList.tail) := by
  obtain ⟨c, rest, hdig⟩ := List.exists_cons_of_ne_nil (Nat.toDigits_ne_nil (n := n) (b := 10))
  have hdigit : ∀ x ∈ c :: rest, MarkChar x := fun x hx =>
    Or.inl (Nat.isDigit_of_mem_toDigits (by decide) (by decide) (hdig ▸ hx))
  -- what follows the first digit: the other digits, the closing mark and a space, then the step
  have hw : ∀ x ∈ (String.ofList (rest ++ [d, ' '])).toList, x.toNat < 128 ∧ x.toLower = x := by
    intro x hx
    rw [String.toList_ofList, List.mem_append] at hx
    rcases hx with hx | hx
    · have hm := hdigit x (List.mem_cons_of_mem c hx)
      exact ⟨hm.ascii, hm.facts.2.2.1⟩
    · simp only [List.mem_cons, List.not_mem_nil, or_false] at hd hx
      rcases hx with rfl | rfl
      · rcases hd with rfl | rfl <;> decide
      · decide
  have hwt : ∀ x ∈ (rest ++ [d, ' ']).head?, isBlank x = false := by
    cases rest with
    | nil =>
      intro x hx
      obtain rfl : d = x := by simpa using hx
      simp only [List.mem_cons, List.not_mem_nil, or_false] at hd
      rcases hd with rfl | rfl <;> decide
    | cons e rest =>
      intro x hx
      obtain rfl : e = x := by simpa using hx
      exact (hdigit e (List.mem_cons_of_mem c List.mem_cons_self)).facts.2.1
  have hsplit : rest ++ d :: ' ' :: s.toList = (rest ++ [d, ' ']) ++ s.toList := by simp
  have ht : Trimmed (String.ofList (rest ++ d :: ' ' :: s.toList)).toList := by
    rw [String.toList_ofList, hsplit]
    exact Trimmed.prepend hwt hs.trimmed hs.ne_nil
  have hv : actionVerbs.any (has (lower (String.ofList (rest ++ d :: ' ' :: s.toList)))) = true := by
    have hlow := lower_append_of_lowerCase hw (by simp) s
    rw [← String.ofList_toList (s := s), ← String.ofList_append, ← hsplit, String.ofList_toList] at hlow
    rw [hlow]
    exact any_has_append _ hs.verb
  have hline : numbered d n s =
      String.ofList (c :: ([] ++ (String.ofList (rest ++ d :: ' ' :: s.toList)).toList)) := by
    rw [← String.ofList_toList (s := numbered d n s), toList_numbered, hdig, String.toList_ofList]
    rfl
  rw [hline, stepOfLine_marked (hdigit c List.mem_cons_self) (by simp) ht (by simp) hv]
  simp only [String.toList_ofList, List.nil_append, List.tail_cons]

example : stepOfLine (numbered '.' 12 "create the form") = some "2. create the form" := by
  rw [stepOfLine_numbered (by decide) (by decide) 12]
  decide

theorem newline_not_mem_bulleted {b : Char} (hb : b ≠ '\n') {s : String} (hs : '\n' ∉ s.toList) :
    '\n' ∉ (bulleted b s).toList := by
  rw [toList_bulleted]
  simp [Ne.symm hb, hs]

theorem newline_not_mem_numbered {d : Char} (hd : d ≠ '\n') (n : Nat) {s : String}
    (hs : '\n' ∉ s.toList) : '\n' ∉ (numbered d n s).toList := by
  have hdig : '\n' ∉ Nat.toDigits 10 n := fun h =>
    absurd (Nat.isDigit_of_mem_toDigits (by decide) (by decide) h) (by decide)
  rw [toList_numbered]
  simp [hdig, Ne.symm hd, hs]

/-- Steps listed one a line read back: after a bullet, each step as it is; after a number, each
line without the first digit of its number. -/
theorem stepsInText_lists {ss : List String} (hss : ∀ s ∈ ss, StepLine s) :
    (∀ b ∈ ['-', '*', '+'], stepsInText (join "\n" (ss.map (bulleted b))) = ss) ∧
      ∀ d ∈ ['.', ')'], stepsInText (join "\n" (ss.mapIdx fun i s => numbered d (i + 1) s)) =
        (ss.mapIdx fun i s => numbered d (i + 1) s).map fun l => String.ofList l.toList.tail := by
  constructor
  · intro b hb
    have hmark : MarkChar b := Or.inr (List.mem_cons_of_mem '.' hb)
    have hnl : ∀ l ∈ ss.map (bulleted b), '\n' ∉ l.toList := by
      intro l hl
      obtain ⟨s, hs, rfl⟩ := List.mem_map.1 hl
      exact newline_not_mem_bulleted (fun h => absurd (h ▸ hb) (by decide)) (hss s hs).one_line
    calc stepsInText (join "\n" (ss.map (bulleted b)))
        = ss.filterMap (stepOfLine ∘ bulleted b) := by rw [stepsInText_join hnl, List.filterMap_map]
      _ = ss.filterMap some := List.filterMap_congr fun s hs => by
          rw [Function.comp_apply]
          exact stepOfLine_bulleted hmark (hss s hs)
      _ = ss := List.filterMap_some
  · intro d hd
    have hstep : ∀ l ∈ ss.mapIdx (fun i s => numbered d (i + 1) s), '\n' ∉ l.toList ∧
        stepOfLine l = some (String.ofList l.toList.tail) := by
      intro l hl
      obtain ⟨i, hi, rfl⟩ := List.mem_mapIdx.1 hl
      have hs := hss _ (List.getElem_mem hi)
      exact ⟨newline_not_mem_numbered (fun h => absurd (h ▸ hd) (by decide)) _ hs.one_line,
        stepOfLine_numbered hd hs (i + 1)⟩
    rw [stepsInText_join fun l hl => (hstep l hl).1, ← List.filterMap_eq_map']
    exact List.filterMap_congr fun l hl => (hstep l hl).2

theorem stepsInText_lists_create_deploy :
    (∀ s ∈ ["create the login form", "deploy the app"], StepLine s) ∧
      (∀ b ∈ ['-', '*', '+'],
          stepsInText (join "\n" (["create the login form", "deploy the app"].map (bulleted b))) =
            ["create the login form", "deploy the app"]) ∧
        ∀ d ∈ ['.', ')'],
          stepsInText (join "\n"
              (["create the login form", "deploy the app"].mapIdx fun i s => numbered d (i + 1) s)) =
            (["create the login form", "deploy the app"].mapIdx fun i s => numbered d (i + 1) s).map
              fun l => String.ofList l.toList.tail :=
  have h : ∀ s ∈ ["create the login form", "deploy the app"], StepLine s := by decide
  ⟨h, stepsInText_lists h⟩

end Taskflow.Steps
