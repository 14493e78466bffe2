import Taskflow.Proofs.Plan.ConcernMatch
/-!
Where the search for findings goes on after a match.
-/

namespace Taskflow.Plan

open Text Pattern

section Opens

/-- A match could start here: a dash, then, after blanks, `concern:` in any case. -/
def Opens (y : List Char) : Prop :=
  ∃ z, y = '-' :: z ∧ "concern:".toList <+: (z.dropWhile isBlank).map Char.toLower

theorem lower_isPrefix_of_spells {w u : List Char} (hw : ∀ c ∈ w, c.toNat < 128)
    (hu : ∀ c ∈ u, c.toNat < 128) (h : spells .caseless w u = true) :
    w.map Char.toLower <+: u.map Char.toLower := by
  induction w generalizing u with
  | nil => exact List.nil_prefix
  | cons c cs ih =>
    cases u with
    | nil => simp [spells] at h
    | cons d ds =>
      simp only [spells, Bool.and_eq_true] at h
      rw [litAccepts_caseless (hw c List.mem_cons_self) (hu d List.mem_cons_self)] at h
      rw [List.map_cons, List.map_cons, List.cons_prefix_cons]
      exact ⟨by simpa using h.1, ih (fun x hx => hw x (List.mem_cons_of_mem c hx))
        (fun x hx => hu x (List.mem_cons_of_mem d hx)) h.2⟩

theorem concern_lower : "Concern:".toList.map Char.toLower = "concern:".toList := by
  decide

theorem dash_refuses {d : Char} (hd : d.toNat < 128) (hne : d ≠ '-') :
    litAccepts .caseless '-' d = false := by
  rw [litAccepts_caseless (by decide) hd]
  exact ascii_of_fin (P := fun d => d ≠ '-' → ('-'.toLower == d.toLower) = false) (by decide)
    hd hne

theorem label_refuses_blank {d : Char} (hd : d.toNat < 128) (hb : isBlank d = true) :
    litAccepts .caseless 'C' d = false := by
  rw [litAccepts_caseless (by decide) hd]
  exact ascii_of_fin (P := fun d => isBlank d = true → ('C'.toLower == d.toLower) = false)
    (by decide) hd hb

variable {g : Cursor → Bool} {k : List Frame} {σ : List (Nat × Nat × Nat)}

/-- Past the dash, the blanks and the label match only where the label follows the blanks. -/
theorem run_blanks_label_none {z : List Char} (hz : ∀ c ∈ z, c.toNat < 128)
    (h : ¬ "concern:".toList <+: (z.dropWhile isBlank).map Char.toLower) (q : Pattern)
    (qs : List Pattern) (pos : Nat) (prev : Option Char) :
    runFrames .caseless g (.run (.many .blank) :: .run (seq (.str "Concern:" :: q :: qs)) :: k)
      pos prev z σ = none := by
  -- one blank at a time: the label is tried, and refused, at every blank
  induction z generalizing pos prev with
  | nil =>
    rw [Pattern.many, blank_caseless_oneChar.star_end, run_seq_cons, Pattern.str]
    exact run_word_none _ _ _ _ (by decide)
  | cons c z ih =>
    have hc := hz c List.mem_cons_self
    have hz' : ∀ x ∈ z, x.toNat < 128 := fun x hx => hz x (List.mem_cons_of_mem c hx)
    cases hb : isBlank c with
    | false =>
      have hdrop : (c :: z).dropWhile isBlank = c :: z := by simp [hb]
      rw [Pattern.many, blank_caseless_oneChar.star_stop (by rw [blank_caseless hc, hb]), run_seq_cons,
        Pattern.str]
      apply run_word_none
      cases hs : spells .caseless "Concern:".toList (c :: z) with
      | false => rfl
      | true =>
        have hp := lower_isPrefix_of_spells (by simp) hz hs
        rw [concern_lower, ← hdrop] at hp
        exact absurd hp h
    | true =>
      have hdrop : (c :: z).dropWhile isBlank = z.dropWhile isBlank := by simp [hb]
      have hlabel : runFrames .caseless g (.run (seq (.str "Concern:" :: q :: qs)) :: k) pos prev
          (c :: z) σ = none := by
        rw [run_seq_cons, Pattern.str]
        apply run_word_none
        rw [show "Concern:".toList = 'C' :: "oncern:".toList from rfl, spells,
          label_refuses_blank hc hb, Bool.false_and]
      rw [Pattern.many, blank_caseless_oneChar.star_cons (by rw [blank_caseless hc, hb]), ← Pattern.many,
        ih hz' (by rwa [← hdrop]), Option.none_or, hlabel]

/-- No match starts where no match could start. -/
theorem matchAt_none_of_not_opens {y : List Char} (hy : ∀ c ∈ y, c.toNat < 128) (h : ¬ Opens y)
    (pos : Nat) (prev : Option Char) :
    matchAt .caseless concernPattern false pos prev y = none := by
  suffices hrun : runFrames .caseless (fun c => !(false && c.pos == pos)) [.run concernPattern]
      pos prev y [] = none by
    rw [matchAt, hrun]
    rfl
  rw [concernPattern_eq, run_seq_cons]
  cases y with
  | nil => exact (OneChar.lit _ _).nil _ _ _ _ _
  | cons d z =>
    by_cases hd : d = '-'
    · subst hd
      rw [(OneChar.lit _ _).take (litAccepts_self _ _), run_seq_cons]
      exact run_blanks_label_none (fun c hc => hy c (List.mem_cons_of_mem _ hc))
        (fun hp => h ⟨z, rfl, hp⟩) _ _ _ _
    · exact (OneChar.lit _ _).refuse (dash_refuses (hy d List.mem_cons_self) hd) _ _ _

end Opens

section Lines

/-- No dash of the text is followed, after blanks on its line, by `concern:` in any case. -/
def DashQuiet : List Char → Prop
  | [] => True
  | c :: l => (c = '-' → ¬ "concern:".toList <+: (l.dropWhile isBlank).map Char.toLower ++ ['\n'])
      ∧ DashQuiet l

/-- After blanks, the text does not go on with a `c` in any case. -/
def Calm (w : List Char) : Prop := ∀ c ∈ (w.dropWhile isBlank).head?, c.toLower ≠ 'c'

instance (w : List Char) : Decidable (Calm w) :=
  inferInstanceAs (Decidable (∀ c ∈ (w.dropWhile isBlank).head?, c.toLower ≠ 'c'))

def linesText (L : List (List Char)) : List Char := L.flatMap ('\n' :: ·)

theorem linesText_cons (l : List Char) (L : List (List Char)) :
    linesText (l :: L) = '\n' :: (l ++ linesText L) := by
  simp [linesText]

theorem newline_blank : isBlank '\n' = true := by decide

theorem newline_lower : '\n'.toLower = '\n' := by decide

theorem isPrefix_of_append_cons {p a w : List Char} {c : Char} (hc : c ∉ p)
    (h : p <+: a ++ c :: w) : p <+: a := by
  by_cases hlen : p.length ≤ a.length
  · exact List.prefix_of_prefix_length_le h (List.prefix_append a (c :: w)) hlen
  · obtain ⟨t, rfl⟩ := List.prefix_of_prefix_length_le (List.prefix_append a (c :: w)) h
      (by omega)
    have ht : t <+: c :: w := (List.prefix_append_right_inj a).mp h
    cases t with
    | nil => simp at hlen
    | cons d t =>
      rw [List.cons_prefix_cons] at ht
      exact absurd (ht.1 ▸ List.mem_append_right a List.mem_cons_self) hc

theorem Calm.not_opens {w : List Char} (hw : Calm w) :
    ¬ "concern:".toList <+: (w.dropWhile isBlank).map Char.toLower := by
  intro h
  cases hd : w.dropWhile isBlank with
  | nil =>
    rw [hd] at h
    simp at h
  | cons c u =>
    rw [hd, show "concern:".toList = 'c' :: "oncern:".toList from rfl, List.map_cons,
      List.cons_prefix_cons] at h
    exact hw c (by simp [hd]) h.1.symm

theorem Calm.newline {w : List Char} (hw : Calm w) : Calm ('\n' :: w) := by
  intro c hc
  rw [List.dropWhile_cons, if_pos newline_blank] at hc
  exact hw c hc

theorem Calm.append {a : List Char} (ha : Calm a) (hne : a.dropWhile isBlank ≠ [])
    (w : List Char) : Calm (a ++ w) := by
  obtain ⟨d, ds, hd⟩ := List.exists_cons_of_ne_nil hne
  intro c hc
  rw [List.dropWhile_append, hd] at hc
  simp only [List.isEmpty_cons, Bool.false_eq_true, if_false, List.cons_append, List.head?_cons,
    Option.mem_def, Option.some.injEq] at hc
  exact ha c (by simp [hd, hc])

theorem Calm.line {l : List Char} (hl : Calm l) {w : List Char} (hw : Calm w) :
    Calm ('\n' :: (l ++ w)) := by
  apply Calm.newline
  by_cases hne : l.dropWhile isBlank = []
  · intro c hc
    rw [List.dropWhile_append, hne] at hc
    exact hw c hc
  · exact hl.append hne w

theorem calm_linesText (L : List (List Char)) (hL : ∀ l ∈ L, Calm l) {next : List Char}
    (hnext : Calm next) : Calm (linesText L ++ '\n' :: next) := by
  induction L with
  | nil => exact hnext.newline
  | cons l L ih =>
    rw [linesText_cons, List.cons_append, List.append_assoc]
    exact (hL l List.mem_cons_self).line (ih fun l' h => hL l' (List.mem_cons_of_mem l h))

theorem not_opens_line {l : List Char} (hl : DashQuiet l) {w : List Char} (hw : Calm ('\n' :: w)) :
    ∀ j < l.length, ¬ Opens (l.drop j ++ '\n' :: w) := by
  induction l with
  | nil => intro j hj; simp at hj
  | cons c l ih =>
    intro j hj
    cases j with
    | zero =>
      rintro ⟨z, hz, hp⟩
      simp only [List.drop_zero, List.cons_append, List.cons.injEq] at hz
      obtain ⟨rfl, rfl⟩ := hz
      -- blanks to the end of the line run on into the next one, which is calm
      rw [List.dropWhile_append] at hp
      split at hp
      · exact hw.not_opens hp
      · rw [List.map_append, List.map_cons, newline_lower] at hp
        exact hl.1 rfl ((isPrefix_of_append_cons (by decide) hp).trans (List.prefix_append _ _))
    | succ j => exact ih hl.2 j (by simpa using hj)

/-- In lines that are each dash-quiet and calm, followed by a calm text, no match opens. -/
theorem not_opens_lines (L : List (List Char)) (hL : ∀ l ∈ L, DashQuiet l ∧ Calm l)
    {next : List Char} (hnext : Calm next) :
    ∀ j < (linesText L).length + 1, ¬ Opens ((linesText L ++ '\n' :: next).drop j) := by
  induction L with
  | nil =>
    intro j hj
    obtain rfl : j = 0 := by simpa [linesText] using hj
    rintro ⟨z, hz, -⟩
    simp [linesText] at hz
  | cons l L ih =>
    have hl := hL l List.mem_cons_self
    have hL' : ∀ l' ∈ L, DashQuiet l' ∧ Calm l' := fun l' h => hL l' (List.mem_cons_of_mem l h)
    have hlen : (linesText (l :: L)).length = l.length + 1 + (linesText L).length := by
      simp [linesText]
      omega
    -- what follows the line opens with a line end, and is calm
    obtain ⟨w, hw⟩ : ∃ w, linesText L ++ '\n' :: next = '\n' :: w := by
      cases L with
      | nil => exact ⟨next, rfl⟩
      | cons l' L => exact ⟨l' ++ (linesText L ++ '\n' :: next), by simp [linesText]⟩
    have hcalm : Calm ('\n' :: w) := hw ▸ calm_linesText L (fun l' h => (hL' l' h).2) hnext
    intro j hj
    rw [linesText_cons, List.cons_append, List.append_assoc]
    rcases j with _ | j
    · rintro ⟨z, hz, -⟩
      simp at hz
    · rw [List.drop_succ_cons]
      by_cases hjl : j < l.length
      · rw [List.drop_append_of_le_length (Nat.le_of_lt hjl), hw]
        exact not_opens_line hl.1 hcalm j hjl
      · rw [List.drop_append, List.drop_eq_nil_of_le (by omega), List.nil_append]
        exact ih hL' (j - l.length) (by omega)

end Lines

section Rest

theorem dashQuiet_append {a : List Char} (ha : '-' ∉ a) {x : List Char} (hx : DashQuiet x) :
    DashQuiet (a ++ x) := by
  induction a with
  | nil => exact hx
  | cons c a ih =>
    have hc : c ≠ '-' := fun h => ha (h ▸ List.mem_cons_self)
    exact ⟨fun h => absurd h hc, ih fun h => ha (List.mem_cons_of_mem c h)⟩

theorem dashQuiet_of_dash_free {a : List Char} (ha : '-' ∉ a) : DashQuiet a := by
  simpa using dashQuiet_append ha (x := []) trivial

theorem Quiet.not_isPrefix {x u : List Char} (hx : Quiet x) (hu : u <:+ x) :
    ¬ "concern:".toList <+: u.map Char.toLower ++ ['\n'] := fun h =>
  hx ((isPrefix_of_append_cons (by decide) h).isInfix.trans (hu.map _).isInfix)

theorem Quiet.dashQuiet {x : List Char} (hx : Quiet x) : DashQuiet x := by
  induction x with
  | nil => trivial
  | cons c l ih =>
    have hl : Quiet l := fun h => hx (List.infix_cons h)
    exact ⟨fun _ => hx.not_isPrefix ((List.dropWhile_suffix isBlank).trans (List.suffix_cons c l)),
      ih hl⟩

theorem PlainText.dropWhile_blank {x : List Char} (hx : PlainText x) : x.dropWhile isBlank = x := by
  cases x with
  | nil => rfl
  | cons c x => rw [List.dropWhile_cons, if_neg (by simp [hx.head c rfl])]

/-- What is left of a finding after its `- Concern:` line, line by line. -/
def Finding.restLines (f : Finding) : List (List Char) :=
  ("  Type: ".toList ++ f.kind) :: ("  Similarity: ".toList ++ f.similarity) ::
    "  Evidence:".toList :: f.evidence.map ("    - ".toList ++ ·)

theorem Finding.linesText_restLines (f : Finding) :
    linesText f.restLines = f.fields ++ evidenceText f.lines := by
  unfold linesText Finding.restLines Finding.fields evidenceText Finding.lines
  simp [List.flatMap_map, evidenceLine]

theorem evidence_line_quiet {e : List Char} (he : PlainText e) (hq : Quiet e) :
    DashQuiet ("    - ".toList ++ e) ∧ Calm ("    - ".toList ++ e) := by
  have hdrop : (' ' :: e).dropWhile isBlank = e := by
    rw [List.dropWhile_cons, if_pos (by decide), he.dropWhile_blank]
  refine ⟨?_, Calm.append (by simp [Calm, isBlank]) (by simp [isBlank]) e⟩
  rw [show "    - ".toList ++ e = "    ".toList ++ '-' :: ' ' :: e from rfl]
  refine dashQuiet_append (by decide) ⟨fun _ => ?_, fun h => absurd h (by decide), hq.dashQuiet⟩
  rw [hdrop]
  exact hq.not_isPrefix (List.suffix_refl e)

theorem Finding.Plain.restLines {f : Finding} (hf : f.Plain) :
    ∀ l ∈ f.restLines, DashQuiet l ∧ Calm l := by
  intro l hl
  simp only [Finding.restLines, List.mem_cons, List.mem_map] at hl
  rcases hl with rfl | rfl | rfl | ⟨e, he, rfl⟩
  · exact ⟨dashQuiet_append (by decide) hf.kind_quiet.dashQuiet,
      Calm.append (by simp [Calm, isBlank]) (by simp [isBlank]) _⟩
  · have hdash : '-' ∉ f.similarity := fun h => absurd (hf.similarity _ h) (by decide)
    exact ⟨dashQuiet_append (by decide) (dashQuiet_of_dash_free hdash),
      Calm.append (by simp [Calm, isBlank]) (by simp [isBlank]) _⟩
  · exact ⟨dashQuiet_of_dash_free (by decide), by simp [Calm, isBlank]⟩
  · exact evidence_line_quiet (hf.evidence e he).1 (hf.evidence e he).2

end Rest

end Taskflow.Plan
