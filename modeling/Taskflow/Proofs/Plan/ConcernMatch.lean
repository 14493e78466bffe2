import Taskflow.Plan.Audit
import Taskflow.Proofs.Text.Frames
/-!
The concern pattern, run by hand over findings written as the stub writes them.
-/

namespace Taskflow.Plan

open Text Pattern

section Checks

theorem forall_mem_of_all {l : List Char} {P : Char → Prop} [DecidablePred P]
    (h : l.all (fun c => decide (P c)) = true) : ∀ c ∈ l, P c :=
  fun c hc => of_decide_eq_true (List.all_eq_true.1 h c hc)

theorem forall_mem_head_of_all {l : List Char} {P : Char → Prop} [DecidablePred P]
    (h : (l.take 1).all (fun c => decide (P c)) = true) : ∀ c ∈ l.head?, P c := by
  intro c hc
  cases l with
  | nil => cases hc
  | cons d l =>
    rw [List.head?_cons, Option.mem_some_iff] at hc
    subst hc
    exact forall_mem_of_all h d (by simp)

end Checks

/-- A finding as the stub writes it: a concern tag, a type, a similarity score and evidence. -/
structure Finding where
  concern : List Char
  kind : List Char
  similarity : List Char
  evidence : List (List Char)

/-- An evidence line: a line end, an indent, a dash, a blank and the item. -/
def evidenceLine (line : List Char × List Char) : List Char := '\n' :: line.1 ++ '-' :: ' ' :: line.2

def evidenceText (lines : List (List Char × List Char)) : List Char := lines.flatMap evidenceLine

def Finding.head (f : Finding) : List Char := "- Concern: ".toList ++ f.concern

/-- The finding's `Type:`, `Similarity:` and `Evidence:` lines, each after a line end. -/
def Finding.fields (f : Finding) : List Char :=
  "\n  Type: ".toList ++ f.kind ++ "\n  Similarity: ".toList ++ f.similarity ++
    "\n  Evidence:".toList

def Finding.lines (f : Finding) : List (List Char × List Char) :=
  f.evidence.map fun e => ("    ".toList, e)

/-- A finding as the stub writes it, each line ended by a line end. -/
def Finding.text (f : Finding) : List Char := f.head ++ f.fields ++ evidenceText f.lines ++ ['\n']

def findingsText (fs : List Finding) : List Char := fs.flatMap Finding.text

theorem newline_head (f : Finding) :
    '\n' :: f.head = evidenceLine ([], "Concern: ".toList ++ f.concern) := rfl

/-- The text of a line that the parser reads back as it is: ASCII, not empty, with no line end
in it and no blank at either end. -/
structure PlainText (x : List Char) : Prop where
  ascii : ∀ c ∈ x, c.toNat < 128
  no_break : ∀ c ∈ x, isLineBreak c = false
  ne_nil : x ≠ []
  head : ∀ c ∈ x.head?, isBlank c = false
  last : ∀ c ∈ x.getLast?, isBlank c = false

def Quiet (x : List Char) : Prop := ¬ "concern:".toList <:+: x.map Char.toLower

instance (x : List Char) : Decidable (Quiet x) := inferInstanceAs (Decidable (¬ _))

/-- An evidence line the parser reads back: an indent of blanks and a plain item. -/
structure EvidencePlain (line : List Char × List Char) : Prop where
  indent : ∀ c ∈ line.1, c = ' '
  item : PlainText line.2

/-- A finding the parser can read back: plain concern and type, a similarity of digits and
points, and plain evidence; the type and the evidence hold no `concern:`. -/
structure Finding.Plain (f : Finding) : Prop where
  concern : PlainText f.concern
  kind : PlainText f.kind
  kind_quiet : Quiet f.kind
  similarity_ne : f.similarity ≠ []
  similarity : ∀ c ∈ f.similarity, c ∈ "0123456789.".toList
  evidence_ne : f.evidence ≠ []
  evidence : ∀ e ∈ f.evidence, PlainText e ∧ Quiet e

/-- The text after a line's dash: blanks, then the rest of the line. -/
def lineRest : Pattern := Pattern.plus (.notChars "\n")

/-- An evidence line: a line end, blanks, a dash, blanks and the rest of the line. -/
def evidenceItem : Pattern := .seq [.lit '\n', .many .blank, .lit '-', .many .blank, lineRest]

/-! The pattern line by line: each tail is what is left of it after the line end before it. -/

def evidenceTail : List Pattern :=
  [.many .blank, .str "Evidence:", .many .blank, .group 4 (.plus evidenceItem)]

/-- The `Similarity:` line, its number as group 3. -/
def similarityTail : List Pattern :=
  .many .blank :: .str "Similarity:" :: .many .blank :: .group 3 (.plus (.chars "0123456789.")) ::
    .lit '\n' :: evidenceTail

def kindTail : List Pattern :=
  .many .blank :: .str "Type:" :: .many .blank :: .group 2 lineRest :: .lit '\n' :: similarityTail

theorem concernPattern_eq : concernPattern = .seq (.lit '-' :: .many .blank :: .str "Concern:" ::
    .many .blank :: .group 1 lineRest :: .lit '\n' :: kindTail) := rfl

/-- A label opens with a letter that is no blank and that no blank is alike to. -/
structure Label (L : String) : Prop where
  ne_nil : L.toList ≠ []
  solid : ∀ c ∈ L.toList.head?,
    classAccepts .caseless [.blank] c = false ∧ litAccepts .caseless c ' ' = false

theorem label_concern : Label "Concern:" := ⟨by decide, forall_mem_head_of_all (by decide)⟩

theorem label_type : Label "Type:" := ⟨by decide, forall_mem_head_of_all (by decide)⟩

theorem label_similarity : Label "Similarity:" := ⟨by decide, forall_mem_head_of_all (by decide)⟩

theorem label_evidence : Label "Evidence:" := ⟨by decide, forall_mem_head_of_all (by decide)⟩

theorem lineChar_oneChar :
    OneChar .caseless (.notChars "\n") (fun d => !classAccepts .caseless [.single '\n'] d) :=
  OneChar.noneOf _ _

theorem digit_oneChar :
    OneChar .caseless (.chars "0123456789.") (classAccepts .caseless ("0123456789.".toList.map .single)) :=
  OneChar.oneOf _ _

theorem PlainText.line_chars {x : List Char} (hx : PlainText x) :
    ∀ c ∈ x, (!classAccepts .caseless [.single '\n'] c) = true := by
  intro c hc
  have hnl : c ≠ '\n' := fun h => by simpa [h, isLineBreak] using hx.no_break c hc
  simp [newline_caseless (hx.ascii c hc), hnl]

theorem PlainText.head_solid {x : List Char} (hx : PlainText x) :
    ∀ c ∈ x.head?, classAccepts .caseless [.blank] c = false := by
  intro c hc
  rw [blank_caseless (hx.ascii c (List.mem_of_mem_head? hc))]
  exact hx.head c hc

theorem newline_refused_by_line : (!classAccepts .caseless [.single '\n'] '\n') = false := by
  decide

theorem PlainText.newline_refuses {x : List Char} (hx : PlainText x) :
    ∀ c ∈ x, litAccepts .caseless '\n' c = false := by
  intro c hc
  have hnl : c ≠ '\n' := fun h => by simpa [h, isLineBreak] using hx.no_break c hc
  rw [litAccepts_caseless (by decide) (hx.ascii c hc)]
  have := ascii_of_fin (P := fun c => c ≠ '\n' → ('\n'.toLower == c.toLower) = false)
    (by decide) (hx.ascii c hc) hnl
  exact this

section Run

variable {g : Cursor → Bool} {k : List Frame} {σ : List (Nat × Nat × Nat)}

/-- Blanks, then a label. -/
theorem run_label (b : List Char) (hb : ∀ c ∈ b, c = ' ') {L : String} (hL : Label L)
    (more : List Pattern) (hmore : more ≠ []) (rest : List Char) (pos : Nat) (prev : Option Char) :
    ∃ prev', runFrames .caseless g (.run (seq (.many .blank :: .str L :: more)) :: k) pos prev
        (b ++ L.toList ++ rest) σ =
      runFrames .caseless g (.run (seq more) :: k) (pos + b.length + L.length) prev' rest σ := by
  obtain ⟨q, qs, rfl⟩ := List.exists_cons_of_ne_nil hmore
  obtain ⟨l, ls, hl⟩ := List.exists_cons_of_ne_nil hL.ne_nil
  have hsolid := hL.solid l (by simp [hl])
  have hblank : ∀ c ∈ b, classAccepts .caseless [.blank] c = true := fun c hc => by
    rw [hb c hc]
    decide
  -- the label cannot start on a blank, so the blanks are all taken
  obtain ⟨p1, h1⟩ := blank_caseless_oneChar.star_word (g := g) (σ := σ)
    (k := .run (seq (.str L :: q :: qs)) :: k) b (L.toList ++ rest) pos prev hblank
    (by simp [hl, hsolid.1]) fun j hj prev' => by
      rw [List.drop_eq_getElem_cons hj, hb _ (List.getElem_mem hj), List.cons_append,
        run_seq_cons, Pattern.str, hl, List.map_cons]
      cases ls with
      | nil => exact (OneChar.lit _ _).refuse hsolid.2 _ _ _
      | cons l' ls =>
        rw [List.map_cons, run_seq_cons]
        exact (OneChar.lit _ _).refuse hsolid.2 _ _ _
  obtain ⟨p2, h2⟩ := run_word (g := g) (σ := σ) (k := .run (seq (q :: qs)) :: k) L.toList rest
    (pos + b.length) p1
  refine ⟨p2, ?_⟩
  rw [run_seq_cons, Pattern.many, List.append_assoc, h1, run_seq_cons, Pattern.str, h2,
    String.length_toList]

/-- A repeated class as group `n` takes a whole line of characters it accepts, and the line end
after it. -/
theorem run_group_line {p : Pattern} {A : Char → Bool} (hp : OneChar .caseless p A) (n : Nat)
    {x : List Char} (hx : x ≠ []) (hA : ∀ c ∈ x, A c = true) (hnl : A '\n' = false)
    (hlit : ∀ c ∈ x, litAccepts .caseless '\n' c = false) (more : List Pattern)
    (hmore : more ≠ []) (rest : List Char) (pos : Nat) (prev : Option Char) :
    ∃ prev', runFrames .caseless g (.run (seq (.group n (.plus p) :: .lit '\n' :: more)) :: k)
        pos prev (x ++ '\n' :: rest) σ =
      runFrames .caseless g (.run (seq more) :: k) (pos + x.length + 1) prev' rest
        ((n, pos, pos + x.length) :: σ) := by
  obtain ⟨q, qs, rfl⟩ := List.exists_cons_of_ne_nil hmore
  obtain ⟨x0, xs, rfl⟩ := List.exists_cons_of_ne_nil hx
  -- only the line end can follow the group, so the repetition takes the whole line
  obtain ⟨p1, h1⟩ := hp.star_word (g := g) (σ := σ)
    (k := .close n pos :: .run (seq (.lit '\n' :: q :: qs)) :: k) xs ('\n' :: rest)
    (pos + 1) (some x0) (fun c hc => hA c (List.mem_cons_of_mem x0 hc)) (by simpa using hnl)
    fun j hj prev' => by
      rw [List.drop_eq_getElem_cons hj, List.cons_append, run_close, run_seq_cons]
      exact (OneChar.lit _ _).refuse (hlit _ (List.mem_cons_of_mem x0 (List.getElem_mem hj))) _ _ _
  refine ⟨some '\n', ?_⟩
  rw [run_seq_cons, run_group, Pattern.plus, run_cat, List.cons_append,
    hp.take (hA x0 List.mem_cons_self), h1, run_close, run_seq_cons,
    (OneChar.lit _ _).take (litAccepts_self _ _)]
  simp only [List.length_cons]
  rw [show pos + 1 + xs.length + 1 = pos + (xs.length + 1) + 1 by omega,
    show pos + 1 + xs.length = pos + (xs.length + 1) by omega]

/-- Blanks, then a plain text as group `n`, then the line end. -/
theorem run_field (n : Nat) {x : List Char} (hx : PlainText x) (more : List Pattern)
    (hmore : more ≠ []) (rest : List Char) (pos : Nat) (prev : Option Char)
    (hk : ∀ prev', (runFrames .caseless g (.run (seq more) :: k) (pos + 1 + x.length + 1) prev'
      rest ((n, pos + 1, pos + 1 + x.length) :: σ)).isSome) :
    ∃ prev', runFrames .caseless g
        (.run (seq (.many .blank :: .group n lineRest :: .lit '\n' :: more)) :: k) pos prev
        (' ' :: x ++ '\n' :: rest) σ =
      runFrames .caseless g (.run (seq more) :: k) (pos + 1 + x.length + 1) prev' rest
        ((n, pos + 1, pos + 1 + x.length) :: σ) := by
  have hgroup : ∀ prev, ∃ prev', runFrames .caseless g
      (.run (seq (.group n lineRest :: .lit '\n' :: more)) :: k) (pos + 1) prev
      (x ++ '\n' :: rest) σ =
      runFrames .caseless g (.run (seq more) :: k) (pos + 1 + x.length + 1) prev' rest
        ((n, pos + 1, pos + 1 + x.length) :: σ) := fun prev =>
    run_group_line lineChar_oneChar n hx.ne_nil hx.line_chars newline_refused_by_line
      hx.newline_refuses more hmore rest (pos + 1) prev
  obtain ⟨x0, xs, hx0⟩ := List.exists_cons_of_ne_nil hx.ne_nil
  -- a line may open with a blank, so the blank is taken only because the group then matches
  obtain ⟨p1, h1⟩ := blank_caseless_oneChar.star_word_of_isSome (g := g) (σ := σ)
    (k := .run (seq (.group n lineRest :: .lit '\n' :: more)) :: k) [' '] (x ++ '\n' :: rest)
    pos prev (forall_mem_of_all (by decide)) (by simpa [hx0] using hx.head_solid x0 (by simp [hx0]))
    fun prev' => by
      obtain ⟨p2, h2⟩ := hgroup prev'
      rw [List.length_singleton, h2]
      exact hk p2
  obtain ⟨p3, h3⟩ := hgroup p1
  refine ⟨p3, ?_⟩
  rw [List.singleton_append, List.length_singleton] at h1
  rw [run_seq_cons, Pattern.many, List.cons_append, h1, h3]

theorem digits_accepted :
    ∀ c ∈ "0123456789.".toList, classAccepts .caseless ("0123456789.".toList.map .single) c = true
  := forall_mem_of_all (by decide)

theorem digits_solid : ∀ c ∈ "0123456789.".toList,
    classAccepts .caseless [.blank] c = false ∧ litAccepts .caseless '\n' c = false :=
  forall_mem_of_all (by decide)

/-- A blank, then a number as group `n`, then the line end. -/
theorem run_number (n : Nat) {s : List Char} (hs : s ≠ [])
    (hd : ∀ c ∈ s, c ∈ "0123456789.".toList) (more : List Pattern) (hmore : more ≠ [])
    (rest : List Char) (pos : Nat) (prev : Option Char) :
    ∃ prev', runFrames .caseless g (.run (seq (.many .blank ::
        .group n (.plus (.chars "0123456789.")) :: .lit '\n' :: more)) :: k) pos prev
        (' ' :: s ++ '\n' :: rest) σ =
      runFrames .caseless g (.run (seq more) :: k) (pos + 1 + s.length + 1) prev' rest
        ((n, pos + 1, pos + 1 + s.length) :: σ) := by
  obtain ⟨s0, ss, hs0⟩ := List.exists_cons_of_ne_nil hs
  -- a number cannot start on the blank, so the blank is taken
  obtain ⟨p1, h1⟩ := blank_caseless_oneChar.star_word (g := g) (σ := σ)
    (k := .run (seq (.group n (.plus (.chars "0123456789.")) :: .lit '\n' :: more)) :: k)
    [' '] (s ++ '\n' :: rest) pos prev (forall_mem_of_all (by decide))
    (by simpa [hs0] using (digits_solid s0 (hd s0 (by simp [hs0]))).1) fun j hj prev' => by
      obtain rfl : j = 0 := by simpa using hj
      rw [List.drop_zero, List.singleton_append, run_seq_cons, run_group, Pattern.plus, run_cat]
      exact digit_oneChar.refuse (by decide) _ _ _
  obtain ⟨p2, h2⟩ := run_group_line (g := g) (k := k) (σ := σ) digit_oneChar n hs
    (fun c hc => digits_accepted c (hd c hc)) (by decide) (fun c hc => (digits_solid c (hd c hc)).2)
    more hmore rest (pos + 1) p1
  refine ⟨p2, ?_⟩
  rw [List.singleton_append, List.length_singleton] at h1
  rw [run_seq_cons, Pattern.many, List.cons_append, h1, h2]

end Run

section Items

variable {g : Cursor → Bool} {k : List Frame} {σ : List (Nat × Nat × Nat)}

/-- No evidence item starts here, whatever follows. -/
def ItemFails (r : List Char) : Prop :=
  ∀ (g : Cursor → Bool) (k : List Frame) (pos : Nat) (prev : Option Char)
    (σ : List (Nat × Nat × Nat)), runFrames .caseless g (.run evidenceItem :: k) pos prev r σ = none

/-- After a blank, a plain text runs to the end of its line. -/
theorem run_spaced_line {x : List Char} (hx : PlainText x) (r : List Char)
    (hr : ∀ c ∈ r.head?, c = '\n') (pos : Nat) (prev : Option Char)
    (hk : ∀ prev', (runFrames .caseless g k (pos + 1 + x.length) prev' r σ).isSome) :
    ∃ prev', runFrames .caseless g (.run (.many .blank) :: .run lineRest :: k) pos prev
        (' ' :: x ++ r) σ = runFrames .caseless g k (pos + 1 + x.length) prev' r σ := by
  obtain ⟨x0, xs, rfl⟩ := List.exists_cons_of_ne_nil hx.ne_nil
  have hline : ∀ prev, ∃ prev', runFrames .caseless g (.run lineRest :: k) (pos + 1) prev
      (x0 :: xs ++ r) σ = runFrames .caseless g k (pos + 1 + (x0 :: xs).length) prev' r σ :=
    fun prev => by
      obtain ⟨p1, h1⟩ := lineChar_oneChar.star_word_of_isSome (g := g) (σ := σ) (k := k) xs r
        (pos + 1 + 1) (some x0) (fun c hc => hx.line_chars c (List.mem_cons_of_mem x0 hc))
        (fun c hc => by rw [hr c hc]; exact newline_refused_by_line) fun prev' => by
          have h := hk prev'
          rwa [List.length_cons, show pos + 1 + (xs.length + 1) = pos + 1 + 1 + xs.length by omega]
            at h
      refine ⟨p1, ?_⟩
      rw [lineRest, Pattern.plus, run_cat, List.cons_append,
        lineChar_oneChar.take (hx.line_chars x0 List.mem_cons_self), h1]
      simp only [List.length_cons]
      rw [show pos + 1 + 1 + xs.length = pos + 1 + (xs.length + 1) by omega]
  obtain ⟨p2, h2⟩ := blank_caseless_oneChar.star_word_of_isSome (g := g) (σ := σ)
    (k := .run lineRest :: k) [' '] (x0 :: xs ++ r) pos prev (forall_mem_of_all (by decide))
    (by simpa using hx.head_solid x0 rfl) fun prev' => by
      obtain ⟨p3, h3⟩ := hline prev'
      rw [List.length_singleton, h3]
      exact hk p3
  obtain ⟨p4, h4⟩ := hline p2
  refine ⟨p4, ?_⟩
  rw [List.singleton_append, List.length_singleton] at h2
  rw [Pattern.many, List.cons_append, h2, h4]

theorem length_evidenceLine (l : List Char × List Char) :
    (evidenceLine l).length = l.1.length + l.2.length + 3 := by
  simp [evidenceLine]
  omega

/-- One evidence line is one evidence item. -/
theorem run_item {l : List Char × List Char} (hl : EvidencePlain l) (r : List Char)
    (hr : ∀ c ∈ r.head?, c = '\n') (pos : Nat) (prev : Option Char)
    (hk : ∀ prev', (runFrames .caseless g k (pos + (evidenceLine l).length) prev' r σ).isSome) :
    ∃ prev', runFrames .caseless g (.run evidenceItem :: k) pos prev (evidenceLine l ++ r) σ =
      runFrames .caseless g k (pos + (evidenceLine l).length) prev' r σ := by
  obtain ⟨ind, e⟩ := l
  have he : PlainText e := hl.item
  have hpos : pos + (evidenceLine (ind, e)).length = pos + 1 + ind.length + 1 + 1 + e.length := by
    rw [length_evidenceLine]
    dsimp only
    omega
  -- the indent is all taken: a dash cannot start on a blank
  obtain ⟨p1, h1⟩ := blank_caseless_oneChar.star_word (g := g) (σ := σ)
    (k := .run (seq [.lit '-', .star .blank false, lineRest]) :: k) ind ('-' :: ' ' :: (e ++ r))
    (pos + 1) (some '\n') (fun c hc => by rw [hl.indent c hc]; decide)
    (fun d hd => by simp at hd; subst hd; decide) fun j hj prev' => by
      rw [List.drop_eq_getElem_cons hj, hl.indent _ (List.getElem_mem hj), List.cons_append,
        run_seq_cons]
      exact (OneChar.lit _ _).refuse (by decide) _ _ _
  obtain ⟨p2, h2⟩ := run_spaced_line (g := g) (k := k) (σ := σ) he r hr
    (pos + 1 + ind.length + 1) (some '-') fun prev' => by
      rw [← hpos]
      exact hk prev'
  rw [List.cons_append, Pattern.many] at h2
  refine ⟨p2, ?_⟩
  rw [hpos]
  simp only [evidenceLine, List.cons_append, List.append_assoc]
  rw [evidenceItem, run_seq_cons, (OneChar.lit _ _).take (litAccepts_self _ _), run_seq_cons,
    Pattern.many, h1, run_seq_cons, (OneChar.lit _ _).take (litAccepts_self _ _), run_seq_cons,
    seq_single, h2]

theorem evidenceText_head (ls : List (List Char × List Char)) (r : List Char)
    (hr : ∀ c ∈ r.head?, c = '\n') : ∀ c ∈ (evidenceText ls ++ r).head?, c = '\n' := by
  cases ls with
  | nil => simpa [evidenceText] using hr
  | cons l ls => simp [evidenceText, evidenceLine]

/-- The repeated item takes every evidence line, when no item starts where they end. -/
theorem run_items (ls : List (List Char × List Char)) (hls : ∀ l ∈ ls, EvidencePlain l)
    (r : List Char) (hr : ∀ c ∈ r.head?, c = '\n') (hfail : ItemFails r) (pos : Nat)
    (prev : Option Char)
    (hk : ∀ prev', (runFrames .caseless g k (pos + (evidenceText ls).length) prev' r σ).isSome) :
    ∃ prev', runFrames .caseless g (.run (.star evidenceItem false) :: k) pos prev
        (evidenceText ls ++ r) σ =
      runFrames .caseless g k (pos + (evidenceText ls).length) prev' r σ := by
  -- one round of the repetition per line; each round's item is followed by the loop frame
  induction ls generalizing pos prev with
  | nil =>
    refine ⟨prev, ?_⟩
    simp only [evidenceText, List.flatMap_nil, List.nil_append, List.length_nil, Nat.add_zero]
    rw [run_star_greedy, hfail, Option.none_or]
  | cons l ls ih =>
    have hl := hls l List.mem_cons_self
    have hls' : ∀ l' ∈ ls, EvidencePlain l' := fun l' h => hls l' (List.mem_cons_of_mem l h)
    have htext : evidenceText (l :: ls) ++ r = evidenceLine l ++ (evidenceText ls ++ r) := by
      simp [evidenceText]
    have hlen : pos + (evidenceText (l :: ls)).length =
        pos + (evidenceLine l).length + (evidenceText ls).length := by
      simp [evidenceText, Nat.add_assoc]
    have hloop : ∀ prev, ∃ prev', runFrames .caseless g
        (.loop evidenceItem false (evidenceLine l ++ (evidenceText ls ++ r)).length :: k)
        (pos + (evidenceLine l).length) prev (evidenceText ls ++ r) σ =
        runFrames .caseless g k (pos + (evidenceText (l :: ls)).length) prev' r σ := fun prev => by
      obtain ⟨p1, h1⟩ := ih hls' (pos + (evidenceLine l).length) prev fun prev' => by
        rw [← hlen]
        exact hk prev'
      refine ⟨p1, ?_⟩
      rw [run_loop_of_lt _ _ _ _ (by simp [length_evidenceLine]), h1, hlen]
    obtain ⟨p2, h2⟩ := run_item (g := g) (σ := σ)
      (k := .loop evidenceItem false (evidenceLine l ++ (evidenceText ls ++ r)).length :: k) hl
      (evidenceText ls ++ r) (evidenceText_head ls r hr) pos prev fun prev' => by
        obtain ⟨p3, h3⟩ := hloop prev'
        rw [h3]
        exact hk p3
    obtain ⟨p4, h4⟩ := hloop p2
    obtain ⟨c, hc⟩ := Option.isSome_iff_exists.mp (hk p4)
    refine ⟨p4, ?_⟩
    -- the first round already matches, so stopping before it is never tried
    rw [htext, run_star_greedy, h2, h4, hc]
    rfl

/-- The evidence group cannot start on a character that cannot open a line. -/
theorem run_group_items_refuse (n : Nat) {d : Char} (hd : litAccepts .caseless '\n' d = false)
    (ds : List Char) (pos : Nat) (prev : Option Char) :
    runFrames .caseless g (.run (.group n (.plus evidenceItem)) :: k) pos prev (d :: ds) σ = none := by
  rw [run_group, Pattern.plus, run_cat, evidenceItem, run_seq_cons]
  exact (OneChar.lit _ _).refuse hd _ _ _

/-- Group `n` takes every evidence line; the blanks before it give back the line end and the
indent they first take, since no line can start after them. -/
theorem run_evidence (n : Nat) (ls : List (List Char × List Char)) (hne : ls ≠ [])
    (hls : ∀ l ∈ ls, EvidencePlain l) (r : List Char) (hr : ∀ c ∈ r.head?, c = '\n')
    (hfail : ItemFails r) (pos : Nat) (prev : Option Char)
    (hk : ∀ prev', (runFrames .caseless g k (pos + (evidenceText ls).length) prev' r
      ((n, pos, pos + (evidenceText ls).length) :: σ)).isSome) :
    ∃ prev', runFrames .caseless g (.run (seq [.many .blank, .group n (.plus evidenceItem)]) :: k)
        pos prev (evidenceText ls ++ r) σ =
      runFrames .caseless g k (pos + (evidenceText ls).length) prev' r
        ((n, pos, pos + (evidenceText ls).length) :: σ) := by
  obtain ⟨⟨ind, e⟩, ls', rfl⟩ := List.exists_cons_of_ne_nil hne
  have hl := hls _ List.mem_cons_self
  have hls' : ∀ l' ∈ ls', EvidencePlain l' := fun l' h => hls l' (List.mem_cons_of_mem _ h)
  have hlen : pos + (evidenceText ((ind, e) :: ls')).length =
      pos + (evidenceLine (ind, e)).length + (evidenceText ls').length := by
    simp [evidenceText, Nat.add_assoc]
  have htext : evidenceText ((ind, e) :: ls') ++ r = evidenceLine (ind, e) ++ (evidenceText ls' ++ r) := by
    simp [evidenceText]
  -- the group: the first line, then the repetition over the others
  have hrest : ∀ prev, ∃ prev', runFrames .caseless g
      (.run (.star evidenceItem false) :: .close n pos :: k) (pos + (evidenceLine (ind, e)).length)
      prev (evidenceText ls' ++ r) σ =
      runFrames .caseless g k (pos + (evidenceText ((ind, e) :: ls')).length) prev' r
        ((n, pos, pos + (evidenceText ((ind, e) :: ls')).length) :: σ) := fun prev => by
    obtain ⟨p1, h1⟩ := run_items (g := g) (σ := σ) (k := .close n pos :: k) ls' hls' r hr hfail
      (pos + (evidenceLine (ind, e)).length) prev fun prev' => by
        rw [run_close, ← hlen]
        exact hk prev'
    exact ⟨p1, by rw [h1, run_close, hlen]⟩
  have hgroup : ∀ prev, ∃ prev', runFrames .caseless g (.run (.group n (.plus evidenceItem)) :: k)
      pos prev (evidenceText ((ind, e) :: ls') ++ r) σ =
      runFrames .caseless g k (pos + (evidenceText ((ind, e) :: ls')).length) prev' r
        ((n, pos, pos + (evidenceText ((ind, e) :: ls')).length) :: σ) := fun prev => by
    obtain ⟨p2, h2⟩ := run_item (g := g) (σ := σ)
      (k := .run (.star evidenceItem false) :: .close n pos :: k) hl (evidenceText ls' ++ r)
      (evidenceText_head ls' r hr) pos prev fun prev' => by
        obtain ⟨p3, h3⟩ := hrest prev'
        rw [h3]
        exact hk p3
    obtain ⟨p4, h4⟩ := hrest p2
    exact ⟨p4, by rw [run_group, Pattern.plus, run_cat, htext, h2, h4]⟩
  -- the blanks: after the line end and the indent comes the dash, where the group cannot start
  obtain ⟨p5, h5⟩ := blank_caseless_oneChar.star_word (g := g) (σ := σ)
    (k := .run (.group n (.plus evidenceItem)) :: k) ind
    ('-' :: ' ' :: (e ++ (evidenceText ls' ++ r))) (pos + 1) (some '\n')
    (fun c hc => by rw [hl.indent c hc]; decide) (fun d hd => by simp at hd; subst hd; decide)
    fun j hj prev' => by
      rw [List.drop_eq_getElem_cons hj, hl.indent _ (List.getElem_mem hj), List.cons_append]
      exact run_group_items_refuse n (by decide) _ _ _
  have hnone : runFrames .caseless g (.run (.star .blank false) ::
      .run (.group n (.plus evidenceItem)) :: k) (pos + 1) (some '\n')
      (ind ++ '-' :: ' ' :: (e ++ (evidenceText ls' ++ r))) σ = none := by
    rw [h5]
    exact run_group_items_refuse n (by decide) _ _ _
  obtain ⟨p6, h6⟩ := hgroup prev
  refine ⟨p6, ?_⟩
  have hshape : evidenceText ((ind, e) :: ls') ++ r =
      '\n' :: (ind ++ '-' :: ' ' :: (e ++ (evidenceText ls' ++ r))) := by
    simp [evidenceText, evidenceLine]
  rw [run_seq_cons, seq_single, Pattern.many, hshape, blank_caseless_oneChar.star_cons (by decide), hnone,
    Option.none_or, ← hshape, h6]

theorem itemFails_newline : ItemFails ['\n'] := by
  intro g k pos prev σ
  rw [evidenceItem, run_seq_cons, (OneChar.lit _ _).take (litAccepts_self _ _), run_seq_cons,
    Pattern.many, blank_caseless_oneChar.star_end, run_seq_cons]
  exact (OneChar.lit _ _).nil _ _ _ _ _

/-- No item starts at a line whose first character after its indent is no dash. -/
theorem itemFails_line (b : List Char) (hb : ∀ c ∈ b, c = ' ') {c : Char}
    (hc : classAccepts .caseless [.blank] c = false) (hcd : litAccepts .caseless '-' c = false)
    (t : List Char) : ItemFails ('\n' :: b ++ c :: t) := by
  intro g k pos prev σ
  obtain ⟨p1, h1⟩ := blank_caseless_oneChar.star_word (g := g) (σ := σ)
    (k := .run (seq [.lit '-', .star .blank false, lineRest]) :: k) b (c :: t) (pos + 1)
    (some '\n') (fun c hc => by rw [hb c hc]; decide) (by simpa using hc) fun j hj prev' => by
      rw [List.drop_eq_getElem_cons hj, hb _ (List.getElem_mem hj), List.cons_append, run_seq_cons]
      exact (OneChar.lit _ _).refuse (by decide) _ _ _
  rw [List.cons_append, evidenceItem, run_seq_cons, (OneChar.lit _ _).take (litAccepts_self _ _),
    run_seq_cons, Pattern.many, h1, run_seq_cons]
  exact (OneChar.lit _ _).refuse hcd _ _ _

end Items

section Tails

/-! Each tail of the pattern over the lines a finding writes, given what follows the evidence:
a line end where no item starts. The positions are left as the lines add them up. -/

variable {g : Cursor → Bool} {k : List Frame} {σ : List (Nat × Nat × Nat)}
  {ls : List (List Char × List Char)} (hne : ls ≠ []) (hls : ∀ l ∈ ls, EvidencePlain l)
  {r : List Char} (hr : ∀ c ∈ r.head?, c = '\n') (hfail : ItemFails r)
include hne hls hr hfail

theorem run_evidenceTail (pos : Nat) (prev : Option Char)
    (hk : ∀ prev', (runFrames .caseless g k (pos + 11 + (evidenceText ls).length) prev' r
      ((4, pos + 11, pos + 11 + (evidenceText ls).length) :: σ)).isSome) :
    ∃ prev', runFrames .caseless g (.run (seq evidenceTail) :: k) pos prev
        ("  ".toList ++ "Evidence:".toList ++ (evidenceText ls ++ r)) σ =
      runFrames .caseless g k (pos + 11 + (evidenceText ls).length) prev' r
        ((4, pos + 11, pos + 11 + (evidenceText ls).length) :: σ) := by
  obtain ⟨p1, h1⟩ := run_label (g := g) (k := k) (σ := σ) "  ".toList (forall_mem_of_all (by decide)) label_evidence
    _ (List.cons_ne_nil _ _) (evidenceText ls ++ r) pos prev
  rw [show pos + "  ".toList.length + "Evidence:".length = pos + 11 from rfl] at h1
  obtain ⟨p2, h2⟩ := run_evidence (g := g) (k := k) (σ := σ) 4 ls hne hls r hr hfail _ p1 hk
  exact ⟨p2, by rw [evidenceTail, h1, h2]⟩

theorem run_similarityTail {s : List Char} (hs : s ≠ []) (hd : ∀ c ∈ s, c ∈ "0123456789.".toList)
    (pos : Nat) (prev : Option Char)
    (hk : ∀ prev', (runFrames .caseless g k (pos + 13 + 1 + s.length + 1 + 11 +
      (evidenceText ls).length) prev' r ((4, pos + 13 + 1 + s.length + 1 + 11,
        pos + 13 + 1 + s.length + 1 + 11 + (evidenceText ls).length) ::
        (3, pos + 13 + 1, pos + 13 + 1 + s.length) :: σ)).isSome) :
    ∃ prev', runFrames .caseless g (.run (seq similarityTail) :: k) pos prev
        ("  ".toList ++ "Similarity:".toList ++ (' ' :: s ++ '\n' ::
          ("  ".toList ++ "Evidence:".toList ++ (evidenceText ls ++ r)))) σ =
      runFrames .caseless g k (pos + 13 + 1 + s.length + 1 + 11 + (evidenceText ls).length) prev' r
        ((4, pos + 13 + 1 + s.length + 1 + 11,
          pos + 13 + 1 + s.length + 1 + 11 + (evidenceText ls).length) ::
          (3, pos + 13 + 1, pos + 13 + 1 + s.length) :: σ) := by
  obtain ⟨p1, h1⟩ := run_label (g := g) (k := k) (σ := σ) "  ".toList (forall_mem_of_all (by decide))
    label_similarity _ (List.cons_ne_nil _ _) _ pos prev
  rw [show pos + "  ".toList.length + "Similarity:".length = pos + 13 from rfl] at h1
  obtain ⟨p2, h2⟩ := run_number (g := g) (k := k) (σ := σ) 3 hs hd evidenceTail
    (by simp [evidenceTail]) _ (pos + 13) p1
  obtain ⟨p3, h3⟩ := run_evidenceTail (g := g) (k := k) hne hls hr hfail _ p2 hk
  exact ⟨p3, by rw [similarityTail, h1, h2, h3]⟩

theorem run_kindTail {x s : List Char} (hx : PlainText x) (hs : s ≠ [])
    (hd : ∀ c ∈ s, c ∈ "0123456789.".toList) (pos : Nat) (prev : Option Char)
    (hk : ∀ prev', (runFrames .caseless g k (pos + 7 + 1 + x.length + 1 + 13 + 1 + s.length + 1 +
      11 + (evidenceText ls).length) prev' r
      ((4, pos + 7 + 1 + x.length + 1 + 13 + 1 + s.length + 1 + 11,
        pos + 7 + 1 + x.length + 1 + 13 + 1 + s.length + 1 + 11 + (evidenceText ls).length) ::
        (3, pos + 7 + 1 + x.length + 1 + 13 + 1, pos + 7 + 1 + x.length + 1 + 13 + 1 + s.length) ::
        (2, pos + 7 + 1, pos + 7 + 1 + x.length) :: σ)).isSome) :
    ∃ prev', runFrames .caseless g (.run (seq kindTail) :: k) pos prev
        ("  ".toList ++ "Type:".toList ++ (' ' :: x ++ '\n' ::
          ("  ".toList ++ "Similarity:".toList ++ (' ' :: s ++ '\n' ::
          ("  ".toList ++ "Evidence:".toList ++ (evidenceText ls ++ r)))))) σ =
      runFrames .caseless g k (pos + 7 + 1 + x.length + 1 + 13 + 1 + s.length + 1 + 11 +
        (evidenceText ls).length) prev' r
        ((4, pos + 7 + 1 + x.length + 1 + 13 + 1 + s.length + 1 + 11,
          pos + 7 + 1 + x.length + 1 + 13 + 1 + s.length + 1 + 11 + (evidenceText ls).length) ::
          (3, pos + 7 + 1 + x.length + 1 + 13 + 1,
            pos + 7 + 1 + x.length + 1 + 13 + 1 + s.length) ::
          (2, pos + 7 + 1, pos + 7 + 1 + x.length) :: σ) := by
  obtain ⟨p1, h1⟩ := run_label (g := g) (k := k) (σ := σ) "  ".toList (forall_mem_of_all (by decide)) label_type _
    (List.cons_ne_nil _ _) _ pos prev
  rw [show pos + "  ".toList.length + "Type:".length = pos + 7 from rfl] at h1
  -- the kind's blank is taken because the lines after it match
  obtain ⟨p2, h2⟩ := run_field (g := g) (k := k) (σ := σ) 2 hx similarityTail
    (by simp [similarityTail]) _ (pos + 7) p1 fun prev' => by
      obtain ⟨p3, h3⟩ := run_similarityTail (g := g) (k := k) hne hls hr hfail hs hd _ prev' hk
      rw [h3]
      exact hk p3
  obtain ⟨p4, h4⟩ := run_similarityTail (g := g) (k := k) hne hls hr hfail hs hd _ p2 hk
  exact ⟨p4, by rw [kindTail, h1, h2, h4]⟩

end Tails

section Match

/-- The groups of a match of a finding from `pos`, last group first as the matcher pushes them;
each starts after its label, the line end before it and the blank after it. -/
def Finding.spans (f : Finding) (pos ev : Nat) : List (Nat × Nat × Nat) :=
  let a1 := pos + 10 + 1
  let a2 := a1 + f.concern.length + 1 + 7 + 1
  let a3 := a2 + f.kind.length + 1 + 13 + 1
  let a4 := a3 + f.similarity.length + 1 + 11
  [(4, a4, a4 + ev), (3, a3, a3 + f.similarity.length), (2, a2, a2 + f.kind.length),
    (1, a1, a1 + f.concern.length)]

theorem Finding.head_fields_append (f : Finding) (t : List Char) :
    f.head ++ f.fields ++ t = '-' :: ([' '] ++ "Concern:".toList ++ (' ' :: f.concern ++ '\n' ::
      ("  ".toList ++ "Type:".toList ++ (' ' :: f.kind ++ '\n' ::
      ("  ".toList ++ "Similarity:".toList ++ (' ' :: f.similarity ++ '\n' ::
      ("  ".toList ++ "Evidence:".toList ++ t))))))) := by
  unfold Finding.head Finding.fields
  simp

theorem Finding.length_head_fields (f : Finding) :
    (f.head ++ f.fields).length = f.concern.length + f.kind.length + f.similarity.length + 47 := by
  unfold Finding.head Finding.fields
  simp
  omega

variable {g : Cursor → Bool} {k : List Frame}

/-- The pattern takes a finding's lines and every evidence line after them, when a line end where
no item starts follows those. -/
theorem run_concern {f : Finding} (hf : f.Plain) {ls : List (List Char × List Char)}
    (hne : ls ≠ []) (hls : ∀ l ∈ ls, EvidencePlain l) {r : List Char}
    (hr : ∀ c ∈ r.head?, c = '\n') (hfail : ItemFails r) (pos : Nat) (prev : Option Char)
    (hk : ∀ prev', (runFrames .caseless g k (pos + (f.head ++ f.fields ++ evidenceText ls).length)
      prev' r (f.spans pos (evidenceText ls).length)).isSome) :
    ∃ prev', runFrames .caseless g (.run concernPattern :: k) pos prev
        (f.head ++ f.fields ++ evidenceText ls ++ r) [] =
      runFrames .caseless g k (pos + (f.head ++ f.fields ++ evidenceText ls).length) prev' r
        (f.spans pos (evidenceText ls).length) := by
  have hend : pos + 10 + 1 + f.concern.length + 1 + 7 + 1 + f.kind.length + 1 + 13 + 1 +
      f.similarity.length + 1 + 11 + (evidenceText ls).length =
      pos + (f.head ++ f.fields ++ evidenceText ls).length := by
    rw [List.length_append, Finding.length_head_fields]
    omega
  rw [← hend] at hk ⊢
  obtain ⟨p1, h1⟩ := run_label (g := g) (k := k) (σ := []) [' '] (forall_mem_of_all (by decide)) label_concern _
    (List.cons_ne_nil _ _) _ (pos + 1) (some '-')
  rw [show pos + 1 + [' '].length + "Concern:".length = pos + 10 from rfl] at h1
  -- the concern's blank is taken because the lines after it match
  obtain ⟨p2, h2⟩ := run_field (g := g) (k := k) (σ := []) 1 hf.concern kindTail
    (List.cons_ne_nil _ _) _ (pos + 10) p1 fun prev' => by
      obtain ⟨p3, h3⟩ := run_kindTail (g := g) (k := k) hne hls hr hfail hf.kind hf.similarity_ne
        hf.similarity _ prev' hk
      rw [h3]
      exact hk p3
  obtain ⟨p4, h4⟩ := run_kindTail (g := g) (k := k) hne hls hr hfail hf.kind hf.similarity_ne
    hf.similarity _ p2 hk
  refine ⟨p4, ?_⟩
  rw [List.append_assoc (f.head ++ f.fields), Finding.head_fields_append, concernPattern_eq,
    run_seq_cons,
    (OneChar.lit _ _).take (litAccepts_self _ _), h1, h2, h4]
  rfl

/-- Matched where it starts, the pattern takes a finding's lines and every evidence line after
them. -/
theorem matchAt_finding {f : Finding} (hf : f.Plain) {ls : List (List Char × List Char)}
    (hne : ls ≠ []) (hls : ∀ l ∈ ls, EvidencePlain l) {r : List Char}
    (hr : ∀ c ∈ r.head?, c = '\n') (hfail : ItemFails r) (pos : Nat) (prev : Option Char) :
    ∃ prev', matchAt .caseless concernPattern false pos prev
        (f.head ++ f.fields ++ evidenceText ls ++ r) =
      some ⟨pos, pos + (f.head ++ f.fields ++ evidenceText ls).length,
        f.spans pos (evidenceText ls).length, prev', r⟩ := by
  obtain ⟨p, h⟩ := run_concern (g := fun c => !(false && c.pos == pos)) (k := []) hf hne hls hr
    hfail pos prev fun _ => by simp [runFrames]
  refine ⟨p, ?_⟩
  rw [matchAt, h, runFrames]
  rfl

end Match

end Taskflow.Plan
