import Taskflow.Proofs.Task.Chunking
/-!
What tidying an action gives, and which tidied actions a list keeps.
-/

namespace Taskflow.Task

open Text Json Pattern

/-! ## Leads and blank runs, as functions of lists -/

def isBullet (c : Char) : Bool := c == '-' || c == '*' || c == '•'

def isILetter (c : Char) : Bool := c == 'i' || c == 'I'

/-- The bullet lead dropped: a run of bullets at the start and the blanks after it. -/
def dropBullets (cs : List Char) : List Char :=
  match cs with
  | c :: _ => if isBullet c then (cs.dropWhile isBullet).dropWhile isBlank else cs
  | [] => []

/-- The `i-` lead dropped: `i-` or `I-` at the start. -/
def dropILead : List Char → List Char
  | c :: d :: r => if isILetter c && d == '-' then r else c :: d :: r
  | cs => cs

/-- Each run of blanks written as one space; `inRun` says that a blank has just been read. -/
def squeezeFrom : Bool → List Char → List Char
  | _, [] => []
  | inRun, c :: cs =>
    if isBlank c then (if inRun then squeezeFrom true cs else ' ' :: squeezeFrom true cs)
    else c :: squeezeFrom false cs

def squeeze (cs : List Char) : List Char := squeezeFrom false cs

-- A bullet line tidied by the three. Unfolding them here, before the lemmas below, makes their
-- equation lemmas once rather than in each of those proofs at the same time.
example : squeeze (dropILead (dropBullets ['-', ' ', 'i', '-', 'a', ' ', ' ', 'b'])) =
    ['a', ' ', 'b'] := by
  simp [dropBullets, dropILead, squeeze, squeezeFrom, isBullet, isILetter, isBlank]

/-- The text opens with a lead: a bullet, or `i-` or `I-`. -/
def opensWithLead : List Char → Bool
  | c :: d :: _ => isBullet c || (isILetter c && d == '-')
  | [c] => isBullet c
  | [] => false

theorem chars_oneChar (s : String) : OneChar {} (chars s) (fun d => s.toList.contains d) := by
  have hacc : classAccepts {} (s.toList.map CharTest.single) = fun d => s.toList.contains d := by
    funext d
    simp only [classAccepts, Bool.false_eq_true, ↓reduceIte]
    induction s.toList with
    | nil => rfl
    | cons c l ih =>
      rw [List.map_cons, List.any_cons, List.contains_cons, ih]
      show (decide (c = d) || _) = _
      simp only [@eq_comm _ c d]
      rfl
  have h := OneChar.oneOf {} (s.toList.map CharTest.single)
  rwa [hacc] at h

theorem bullet_oneChar : OneChar {} (chars "-*•") isBullet := by
  have hs : "-*•".toList = ['-', '*', '•'] := by decide +kernel
  have h := chars_oneChar "-*•"
  rw [hs] at h
  have hacc : (fun d => ['-', '*', '•'].contains d) = isBullet := by
    funext d
    simp only [List.contains_cons, List.contains_nil, Bool.or_false, isBullet, Bool.or_assoc]
  rwa [hacc] at h

theorem iLetter_oneChar : OneChar {} (chars "iI") isILetter := by
  have hs : "iI".toList = ['i', 'I'] := by decide +kernel
  have h := chars_oneChar "iI"
  rw [hs] at h
  have hacc : (fun d => ['i', 'I'].contains d) = isILetter := by
    funext d
    simp only [List.contains_cons, List.contains_nil, Bool.or_false, isILetter]
  rwa [hacc] at h

/-! ## The bullet lead -/

section Bullets

theorem head_dropWhile {p : Char → Bool} (l : List Char) : ∀ d ∈ (l.dropWhile p).head?, p d = false := by
  intro d hd
  have h := List.head?_dropWhile_not p l
  rw [Option.mem_def] at hd
  rwa [hd] at h

/-- A run of bullets at the start of the text and the blanks after it are the match. -/
theorem matchAt_bulletLead_run {w b r : List Char} (hw0 : w ≠ []) (hw : ∀ x ∈ w, isBullet x = true)
    (hb : ∀ x ∈ b, isBlank x = true) (hbr : ∀ d ∈ (b ++ r).head?, isBullet d = false)
    (hr : ∀ d ∈ r.head?, isBlank d = false) :
    ∃ prev', matchAt {} bulletLead false 0 none (w ++ (b ++ r)) =
      some ⟨0, w.length + b.length, [], prev', r⟩ := by
  obtain ⟨x, xs, rfl⟩ := List.exists_cons_of_ne_nil hw0
  -- the blanks run to their end, after which the match is over
  have hblanks : ∀ pos prev, ∃ prev', runFrames {} (fun c => !(false && c.pos == 0))
      [.run (many blank)] pos prev (b ++ r) [] = some ⟨pos + b.length, prev', r, []⟩ := by
    intro pos prev
    obtain ⟨prev', h⟩ := blank_oneChar.star_word_of_isSome (g := fun c => !(false && c.pos == 0))
      (k := []) (σ := []) b r pos prev hb hr (fun _ => by rw [run_nil]; rfl)
    exact ⟨prev', by rw [Pattern.many, h, run_nil]; rfl⟩
  obtain ⟨prev', hbul⟩ := bullet_oneChar.star_word_of_isSome
    (g := fun c => !(false && c.pos == 0)) (k := [.run (many blank)]) (σ := [])
    xs (b ++ r) (0 + 1) (some x) (fun y hy => hw y (List.mem_cons_of_mem x hy)) hbr
    (fun prev' => by obtain ⟨_, h⟩ := hblanks (0 + 1 + xs.length) prev'; rw [h]; rfl)
  obtain ⟨prev'', hrun⟩ := hblanks (0 + 1 + xs.length) prev'
  refine ⟨prev'', ?_⟩
  unfold matchAt bulletLead
  rw [run_seq_cons, run_lineStart_zero, run_seq_cons, seq_single, Pattern.plus, run_cat,
    List.cons_append, bullet_oneChar.take (hw x List.mem_cons_self), hbul, hrun]
  simp only [Option.map_some, List.length_cons]
  congr 2
  omega

/-- A pattern anchored at the start that does not match there is found nowhere. -/
theorem searchFrom_anchored_none {q : Pattern} {qs : List Pattern} {cs : List Char}
    (h0 : matchAt {} (seq (.lineStart :: q :: qs)) false 0 none cs = none) :
    searchFrom {} (seq (.lineStart :: q :: qs)) false 0 none cs = none := by
  cases cs with
  | nil => exact h0
  | cons c cs =>
    rw [searchFrom, h0]
    exact searchFrom_anchored_of_pos rfl _ _ cs (by omega) false (some c)

theorem searchFrom_bulletLead_none {cs : List Char} (h : ∀ c ∈ cs.head?, isBullet c = false) :
    searchFrom {} bulletLead false 0 none cs = none := by
  refine searchFrom_anchored_none ?_
  unfold matchAt
  rw [run_seq_cons, run_lineStart_zero, run_seq_cons, Pattern.plus, run_cat]
  cases cs with
  | nil => rw [bullet_oneChar.nil]; rfl
  | cons c cs => rw [bullet_oneChar.refuse (h c rfl)]; rfl

theorem replace_bulletLead (s : String) :
    Pattern.replace {} bulletLead "" s = String.ofList (dropBullets s.toList) := by
  cases hs : s.toList with
  | nil =>
    rw [replace_eq_self _ (searchFrom_bulletLead_none (by rw [hs]; simp)), dropBullets,
      ← hs, String.ofList_toList]
  | cons c cs =>
    by_cases hc : isBullet c = true
    · -- the bullets, the blanks after them, and the rest
      set w := (c :: cs).takeWhile isBullet with hw
      set rest := (c :: cs).dropWhile isBullet with hrest
      set b := rest.takeWhile isBlank with hb
      set r := rest.dropWhile isBlank with hr
      have hsplit : c :: cs = w ++ (b ++ r) := by
        rw [hb, hr, List.takeWhile_append_dropWhile, hw, hrest, List.takeWhile_append_dropWhile]
      have hw0 : w ≠ [] := by simp [hw, hc]
      have hbr : ∀ d ∈ (b ++ r).head?, isBullet d = false := by
        rw [hb, hr, List.takeWhile_append_dropWhile]
        exact head_dropWhile (c :: cs)
      have hrb : ∀ d ∈ r.head?, isBlank d = false := by
        exact head_dropWhile rest
      obtain ⟨prev', hm⟩ := matchAt_bulletLead_run hw0 (fun x hx => List.mem_takeWhile_imp hx)
        (fun x hx => List.mem_takeWhile_imp hx) hbr hrb
      rw [← hsplit, ← hs] at hm
      have hstop : 0 < w.length + b.length := by
        have := List.length_pos_iff.2 hw0
        omega
      have hall : findAll {} bulletLead s.toList = [_] := findAll_anchored rfl _ _ hm hstop
      have hdrop : dropBullets (w ++ (b ++ r)) = r := by
        rw [← hsplit, dropBullets, if_pos hc]
      rw [replace_of_findAll_single hall rfl, hs, hsplit, hdrop, ← List.append_assoc,
        List.drop_left' List.length_append, String.empty_append]
    · rw [replace_eq_self _ (searchFrom_bulletLead_none (by rw [hs]; simpa using hc)),
        dropBullets, if_neg hc, ← hs, String.ofList_toList]

end Bullets

/-! ## The `i-` lead -/

section ILead

/-- The `i-` lead is matched by its two characters at the start of the text. -/
theorem matchAt_iLead_cons (c d : Char) (r : List Char) :
    matchAt {} iLead false 0 none (c :: d :: r) =
      if isILetter c && d == '-' then some ⟨0, 2, [], some d, r⟩ else none := by
  unfold matchAt iLead
  rw [run_seq_cons, run_lineStart_zero, run_seq_cons, seq_single]
  cases hc : isILetter c with
  | false => rw [iLetter_oneChar.refuse hc]; rfl
  | true =>
    rw [iLetter_oneChar.take hc]
    by_cases hd : d = '-'
    · subst hd
      rw [(OneChar.lit {} '-').take (litAccepts_self {} '-'), run_nil]
      rfl
    · rw [(OneChar.lit {} '-').refuse (litAccepts_of_ne rfl (Ne.symm hd))]
      simp [hd]

theorem opens_of_dropILead_ne {cs : List Char} (h : dropILead cs ≠ cs) :
    ∃ c d r, cs = c :: d :: r ∧ (isILetter c && d == '-') = true := by
  match cs, h with
  | [], h => exact absurd rfl h
  | [_], h => exact absurd rfl h
  | c :: d :: r, h =>
    refine ⟨c, d, r, rfl, ?_⟩
    by_contra hcd
    exact h (by rw [dropILead, if_neg hcd])

theorem matchAt_iLead_none {cs : List Char} (h : dropILead cs = cs) :
    matchAt {} iLead false 0 none cs = none := by
  match cs, h with
  | [], _ =>
    unfold matchAt iLead
    rw [run_seq_cons, run_lineStart_zero, run_seq_cons, iLetter_oneChar.nil]
    rfl
  | [c], _ =>
    unfold matchAt iLead
    rw [run_seq_cons, run_lineStart_zero, run_seq_cons, seq_single]
    cases hc : isILetter c with
    | false => rw [iLetter_oneChar.refuse hc]; rfl
    | true => rw [iLetter_oneChar.take hc, (OneChar.lit {} '-').nil]; rfl
  | c :: d :: r, h =>
    -- dropping the lead would shorten the text
    have hcd : ¬ (isILetter c && d == '-') = true := fun hcd => by
      rw [dropILead, if_pos hcd] at h
      have := congrArg List.length h
      simp only [List.length_cons] at this
      omega
    rw [matchAt_iLead_cons, if_neg hcd]

theorem replace_iLead (s : String) :
    Pattern.replace {} iLead "" s = String.ofList (dropILead s.toList) := by
  by_cases hkeep : dropILead s.toList = s.toList
  · have hnone : searchFrom {} iLead false 0 none s.toList = none :=
      searchFrom_anchored_none (matchAt_iLead_none hkeep)
    rw [replace_eq_self _ hnone, hkeep, String.ofList_toList]
  · obtain ⟨c, d, r, hs, hcd⟩ := opens_of_dropILead_ne hkeep
    have hm := matchAt_iLead_cons c d r
    rw [if_pos hcd, ← hs] at hm
    have hall : findAll {} iLead s.toList = [_] := findAll_anchored rfl _ _ hm Nat.two_pos
    rw [replace_of_findAll_single hall rfl, hs, dropILead, if_pos hcd, String.empty_append]
    rfl

end ILead

/-! ## Runs of blanks -/

section BlankRuns

theorem squeezeFrom_nonblank {y : List Char} (hy : ∀ x ∈ y, isBlank x = false) (z : List Char) :
    squeezeFrom false (y ++ z) = y ++ squeezeFrom false z := by
  induction y with
  | nil => rfl
  | cons x y ih =>
    rw [List.cons_append, squeezeFrom, if_neg (by simp [hy x List.mem_cons_self]),
      ih fun x' hx' => hy x' (List.mem_cons_of_mem x hx')]
    rfl

theorem squeezeFrom_blanks {b : List Char} (hb : ∀ x ∈ b, isBlank x = true) (z : List Char) :
    squeezeFrom true (b ++ z) = squeezeFrom true z := by
  induction b with
  | nil => rfl
  | cons x b ih =>
    rw [List.cons_append, squeezeFrom, if_pos (hb x List.mem_cons_self), if_pos rfl,
      ih fun x' hx' => hb x' (List.mem_cons_of_mem x hx')]

theorem squeezeFrom_true_of_head {z : List Char} (hz : ∀ d ∈ z.head?, isBlank d = false) :
    squeezeFrom true z = squeezeFrom false z := by
  cases z with
  | nil => rfl
  | cons d z =>
    have hd : ¬ isBlank d = true := by simp [hz d rfl]
    rw [squeezeFrom, squeezeFrom, if_neg hd, if_neg hd]

theorem squeeze_of_nonblank {t : List Char} (ht : ∀ x ∈ t, isBlank x = false) : squeeze t = t := by
  simpa [squeeze, squeezeFrom] using squeezeFrom_nonblank ht []

/-- A stretch without blanks, then a run of blanks and a rest that does not open with one: the
run becomes one space. -/
theorem squeeze_run {y b r : List Char} (hy : ∀ x ∈ y, isBlank x = false) (hb0 : b ≠ [])
    (hb : ∀ x ∈ b, isBlank x = true) (hr : ∀ d ∈ r.head?, isBlank d = false) :
    squeeze (y ++ (b ++ r)) = y ++ ' ' :: squeeze r := by
  obtain ⟨x, b, rfl⟩ := List.exists_cons_of_ne_nil hb0
  rw [squeeze, squeezeFrom_nonblank hy, List.cons_append, squeezeFrom,
    if_pos (hb x List.mem_cons_self), if_neg Bool.false_ne_true,
    squeezeFrom_blanks (fun x' hx' => hb x' (List.mem_cons_of_mem x hx')),
    squeezeFrom_true_of_head hr, squeeze]

/-- A text either has no blank, or is a stretch without blanks, a run of blanks, and a rest
that does not open with a blank. -/
theorem blankRun_cases (t : List Char) :
    (∀ x ∈ t, isBlank x = false) ∨
      ∃ y b r, t = y ++ (b ++ r) ∧ (∀ x ∈ y, isBlank x = false) ∧ b ≠ [] ∧
        (∀ x ∈ b, isBlank x = true) ∧ ∀ d ∈ r.head?, isBlank d = false := by
  have hy : ∀ x ∈ t.takeWhile (fun c => !isBlank c), isBlank x = false := fun x hx => by
    simpa using List.mem_takeWhile_imp hx
  have ht := (List.takeWhile_append_dropWhile (p := fun c => !isBlank c) (l := t)).symm
  cases hrest : t.dropWhile (fun c => !isBlank c) with
  | nil =>
    rw [hrest, List.append_nil] at ht
    exact .inl (ht ▸ hy)
  | cons c rest =>
    have hc : isBlank c = true := by
      simpa using head_dropWhile (p := fun c => !isBlank c) t c (by rw [hrest]; rfl)
    refine .inr ⟨_, c :: rest.takeWhile isBlank, rest.dropWhile isBlank, ?_, hy, List.cons_ne_nil _ _,
      ?_, head_dropWhile rest⟩
    · rw [List.cons_append, List.takeWhile_append_dropWhile, ← hrest]
      exact ht
    · intro x hx
      rcases List.mem_cons.1 hx with rfl | hx
      · exact hc
      · exact List.mem_takeWhile_imp hx

/-- A run of blanks is matched to its end. -/
theorem matchAt_blankRun {b r : List Char} (hb0 : b ≠ []) (hb : ∀ x ∈ b, isBlank x = true)
    (hr : ∀ d ∈ r.head?, isBlank d = false) (pos : Nat) (prev : Option Char) :
    ∃ prev', matchAt {} (plus blank) false pos prev (b ++ r) =
      some ⟨pos, pos + b.length, [], prev', r⟩ := by
  obtain ⟨x, b, rfl⟩ := List.exists_cons_of_ne_nil hb0
  obtain ⟨prev', h⟩ := blank_oneChar.star_word_of_isSome (g := fun c => !(false && c.pos == pos))
    (k := []) (σ := []) b r (pos + 1) (some x) (fun y hy => hb y (List.mem_cons_of_mem x hy)) hr
    (fun _ => by rw [run_nil]; rfl)
  refine ⟨prev', ?_⟩
  unfold matchAt
  rw [Pattern.plus, run_cat, List.cons_append, blank_oneChar.take (hb x List.mem_cons_self), h,
    run_nil]
  simp only [Bool.false_and, Bool.not_false, ↓reduceIte, Option.map_some, List.length_cons]
  congr 2
  omega

theorem quietBefore_blankRun {y : List Char} (hy : ∀ x ∈ y, isBlank x = false) (t : List Char) :
    QuietBefore {} (plus blank) y t := by
  intro j hj pos prev
  rw [List.drop_eq_getElem_cons hj, List.cons_append]
  unfold matchAt
  rw [Pattern.plus, run_cat, blank_oneChar.refuse (hy _ (List.getElem_mem hj))]
  rfl

theorem matchAt_blankRun_nil (pos : Nat) (prev : Option Char) :
    matchAt {} (plus blank) false pos prev [] = none := by
  unfold matchAt
  rw [Pattern.plus, run_cat, blank_oneChar.nil]
  rfl

/-- The replacing fold over the runs of blanks from `pos` on writes the squeezed rest: each
round of the search takes one run, so the fuel that outlasts the text outlasts the runs. -/
theorem foldl_blankRuns (cs : List Char) :
    ∀ (fuel : Nat) (t : List Char) (pos : Nat) (prev : Option Char) (acc : String),
      cs.drop pos = t → t.length < fuel →
      ∃ out last, (findAllFrom {} (plus blank) fuel false pos prev t).foldl
          (fun (acc : String × Nat) m =>
            (acc.1 ++ String.ofList ((cs.drop acc.2).take (m.start - acc.2)) ++ " ", m.stop))
          (acc, pos) = (out, last) ∧
        out ++ String.ofList (cs.drop last) = acc ++ String.ofList (squeeze t)
  | 0, _, _, _, _, _, hfuel => absurd hfuel (Nat.not_lt_zero _)
  | fuel + 1, t, pos, prev, acc, hcs, hfuel => by
    rcases blankRun_cases t with ht | ⟨y, b, r, rfl, hy, hb0, hb, hr⟩
    · -- no blank: nothing is found, and the rest is kept
      have hnone := searchFrom_none (quietBefore_blankRun ht []) matchAt_blankRun_nil pos prev
      refine ⟨acc, pos, by rw [findAllFrom, hnone]; rfl, ?_⟩
      rw [hcs, squeeze_of_nonblank ht]
    · -- the stretch before the run is kept, the run becomes a space, and the rest follows
      obtain ⟨prev', hskip⟩ := findAllFrom_skip {} (plus blank) (fuel + 1) y (b ++ r) pos prev
        fun j hj prev' => quietBefore_blankRun hy (b ++ r) j hj (pos + j) prev'
      obtain ⟨prev'', hm⟩ := matchAt_blankRun hb0 hb hr (pos + y.length) prev'
      have hlen : 0 < b.length := List.length_pos_iff.2 hb0
      have hne : (pos + y.length == pos + y.length + b.length) = false := by
        simp only [beq_eq_false_iff_ne, ne_eq]
        omega
      have hpiece : (cs.drop pos).take (pos + y.length - pos) = y := by
        rw [hcs, Nat.add_sub_cancel_left, List.take_left' rfl]
      have hrest : cs.drop (pos + y.length + b.length) = r := by
        rw [Nat.add_assoc, ← List.drop_drop, hcs, ← List.append_assoc,
          List.drop_left' List.length_append]
      obtain ⟨out, last, hfold, heq⟩ := foldl_blankRuns cs fuel r (pos + y.length + b.length) prev''
        (acc ++ String.ofList y ++ " ") hrest (by simp at hfuel; omega)
      refine ⟨out, last, ?_, ?_⟩
      · rw [hskip, findAllFrom, searchFrom_of_matchAt hm]
        simp only [List.foldl_cons, hne, hpiece]
        exact hfold
      · rw [heq, squeeze_run hy hb0 hb hr, String.ofList_append, String.ofList_cons]
        simp [String.append_assoc]

theorem replace_blankRuns (s : String) :
    Pattern.replace {} (plus blank) " " s = String.ofList (squeeze s.toList) := by
  obtain ⟨out, last, hfold, heq⟩ := foldl_blankRuns s.toList (2 * s.toList.length + 2) s.toList 0
    none "" rfl (by omega)
  unfold Pattern.replace replaceBy findAll
  dsimp only
  rw [hfold]
  simpa using heq

end BlankRuns

/-! ## Tidying, as a function of lists -/

/-- Tidying strips the text, drops its bullet lead and then its `i-` lead, writes each run of
blanks as one space, and strips trailing dots and spaces and then the blanks at both ends. -/
theorem tidyAction_eq (s : String) :
    tidyAction s = strip (stripEndOf ['.', ' ']
      (String.ofList (squeeze (dropILead (dropBullets (strip s).toList))))) := by
  unfold tidyAction
  dsimp only
  rw [replace_bulletLead, replace_iLead, replace_blankRuns, String.toList_ofList,
    String.toList_ofList]

/-! ## The tidy form -/

/-- An action text in tidy form: not empty, no blank at either end, every blank a single space,
and no `.` at the end. -/
structure Tidy (cs : List Char) : Prop where
  ne_nil : cs ≠ []
  trimmed : Trimmed cs
  spaces : ∀ c ∈ cs, isBlank c = true → c = ' '
  single : ¬ [' ', ' '] <:+: cs
  no_dot : cs.getLast? ≠ some '.'

section Squeezed

theorem squeezeFrom_spaces (inRun : Bool) (cs : List Char) :
    ∀ c ∈ squeezeFrom inRun cs, isBlank c = true → c = ' ' := by
  induction cs generalizing inRun with
  | nil => simp [squeezeFrom]
  | cons d cs ih =>
    intro c hc hblank
    rw [squeezeFrom] at hc
    by_cases hd : isBlank d = true
    · rw [if_pos hd] at hc
      cases inRun
      · rcases List.mem_cons.1 hc with rfl | hc
        · rfl
        · exact ih true c hc hblank
      · exact ih true c hc hblank
    · rw [if_neg hd] at hc
      rcases List.mem_cons.1 hc with rfl | hc
      · exact absurd hblank hd
      · exact ih false c hc hblank

theorem head_squeezeFrom_true (cs : List Char) :
    ∀ d ∈ (squeezeFrom true cs).head?, isBlank d = false := by
  induction cs with
  | nil => simp [squeezeFrom]
  | cons c cs ih =>
    rw [squeezeFrom]
    by_cases hc : isBlank c = true
    · rw [if_pos hc, if_pos rfl]
      exact ih
    · rw [if_neg hc]
      simpa using hc

theorem squeezeFrom_single (inRun : Bool) (cs : List Char) :
    ¬ [' ', ' '] <:+: squeezeFrom inRun cs := by
  have hsp : isBlank ' ' = true := by decide
  induction cs generalizing inRun with
  | nil => simp [squeezeFrom]
  | cons c cs ih =>
    rw [squeezeFrom]
    by_cases hc : isBlank c = true
    · rw [if_pos hc]
      cases inRun
      · -- the space written for the run is followed by a character that is not blank
        rw [if_neg Bool.false_ne_true, List.infix_cons_iff]
        rintro (⟨u, hu⟩ | hi)
        · have hhead : (squeezeFrom true cs).head? = some ' ' := by
            simp only [List.cons_append, List.cons.injEq, true_and] at hu
            rw [← hu]
            rfl
          simpa [hsp] using head_squeezeFrom_true cs ' ' hhead
        · exact ih true hi
      · exact ih true
    · rw [if_neg hc, List.infix_cons_iff]
      rintro (⟨u, hu⟩ | hi)
      · simp only [List.cons_append, List.cons.injEq] at hu
        exact hc (hu.1 ▸ hsp)
      · exact ih false hi

theorem squeeze_eq_self {cs : List Char} (hsp : ∀ c ∈ cs, isBlank c = true → c = ' ')
    (hsg : ¬ [' ', ' '] <:+: cs) : squeeze cs = cs := by
  -- within a run the text goes on with a character that is not blank
  suffices h : ∀ inRun, (inRun = true → ∀ d ∈ cs.head?, isBlank d = false) →
      squeezeFrom inRun cs = cs from h false (by simp)
  induction cs with
  | nil => intro _ _; rfl
  | cons c cs ih =>
    intro inRun hrun
    have hsp' : ∀ c ∈ cs, isBlank c = true → c = ' ' := fun d hd => hsp d (List.mem_cons_of_mem c hd)
    have hsg' : ¬ [' ', ' '] <:+: cs := fun h => hsg (h.trans (List.suffix_cons c cs).isInfix)
    rw [squeezeFrom]
    by_cases hc : isBlank c = true
    · have hinRun : inRun = false := by
        cases inRun
        · rfl
        · simpa [hc] using hrun rfl c rfl
      have hspace := hsp c List.mem_cons_self hc
      -- a blank after this one would make two spaces in a row
      have hnext : ∀ d ∈ cs.head?, isBlank d = false := by
        intro d hd
        cases hdb : isBlank d
        · rfl
        · obtain ⟨u, rfl⟩ := List.head?_eq_some_iff.1 hd
          have hd' := hsp d (by simp) hdb
          subst hspace hd'
          exact absurd (List.prefix_append [' ', ' '] u).isInfix hsg
      rw [if_pos hc, hinRun, if_neg Bool.false_ne_true, ih hsp' hsg' true fun _ => hnext, hspace]
    · rw [if_neg hc, ih hsp' hsg' false (by simp)]

theorem length_squeezeFrom_le (inRun : Bool) (cs : List Char) :
    (squeezeFrom inRun cs).length ≤ cs.length := by
  induction cs generalizing inRun with
  | nil => simp [squeezeFrom]
  | cons c cs ih =>
    rw [squeezeFrom]
    split
    · split
      · exact Nat.le_succ_of_le (ih true)
      · simpa using ih true
    · simpa using ih false

end Squeezed

section Ends

theorem getLast_dropBack (p : Char → Bool) (l : List Char) :
    ∀ c ∈ (dropBack p l).getLast?, p c = false := by
  unfold dropBack
  rw [List.getLast?_reverse]
  exact head_dropWhile l.reverse

theorem getLast?_of_suffix {l₁ l₂ : List Char} (h : l₁ <:+ l₂) (hne : l₁ ≠ []) :
    l₁.getLast? = l₂.getLast? := by
  obtain ⟨t, rfl⟩ := h
  rw [List.getLast?_append]
  cases hl : l₁.getLast? with
  | none => exact absurd (List.getLast?_eq_none_iff.1 hl) hne
  | some c => rfl

/-- Stripping a text whose blanks are spaces after its trailing dots and spaces are gone leaves
a text in tidy form, or nothing. -/
theorem tidy_strip_stripEndOf {u : List Char} (hsp : ∀ c ∈ u, isBlank c = true → c = ' ')
    (hsg : ¬ [' ', ' '] <:+: u) (hne : strip (stripEndOf ['.', ' '] (String.ofList u)) ≠ "") :
    Tidy (strip (stripEndOf ['.', ' '] (String.ofList u))).toList := by
  set v := dropBack (· ∈ ['.', ' ']) u with hv
  have hvu : v <:+: u := (dropBack_prefix_self _ _).isInfix
  -- the last character left is neither a dot nor a space, so not a blank either
  have hlast : ∀ c ∈ v.getLast?, c ≠ '.' ∧ isBlank c = false := by
    intro c hc
    have hnot : c ≠ '.' ∧ c ≠ ' ' := by simpa using getLast_dropBack (· ∈ ['.', ' ']) u c hc
    refine ⟨hnot.1, ?_⟩
    cases hb : isBlank c
    · rfl
    · exact absurd (hsp c (hvu.subset (List.mem_of_getLast? hc)) hb) hnot.2
  set vk := dropFront isBlank v with hvk
  have hsuffix : vk <:+ v := List.dropWhile_suffix _
  have hkept : ∀ c ∈ vk.getLast?, c ≠ '.' ∧ isBlank c = false := by
    intro c hc
    have hkne : vk ≠ [] := by rintro h; simp [h] at hc
    exact hlast c (by rwa [← getLast?_of_suffix hsuffix hkne])
  have hres : (strip (stripEndOf ['.', ' '] (String.ofList u))).toList = vk := by
    rw [strip, stripEndOf, String.toList_ofList, String.toList_ofList, String.toList_ofList,
      ← hv, ← hvk, dropBack_eq_self fun c hc => (hkept c hc).2]
  have hkne : vk ≠ [] := by
    rw [← hres]
    exact fun h => hne (String.toList_eq_nil_iff.1 h)
  rw [hres]
  have hpart : vk <:+: u := hsuffix.isInfix.trans hvu
  refine ⟨hkne, ⟨head_dropWhile v, fun c hc => (hkept c hc).2⟩,
    fun c hc => hsp c (hpart.subset hc), fun h => hsg (h.trans hpart), fun h => ?_⟩
  exact (hkept '.' h).1 rfl

theorem tidy_tidyAction {s : String} (h : tidyAction s ≠ "") : Tidy (tidyAction s).toList := by
  rw [tidyAction_eq] at h ⊢
  exact tidy_strip_stripEndOf (squeezeFrom_spaces false _) (squeezeFrom_single false _) h

theorem tidy_of_tidied {v : Value} {y : String} (h : tidied v = some y) : Tidy y.toList := by
  have hy := ne_empty_of_tidied h
  unfold tidied at h
  split at h
  · cases h
  · split at h
    · cases h
    · rw [Option.some.injEq] at h
      rw [← h] at hy ⊢
      exact tidy_tidyAction hy

end Ends

/-! ## Leads are dropped once -/

section Leads

theorem length_dropILead_le (cs : List Char) : (dropILead cs).length ≤ cs.length := by
  unfold dropILead
  split
  · split
    · simp only [List.length_cons]
      omega
    · exact Nat.le_refl _
  · exact Nat.le_refl _

theorem length_dropLeads_lt {cs : List Char} (h : opensWithLead cs = true) :
    (dropILead (dropBullets cs)).length < cs.length := by
  match cs, h with
  | [c], h =>
    have hc : isBullet c = true := h
    simp [dropBullets, hc, dropILead]
  | c :: d :: r, h =>
    by_cases hc : isBullet c = true
    · -- the first bullet goes with the run it opens
      have hlt : (dropBullets (c :: d :: r)).length < (c :: d :: r).length := by
        rw [dropBullets, if_pos hc, List.dropWhile_cons_of_pos hc]
        have := (List.length_dropWhile_le isBlank _).trans (List.length_dropWhile_le isBullet (d :: r))
        simp only [List.length_cons] at this ⊢
        omega
      exact (length_dropILead_le _).trans_lt hlt
    · have hlead : (isILetter c && d == '-') = true := by simpa [opensWithLead, hc] using h
      rw [dropBullets, if_neg hc, dropILead, if_pos hlead]
      simp only [List.length_cons]
      omega

theorem dropLeads_eq_self {cs : List Char} (h : opensWithLead cs = false) :
    dropILead (dropBullets cs) = cs := by
  match cs, h with
  | [], _ => rfl
  | [c], h =>
    have hc : isBullet c = false := h
    simp [dropBullets, hc, dropILead]
  | c :: d :: r, h =>
    have hc : isBullet c = false ∧ (isILetter c && d == '-') = false := by
      simpa [opensWithLead] using h
    rw [dropBullets, if_neg (by simp [hc.1]), dropILead, if_neg (by simp [hc.2])]

theorem length_strip_le (s : String) : (strip s).toList.length ≤ s.toList.length :=
  (strip_contiguous s).length_le

/-- A text in tidy form is left as it is by another tidying exactly when it opens with no
lead; one that opens with a lead comes out shorter. -/
theorem tidyAction_eq_self_iff {s : String} (h : Tidy s.toList) :
    tidyAction s = s ↔ opensWithLead s.toList = false := by
  have hstrip := strip_eq_self h.trimmed
  constructor
  · intro hfix
    cases hlead : opensWithLead s.toList
    · rfl
    · -- every step keeps the length or shortens it, and the leads shorten it
      have hlt : (tidyAction s).toList.length < s.toList.length := by
        rw [tidyAction_eq, hstrip]
        calc _ ≤ (stripEndOf ['.', ' '] (String.ofList (squeeze (dropILead (dropBullets
                s.toList))))).toList.length := length_strip_le _
          _ ≤ (squeeze (dropILead (dropBullets s.toList))).length := by
              rw [stripEndOf, String.toList_ofList, String.toList_ofList]
              exact length_dropBack_le _ _
          _ ≤ (dropILead (dropBullets s.toList)).length := length_squeezeFrom_le false _
          _ < s.toList.length := length_dropLeads_lt hlead
      rw [hfix] at hlt
      exact absurd hlt (Nat.lt_irrefl _)
  · intro hlead
    have hend : ∀ c ∈ s.toList.getLast?, c ∉ ['.', ' '] := by
      intro c hc
      have hblank := h.trimmed.2 c hc
      have hdot : c ≠ '.' := fun hc' => h.no_dot (hc' ▸ hc)
      have hspace : c ≠ ' ' := by
        rintro rfl
        exact absurd hblank (by decide)
      simp [hdot, hspace]
    rw [tidyAction_eq, hstrip, dropLeads_eq_self hlead, squeeze_eq_self h.spaces h.single,
      String.ofList_toList, stripEndOf_eq_self hend, hstrip]

end Leads

/-! ## The first of the texts equal ignoring case -/

theorem foldl_keepNew_eq (ys : List String) (acc : List String × List String) :
    (ys.foldl keepNew acc).1 = acc.1 ++ (ys.filter fun y => !acc.2.contains (lower y)).eraseDupsBy
      (fun a b => lower a == lower b) := by
  induction ys generalizing acc with
  | nil => simp
  | cons y ys ih =>
    rw [List.foldl_cons, ih]
    by_cases hy : acc.2.contains (lower y) = true
    · have hkeep : keepNew acc y = acc := if_pos hy
      have hmem : lower y ∈ acc.2 := List.contains_iff_mem.1 hy
      simp [hkeep, hmem]
    · -- `y` is kept, and the texts after it equal to it ignoring case are passed over
      have hkeep : keepNew acc y = (acc.1 ++ [y], acc.2 ++ [lower y]) := if_neg hy
      simp only [hkeep, hy, List.filter_cons, Bool.not_false, ↓reduceIte, List.eraseDupsBy_cons,
        List.filter_filter, List.append_assoc, List.singleton_append, List.contains_append,
        List.contains_cons, List.contains_nil, Bool.or_false, Bool.not_or]
      refine congrArg (fun l : List String =>
        acc.1 ++ y :: l.eraseDupsBy (fun a b => lower a == lower b)) ?_
      refine List.filter_congr fun z _ => ?_
      cases lower z == lower y <;> simp [Bool.and_comm]

theorem dedupeIgnoringCase_eq_eraseDupsBy (ys : List String) :
    dedupeIgnoringCase ys = ys.eraseDupsBy (fun a b => lower a == lower b) := by
  rw [dedupeIgnoringCase_eq, foldl_keepNew_eq, List.nil_append]
  congr 1
  exact List.filter_eq_self.2 fun _ _ => rfl

/-! ## The actions kept -/

/-- The actions kept are, in input order, the first of the tidied texts that are equal ignoring
case, so no two are equal ignoring case; each is in tidy form; and each is left as it is by
another tidying exactly when it opens with no bullet and no `i-` or `I-`. -/
theorem tidyActions_first_tidy (xs : List Value) :
    tidyActions xs = (xs.filterMap tidied).eraseDupsBy (fun a b => lower a == lower b) ∧
    ((tidyActions xs).map lower).Nodup ∧
    ∀ y ∈ tidyActions xs, Tidy y.toList ∧ (tidyAction y = y ↔ opensWithLead y.toList = false) := by
  rw [tidyActions_eq]
  refine ⟨dedupeIgnoringCase_eq_eraseDupsBy _, dedupeIgnoringCase_nodup _, fun y hy => ?_⟩
  obtain ⟨v, -, hv⟩ := List.mem_filterMap.1 (mem_of_mem_dedupeIgnoringCase hy)
  have htidy := tidy_of_tidied hv
  exact ⟨htidy, tidyAction_eq_self_iff htidy⟩

/-- A bullet after the first run of bullets and its blank is kept: `- - x` is kept as `- x`, which
opens with a bullet. -/
theorem tidyActions_repeated_bullet :
    tidyActions [.str "- - x"] = ["- x"] ∧ opensWithLead "- x".toList = true := by
  have htidy : tidyAction "- - x" = "- x" := by
    rw [tidyAction_eq]
    decide +kernel
  have hshown : (Value.str "- - x").display = "- - x" := rfl
  have htidied : tidied (.str "- - x") = some "- x" := by
    rw [tidied, hshown, htidy]
    decide +kernel
  refine ⟨?_, by decide +kernel⟩
  rw [tidyActions_eq, List.filterMap_cons, htidied, List.filterMap_nil]
  rfl

end Taskflow.Task
