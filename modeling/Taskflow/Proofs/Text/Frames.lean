import Taskflow.Text.Pattern.Search
/-!
Running the matcher's frames one step at a time.
-/

namespace Taskflow.Text

open Pattern

theorem seq_cons_cons (p q : Pattern) (ps : List Pattern) :
    seq (p :: q :: ps) = .cat p (seq (q :: ps)) := rfl

theorem seq_single (p : Pattern) : seq [p] = p := rfl

theorem litAccepts_self (fl : MatchFlags) (c : Char) : litAccepts fl c c = true := by
  simp [litAccepts]

/-- The text begins with the word, letter by letter as the flags compare letters. -/
def spells (fl : MatchFlags) : List Char → List Char → Bool
  | [], _ => true
  | _ :: _, [] => false
  | c :: cs, d :: ds => litAccepts fl c d && spells fl cs ds

section Step

variable {fl : MatchFlags} {g : Cursor → Bool} {k : List Frame} {σ : List (Nat × Nat × Nat)}

theorem run_nil (pos : Nat) (prev : Option Char) (rest : List Char) :
    runFrames fl g [] pos prev rest σ =
      if g ⟨pos, prev, rest, σ⟩ then some ⟨pos, prev, rest, σ⟩ else none := by
  rw [runFrames]

-- Unfolding the loop in an example, elaborated before the step lemmas below, makes its
-- equation lemmas once rather than in each of their proofs at the same time.
example : runFrames {} (fun _ => true) [] 0 none [] [] = some ⟨0, none, [], []⟩ := by
  rw [runFrames]; rfl

theorem run_empty (pos : Nat) (prev : Option Char) (rest : List Char) :
    runFrames fl g (.run .empty :: k) pos prev rest σ = runFrames fl g k pos prev rest σ := by
  rw [runFrames]

theorem run_cat (p q : Pattern) (pos : Nat) (prev : Option Char) (rest : List Char) :
    runFrames fl g (.run (.cat p q) :: k) pos prev rest σ =
      runFrames fl g (.run p :: .run q :: k) pos prev rest σ := by
  rw [runFrames]

theorem run_alt (p q : Pattern) (pos : Nat) (prev : Option Char) (rest : List Char) :
    runFrames fl g (.run (.alt p q) :: k) pos prev rest σ =
      (runFrames fl g (.run p :: k) pos prev rest σ).or
        (runFrames fl g (.run q :: k) pos prev rest σ) := by
  rw [runFrames]
  cases runFrames fl g (.run p :: k) pos prev rest σ <;> rfl

theorem run_star_greedy (p : Pattern) (pos : Nat) (prev : Option Char) (rest : List Char) :
    runFrames fl g (.run (.star p false) :: k) pos prev rest σ =
      (runFrames fl g (.run p :: .loop p false rest.length :: k) pos prev rest σ).or
        (runFrames fl g k pos prev rest σ) := by
  rw [runFrames]
  cases runFrames fl g (.run p :: .loop p false rest.length :: k) pos prev rest σ <;> rfl

theorem run_star_lazy (p : Pattern) (pos : Nat) (prev : Option Char) (rest : List Char) :
    runFrames fl g (.run (.star p true) :: k) pos prev rest σ =
      (runFrames fl g k pos prev rest σ).or
        (runFrames fl g (.run p :: .loop p true rest.length :: k) pos prev rest σ) := by
  rw [runFrames]
  cases runFrames fl g k pos prev rest σ <;> rfl

theorem run_group (n : Nat) (p : Pattern) (pos : Nat) (prev : Option Char) (rest : List Char) :
    runFrames fl g (.run (.group n p) :: k) pos prev rest σ =
      runFrames fl g (.run p :: .close n pos :: k) pos prev rest σ := by
  rw [runFrames]

theorem run_close (n start pos : Nat) (prev : Option Char) (rest : List Char) :
    runFrames fl g (.close n start :: k) pos prev rest σ =
      runFrames fl g k pos prev rest ((n, start, pos) :: σ) := by
  rw [runFrames]

theorem run_loop_of_lt (p : Pattern) (lz : Bool) {s : Nat} (pos : Nat) (prev : Option Char)
    {rest : List Char} (h : rest.length < s) :
    runFrames fl g (.loop p lz s :: k) pos prev rest σ =
      runFrames fl g (.run (.star p lz) :: k) pos prev rest σ := by
  conv => lhs; rw [runFrames]
  rw [if_pos h]

theorem run_seq_cons (p q : Pattern) (ps : List Pattern) (pos : Nat) (prev : Option Char)
    (rest : List Char) :
    runFrames fl g (.run (seq (p :: q :: ps)) :: k) pos prev rest σ =
      runFrames fl g (.run p :: .run (seq (q :: ps)) :: k) pos prev rest σ := by
  rw [seq_cons_cons, run_cat]

theorem run_wordEdge (pos : Nat) (prev : Option Char) (rest : List Char) :
    runFrames fl g (.run .wordEdge :: k) pos prev rest σ =
      if atWordEdge prev rest then runFrames fl g k pos prev rest σ else none := by
  rw [runFrames]

theorem run_lineStart_zero (rest : List Char) :
    runFrames fl g (.run .lineStart :: k) 0 none rest σ = runFrames fl g k 0 none rest σ := by
  rw [runFrames]
  rfl

/-- Past the start of the text, a line starts only after a line end in multiline mode. -/
theorem run_lineStart_of_pos (hfl : fl.multiline = false) {pos : Nat} (hpos : 0 < pos)
    (prev : Option Char) (rest : List Char) :
    runFrames fl g (.run .lineStart :: k) pos prev rest σ = none := by
  rw [runFrames, if_neg]
  simp [atLineStart, hfl, Nat.pos_iff_ne_zero.1 hpos]

end Step

/-- A pattern that takes one character, one that `A` accepts. -/
structure OneChar (fl : MatchFlags) (p : Pattern) (A : Char → Bool) : Prop where
  cons : ∀ (g : Cursor → Bool) (k : List Frame) (pos : Nat) (prev : Option Char) (d : Char)
    (ds : List Char) (σ : List (Nat × Nat × Nat)),
    runFrames fl g (.run p :: k) pos prev (d :: ds) σ =
      if A d then runFrames fl g k (pos + 1) (some d) ds σ else none
  nil : ∀ (g : Cursor → Bool) (k : List Frame) (pos : Nat) (prev : Option Char)
    (σ : List (Nat × Nat × Nat)), runFrames fl g (.run p :: k) pos prev [] σ = none

theorem OneChar.lit (fl : MatchFlags) (c : Char) : OneChar fl (.lit c) (litAccepts fl c) :=
  ⟨fun _ _ _ _ _ _ _ => by rw [runFrames], fun _ _ _ _ _ => by rw [runFrames]⟩

theorem OneChar.oneOf (fl : MatchFlags) (ts : List CharTest) :
    OneChar fl (.oneOf ts) (classAccepts fl ts) :=
  ⟨fun _ _ _ _ _ _ _ => by rw [runFrames], fun _ _ _ _ _ => by rw [runFrames]⟩

theorem OneChar.noneOf (fl : MatchFlags) (ts : List CharTest) :
    OneChar fl (.noneOf ts) (fun d => !classAccepts fl ts d) :=
  ⟨fun _ _ _ _ _ _ _ => by rw [runFrames], fun _ _ _ _ _ => by rw [runFrames]⟩

theorem OneChar.dot (fl : MatchFlags) : OneChar fl .dot (fun d => d != '\n') :=
  ⟨fun _ _ _ _ d _ _ => by rw [runFrames]; by_cases h : d = '\n' <;> simp [h],
   fun _ _ _ _ _ => by rw [runFrames]⟩

theorem classAccepts_blank (d : Char) : classAccepts {} [.blank] d = isBlank d := by
  simp [classAccepts, CharTest.accepts]

theorem blank_oneChar : OneChar {} blank isBlank := by
  have h := OneChar.oneOf {} [.blank]
  rwa [show classAccepts {} [.blank] = isBlank from funext classAccepts_blank] at h

namespace OneChar

variable {fl : MatchFlags} {g : Cursor → Bool} {k : List Frame} {σ : List (Nat × Nat × Nat)}
  {p : Pattern} {A : Char → Bool} (hp : OneChar fl p A)
include hp

theorem take {d : Char} (hd : A d = true) (ds : List Char) (pos : Nat) (prev : Option Char) :
    runFrames fl g (.run p :: k) pos prev (d :: ds) σ =
      runFrames fl g k (pos + 1) (some d) ds σ := by
  rw [hp.cons, if_pos hd]

theorem refuse {d : Char} (hd : A d = false) (ds : List Char) (pos : Nat) (prev : Option Char) :
    runFrames fl g (.run p :: k) pos prev (d :: ds) σ = none := by
  rw [hp.cons, hd]
  rfl

theorem star_end (pos : Nat) (prev : Option Char) :
    runFrames fl g (.run (.star p false) :: k) pos prev [] σ = runFrames fl g k pos prev [] σ := by
  rw [run_star_greedy, hp.nil, Option.none_or]

/-- A greedy repetition stops at a character it refuses. -/
theorem star_stop {d : Char} (hd : A d = false) (ds : List Char) (pos : Nat) (prev : Option Char) :
    runFrames fl g (.run (.star p false) :: k) pos prev (d :: ds) σ =
      runFrames fl g k pos prev (d :: ds) σ := by
  rw [run_star_greedy, hp.refuse hd, Option.none_or]

/-- A greedy repetition first tries to take one more character, and stops here only when that
leads nowhere. -/
theorem star_cons {x : Char} (hx : A x = true) (xs : List Char) (pos : Nat) (prev : Option Char) :
    runFrames fl g (.run (.star p false) :: k) pos prev (x :: xs) σ =
      (runFrames fl g (.run (.star p false) :: k) (pos + 1) (some x) xs σ).or
        (runFrames fl g k pos prev (x :: xs) σ) := by
  rw [run_star_greedy, hp.take hx, run_loop_of_lt _ _ _ _ (by simp)]

/-- A greedy repetition stops where the text leaves it: at the end, or at a character it
refuses. -/
theorem star_rest {r : List Char} (hr : ∀ d ∈ r.head?, A d = false) (pos : Nat)
    (prev : Option Char) :
    runFrames fl g (.run (.star p false) :: k) pos prev r σ = runFrames fl g k pos prev r σ := by
  cases r with
  | nil => exact hp.star_end pos prev
  | cons d ds => exact hp.star_stop (hr d rfl) ds pos prev

/-- A greedy repetition takes a whole stretch it accepts when what follows cannot start inside
the stretch. -/
theorem star_word (w r : List Char) (pos : Nat) (prev : Option Char) (hw : ∀ x ∈ w, A x = true)
    (hr : ∀ d ∈ r.head?, A d = false)
    (hk : ∀ j < w.length, ∀ prev', runFrames fl g k (pos + j) prev' (w.drop j ++ r) σ = none) :
    ∃ prev', runFrames fl g (.run (.star p false) :: k) pos prev (w ++ r) σ =
      runFrames fl g k (pos + w.length) prev' r σ := by
  induction w generalizing pos prev with
  | nil => exact ⟨prev, by rw [List.nil_append, hp.star_rest hr]; rfl⟩
  | cons x w ih =>
    obtain ⟨prev', h⟩ := ih (pos + 1) (some x) (fun y hy => hw y (List.mem_cons_of_mem x hy))
      fun j hj prev' => by
        simpa [Nat.add_assoc, Nat.add_comm 1 j] using hk (j + 1) (by simpa using hj) prev'
    have h0 : runFrames fl g k pos prev (x :: (w ++ r)) σ = none := by
      simpa using hk 0 (by simp) prev
    refine ⟨prev', ?_⟩
    rw [List.cons_append, hp.star_cons (hw x List.mem_cons_self), h, h0, Option.or_none]
    simp only [List.length_cons]
    congr 1
    omega

/-- A greedy repetition takes a whole stretch it accepts when what follows matches after it. -/
theorem star_word_of_isSome (w r : List Char) (pos : Nat) (prev : Option Char)
    (hw : ∀ x ∈ w, A x = true) (hr : ∀ d ∈ r.head?, A d = false)
    (hk : ∀ prev', (runFrames fl g k (pos + w.length) prev' r σ).isSome) :
    ∃ prev', runFrames fl g (.run (.star p false) :: k) pos prev (w ++ r) σ =
      runFrames fl g k (pos + w.length) prev' r σ := by
  induction w generalizing pos prev with
  | nil => exact ⟨prev, by rw [List.nil_append, hp.star_rest hr]; rfl⟩
  | cons x w ih =>
    obtain ⟨prev', h⟩ := ih (pos + 1) (some x) (fun y hy => hw y (List.mem_cons_of_mem x hy))
      fun prev' => by simpa [Nat.add_assoc, Nat.add_comm 1] using hk prev'
    -- the longer stretch already matches, so the shorter ones are never tried
    obtain ⟨c, hc⟩ := Option.isSome_iff_exists.mp (hk prev')
    refine ⟨prev', ?_⟩
    have hpos : pos + (x :: w).length = pos + 1 + w.length := by simp; omega
    rw [hpos] at hc ⊢
    rw [List.cons_append, hp.star_cons (hw x List.mem_cons_self), h, hc]
    rfl

/-- A lazy repetition grows one character at a time until what follows first matches. -/
theorem lazy_word (w r : List Char) (pos : Nat) (prev : Option Char) (hw : ∀ x ∈ w, A x = true)
    (hk : ∀ j < w.length, ∀ prev', runFrames fl g k (pos + j) prev' (w.drop j ++ r) σ = none)
    (hend : ∀ prev', (runFrames fl g k (pos + w.length) prev' r σ).isSome) :
    ∃ prev', runFrames fl g (.run (.star p true) :: k) pos prev (w ++ r) σ =
      runFrames fl g k (pos + w.length) prev' r σ := by
  induction w generalizing pos prev with
  | nil =>
    refine ⟨prev, ?_⟩
    have hsome := hend prev
    simp only [List.length_nil, Nat.add_zero] at hsome ⊢
    obtain ⟨c, hc⟩ := Option.isSome_iff_exists.mp hsome
    rw [List.nil_append, run_star_lazy, hc]
    rfl
  | cons x w ih =>
    -- what follows fails here, so the repetition takes `x` and tries again
    have h0 : runFrames fl g k pos prev (x :: (w ++ r)) σ = none := by
      simpa using hk 0 (by simp) prev
    obtain ⟨prev', h⟩ := ih (pos + 1) (some x) (fun y hy => hw y (List.mem_cons_of_mem x hy))
      (fun j hj prev' => by
        simpa [Nat.add_assoc, Nat.add_comm 1 j] using hk (j + 1) (by simpa using hj) prev')
      fun prev' => by simpa [Nat.add_assoc, Nat.add_comm 1] using hend prev'
    refine ⟨prev', ?_⟩
    rw [List.cons_append, run_star_lazy, h0, Option.none_or, hp.take (hw x List.mem_cons_self),
      run_loop_of_lt _ _ _ _ (by simp), h]
    simp only [List.length_cons]
    congr 1
    omega

/-- A group of a greedy run that closes the match takes the whole stretch it accepts, up to
the end of the text or a character it refuses. -/
theorem run_group_plus (hg : ∀ c, g c = true) {a r : List Char} (ha : a ≠ [])
    (haA : ∀ x ∈ a, A x = true) (hr : ∀ d ∈ r.head?, A d = false) (n pos : Nat)
    (prev : Option Char) :
    ∃ prev', runFrames fl g [.run (.group n (plus p))] pos prev (a ++ r) [] =
      some ⟨pos + a.length, prev', r, [(n, pos, pos + a.length)]⟩ := by
  obtain ⟨x, xs, rfl⟩ := List.exists_cons_of_ne_nil ha
  have hend : ∀ prev', (runFrames fl g [.close n pos] (pos + 1 + xs.length) prev' r []).isSome :=
    fun prev' => by rw [run_close, run_nil, if_pos (hg _)]; rfl
  obtain ⟨prev', h⟩ := hp.star_word_of_isSome (g := g) (k := [.close n pos]) (σ := []) xs r
    (pos + 1) (some x) (fun y hy => haA y (List.mem_cons_of_mem x hy)) hr hend
  refine ⟨prev', ?_⟩
  have hlen : pos + 1 + xs.length = pos + (x :: xs).length := by simp; omega
  rw [run_group, plus, run_cat, List.cons_append, hp.take (haA x List.mem_cons_self), h, run_close,
    run_nil, if_pos (hg _), hlen]

end OneChar

section Word

variable {fl : MatchFlags} {g : Cursor → Bool} {k : List Frame} {σ : List (Nat × Nat × Nat)}

theorem litAccepts_of_ne {fl : MatchFlags} (hfl : fl.ignoreCase = false) {c d : Char} (h : c ≠ d) :
    litAccepts fl c d = false := by
  simp [litAccepts, hfl, h]

/-- Where letters are compared as they are, a text spells a word only when the word is a prefix
of it. -/
theorem spells_eq_false {fl : MatchFlags} (hfl : fl.ignoreCase = false) {cs y : List Char}
    (h : ¬ cs <+: y) : spells fl cs y = false := by
  induction cs generalizing y with
  | nil => exact absurd List.nil_prefix h
  | cons c cs ih =>
    cases y with
    | nil => rfl
    | cons d ds =>
      rw [List.cons_prefix_cons] at h
      by_cases hcd : c = d
      · subst hcd
        simp [spells, litAccepts_self, ih fun h' => h ⟨rfl, h'⟩]
      · simp [spells, litAccepts_of_ne hfl hcd]

/-- A word of literals takes its own letters off the front of the text. -/
theorem run_word (cs rest : List Char) (pos : Nat) (prev : Option Char) :
    ∃ prev', runFrames fl g (.run (seq (cs.map .lit)) :: k) pos prev (cs ++ rest) σ =
      runFrames fl g k (pos + cs.length) prev' rest σ := by
  induction cs generalizing pos prev with
  | nil => exact ⟨prev, by rw [List.map_nil, seq, run_empty]; rfl⟩
  | cons c cs ih =>
    cases cs with
    | nil => exact ⟨some c, by simp [seq, (OneChar.lit fl c).take (litAccepts_self fl c)]⟩
    | cons c' cs =>
      obtain ⟨prev', h⟩ := ih (pos + 1) (some c)
      refine ⟨prev', ?_⟩
      rw [List.map_cons, List.map_cons, run_seq_cons, List.cons_append,
        (OneChar.lit fl c).take (litAccepts_self fl c), ← List.map_cons, h]
      simp only [List.length_cons]
      congr 1
      omega

/-- A word of literals takes its own letters, and the last of them is the one seen before what
follows. -/
theorem run_word_last (c : Char) (cs rest : List Char) (pos : Nat) (prev : Option Char) :
    runFrames fl g (.run (seq ((c :: cs).map .lit)) :: k) pos prev (c :: cs ++ rest) σ =
      runFrames fl g k (pos + (c :: cs).length) (c :: cs).getLast? rest σ := by
  induction cs generalizing c pos prev with
  | nil => simp [seq, (OneChar.lit fl c).take (litAccepts_self fl c)]
  | cons c' cs ih =>
    rw [List.map_cons, List.map_cons, run_seq_cons, List.cons_append,
      (OneChar.lit fl c).take (litAccepts_self fl c), ← List.map_cons, ih]
    simp only [List.length_cons, List.getLast?_cons_cons]
    congr 1
    omega

/-- A word of literals fails on a text that does not begin with it. -/
theorem run_word_none (cs rest : List Char) (pos : Nat) (prev : Option Char)
    (h : spells fl cs rest = false) :
    runFrames fl g (.run (seq (cs.map .lit)) :: k) pos prev rest σ = none := by
  induction cs generalizing rest pos prev with
  | nil => simp [spells] at h
  | cons c cs ih =>
    cases rest with
    | nil =>
      cases cs with
      | nil => exact (OneChar.lit fl c).nil g k pos prev σ
      | cons c' cs =>
        rw [List.map_cons, List.map_cons, run_seq_cons]
        exact (OneChar.lit fl c).nil _ _ pos prev σ
    | cons d ds =>
      simp only [spells, Bool.and_eq_false_iff] at h
      cases hcd : litAccepts fl c d with
      | false =>
        cases cs with
        | nil => exact (OneChar.lit fl c).refuse hcd ds pos prev
        | cons c' cs =>
          rw [List.map_cons, List.map_cons, run_seq_cons]
          exact (OneChar.lit fl c).refuse hcd ds pos prev
      | true =>
        have hcs : spells fl cs ds = false := by simpa [hcd] using h
        cases cs with
        | nil => simp [spells] at hcs
        | cons c' cs =>
          rw [List.map_cons, List.map_cons, run_seq_cons, (OneChar.lit fl c).take hcd]
          exact ih ds (pos + 1) (some d) hcs

end Word

section Search

/-- A search passes over a stretch where no match starts. -/
theorem searchFrom_skip (fl : MatchFlags) (p : Pattern) (q r : List Char) (pos : Nat)
    (prev : Option Char)
    (h : ∀ j < q.length, ∀ prev', matchAt fl p false (pos + j) prev' (q.drop j ++ r) = none) :
    ∃ prev', searchFrom fl p false pos prev (q ++ r) =
      searchFrom fl p false (pos + q.length) prev' r := by
  induction q generalizing pos prev with
  | nil => exact ⟨prev, by simp⟩
  | cons x q ih =>
    have h0 : matchAt fl p false pos prev (x :: (q ++ r)) = none := by
      simpa using h 0 (by simp) prev
    obtain ⟨prev', h'⟩ := ih (pos + 1) (some x) fun j hj prev' => by
      simpa [Nat.add_assoc, Nat.add_comm 1 j] using h (j + 1) (by simpa using hj) prev'
    refine ⟨prev', ?_⟩
    rw [List.cons_append, searchFrom, h0]
    simp only [h', List.length_cons]
    congr 1
    omega

/-- A search at a place where a match starts finds it. -/
theorem searchFrom_of_matchAt {fl : MatchFlags} {p : Pattern} {nonEmpty : Bool} {pos : Nat}
    {prev : Option Char} {t : List Char} {m : Found} (h : matchAt fl p nonEmpty pos prev t = some m) :
    searchFrom fl p nonEmpty pos prev t = some m := by
  cases t with
  | nil => exact h
  | cons c cs => rw [searchFrom, h]

/-- A round of the search passes over a stretch where no match starts. -/
theorem findAllFrom_skip (fl : MatchFlags) (p : Pattern) (fuel : Nat) (q r : List Char) (pos : Nat)
    (prev : Option Char)
    (h : ∀ j < q.length, ∀ prev', matchAt fl p false (pos + j) prev' (q.drop j ++ r) = none) :
    ∃ prev', findAllFrom fl p fuel false pos prev (q ++ r) =
      findAllFrom fl p fuel false (pos + q.length) prev' r := by
  obtain ⟨prev', hs⟩ := searchFrom_skip fl p q r pos prev h
  refine ⟨prev', ?_⟩
  cases fuel with
  | zero => rfl
  | succ fuel => rw [findAllFrom, hs, findAllFrom]

theorem Found.groupD_single (start stop a n : Nat) (prev : Option Char) (rest cs : List Char) :
    Found.groupD ⟨start, stop, [(1, a, a + n)], prev, rest⟩ cs 1 =
      String.ofList ((cs.drop a).take n) := by
  simp [Found.groupD, Found.group]

theorem matchAt_cat_lit_nil (fl : MatchFlags) (c : Char) (q : Pattern) (pos : Nat)
    (prev : Option Char) : matchAt fl (.cat (.lit c) q) false pos prev [] = none := by
  unfold matchAt
  rw [run_cat, (OneChar.lit _ _).nil]
  rfl

/-- Nor, when case counts, where the text opens with another character. -/
theorem matchAt_cat_lit_of_ne {fl : MatchFlags} (hfl : fl.ignoreCase = false) {c d : Char}
    (hd : d ≠ c) (q : Pattern) (t : List Char) (pos : Nat) (prev : Option Char) :
    matchAt fl (.cat (.lit c) q) false pos prev (d :: t) = none := by
  unfold matchAt
  rw [run_cat, (OneChar.lit _ _).refuse (litAccepts_of_ne hfl (Ne.symm hd))]
  rfl

/-- No match starts inside the stretch `x` when `t` follows it. -/
def QuietBefore (fl : MatchFlags) (p : Pattern) (x t : List Char) : Prop :=
  ∀ j < x.length, ∀ pos prev, matchAt fl p false pos prev (x.drop j ++ t) = none

/-- A pattern that opens with a literal starts nowhere in a stretch without it. -/
theorem quietBefore_cat_lit {fl : MatchFlags} (hfl : fl.ignoreCase = false) {c : Char}
    {q : Pattern} {x : List Char} (hx : c ∉ x) (t : List Char) :
    QuietBefore fl (.cat (.lit c) q) x t := by
  intro j hj pos prev
  have hne : x[j] ≠ c := fun h => hx (h ▸ List.getElem_mem hj)
  rw [List.drop_eq_getElem_cons hj, List.cons_append]
  exact matchAt_cat_lit_of_ne hfl hne q _ pos prev

theorem QuietBefore.append {fl : MatchFlags} {p : Pattern} {x y t : List Char}
    (hx : QuietBefore fl p x (y ++ t)) (hy : QuietBefore fl p y t) :
    QuietBefore fl p (x ++ y) t := by
  intro j hj pos prev
  rw [List.drop_append]
  by_cases hjx : j < x.length
  · rw [Nat.sub_eq_zero_of_le (Nat.le_of_lt hjx), List.drop_zero, List.append_assoc]
    exact hx j hjx pos prev
  · rw [List.drop_eq_nil_of_le (Nat.le_of_not_lt hjx), List.nil_append]
    exact hy (j - x.length) (by simp at hj; omega) pos prev

/-- The search finds nothing in a text where no match starts, its end included. -/
theorem searchFrom_none {fl : MatchFlags} {p : Pattern} {x : List Char}
    (h : QuietBefore fl p x []) (hend : ∀ pos prev, matchAt fl p false pos prev [] = none)
    (pos : Nat) (prev : Option Char) : searchFrom fl p false pos prev x = none := by
  obtain ⟨prev', hs⟩ := searchFrom_skip fl p x [] pos prev fun j hj prev' => h j hj _ prev'
  rw [List.append_nil] at hs
  rw [hs, searchFrom]
  exact hend _ prev'

/-- The pattern matches the separator `S` exactly, wherever it stands. -/
def MatchesExactly (fl : MatchFlags) (p : Pattern) (S : List Char) : Prop :=
  ∀ pos prev r, ∃ sp pv,
    matchAt fl p false pos prev (S ++ r) = some ⟨pos, pos + S.length, sp, pv, r⟩

/-- No match starts in the piece `x`, whether the separator `S` or the end of the text follows
it. -/
def QuietPiece (fl : MatchFlags) (p : Pattern) (S x : List Char) : Prop :=
  (∀ r, QuietBefore fl p x (S ++ r)) ∧ QuietBefore fl p x []

theorem length_le_flatMap_sep {S : List Char} (hS : S ≠ []) (ys : List (List Char)) :
    ys.length ≤ (ys.flatMap (· ++ S)).length := by
  have hlen : 0 < S.length := List.length_pos_iff.2 hS
  induction ys with
  | nil => simp
  | cons y ys ih =>
    simp only [List.flatMap_cons, List.length_append, List.length_cons]
    omega

section Pieces

variable {fl : MatchFlags} {p : Pattern} {S : List Char}

/-- Over pieces each followed by the separator and then a last piece, the matches are the
separators, and the splitting fold collects the pieces before them. -/
theorem foldl_findAllFrom_pieces (hS : S ≠ []) (hsep : MatchesExactly fl p S)
    (hend : ∀ pos prev, matchAt fl p false pos prev [] = none) (cs z : List Char)
    (hz : QuietPiece fl p S z) :
    ∀ ys : List (List Char), (∀ y ∈ ys, QuietPiece fl p S y) →
      ∀ (fuel pos : Nat) (prev : Option Char) (acc : List String), ys.length < fuel →
        cs.drop pos = ys.flatMap (· ++ S) ++ z →
        (findAllFrom fl p fuel false pos prev (ys.flatMap (· ++ S) ++ z)).foldl
            (fun (acc : List String × Nat) m =>
              (String.ofList ((cs.drop acc.2).take (m.start - acc.2)) :: acc.1, m.stop)) (acc, pos) =
          ((ys.map String.ofList).reverse ++ acc, pos + (ys.flatMap (· ++ S)).length)
  | [], _, fuel, pos, prev, acc, hfuel, _ => by
    obtain ⟨fuel, rfl⟩ : ∃ n, fuel = n + 1 := ⟨fuel - 1, by simp at hfuel; omega⟩
    simp [findAllFrom, searchFrom_none hz.2 hend]
  | y :: ys, hys, fuel, pos, prev, acc, hfuel, hcs => by
    obtain ⟨fuel, rfl⟩ : ∃ n, fuel = n + 1 := ⟨fuel - 1, by simp at hfuel; omega⟩
    have hy := hys y List.mem_cons_self
    have htext : (y :: ys).flatMap (· ++ S) ++ z = y ++ (S ++ (ys.flatMap (· ++ S) ++ z)) := by
      simp [List.append_assoc]
    rw [htext] at hcs ⊢
    -- no match starts inside the piece, so the search reaches the separator after it
    obtain ⟨prev', hskip⟩ := findAllFrom_skip fl p (fuel + 1) y (S ++ (ys.flatMap (· ++ S) ++ z))
      pos prev fun j hj prev' => hy.1 _ j hj (pos + j) prev'
    obtain ⟨sp, pv, hm⟩ := hsep (pos + y.length) prev' (ys.flatMap (· ++ S) ++ z)
    have hne : (pos + y.length == pos + y.length + S.length) = false := by
      have : 0 < S.length := List.length_pos_iff.2 hS
      simp only [beq_eq_false_iff_ne, ne_eq]
      omega
    rw [hskip, findAllFrom, searchFrom_of_matchAt hm]
    simp only [List.foldl_cons, hne]
    have hpiece : (cs.drop pos).take (pos + y.length - pos) = y := by
      rw [hcs, Nat.add_sub_cancel_left, List.take_left' rfl]
    have hrest : cs.drop (pos + y.length + S.length) = ys.flatMap (· ++ S) ++ z := by
      rw [Nat.add_assoc, ← List.drop_drop, hcs]
      simp
    rw [hpiece, foldl_findAllFrom_pieces hS hsep hend cs z hz ys
      (fun y' h' => hys y' (List.mem_cons_of_mem y h')) fuel _ _ _ (by simpa using hfuel) hrest]
    simp only [List.map_cons, List.reverse_cons, List.append_assoc, List.singleton_append,
      List.flatMap_cons, List.length_append]
    congr 1
    omega

/-- Splitting at a separator the pattern matches exactly gives back the pieces when no match
starts inside them. -/
theorem split_pieces (hS : S ≠ []) (hsep : MatchesExactly fl p S)
    (hend : ∀ pos prev, matchAt fl p false pos prev [] = none) {ys : List (List Char)}
    {z : List Char} (hys : ∀ y ∈ ys, QuietPiece fl p S y) (hz : QuietPiece fl p S z) :
    Pattern.split fl p (String.ofList (ys.flatMap (· ++ S) ++ z)) =
      ys.map String.ofList ++ [String.ofList z] := by
  have hfuel : ys.length < 2 * (ys.flatMap (· ++ S) ++ z).length + 2 := by
    have := length_le_flatMap_sep hS ys
    simp only [List.length_append]
    omega
  unfold Pattern.split findAll
  simp only [String.toList_ofList]
  rw [foldl_findAllFrom_pieces hS hsep hend _ z hz ys hys _ 0 none [] hfuel (by simp)]
  simp

end Pieces

/-! A pattern anchored at the start of the text, outside multiline mode, matches there or
nowhere. -/

section Anchored

variable {fl : MatchFlags} (hfl : fl.multiline = false) (q : Pattern) (qs : List Pattern)
include hfl

theorem matchAt_anchored_of_pos {pos : Nat} (hpos : 0 < pos) (ne : Bool) (prev : Option Char)
    (rest : List Char) : matchAt fl (seq (.lineStart :: q :: qs)) ne pos prev rest = none := by
  unfold matchAt
  rw [run_seq_cons, run_lineStart_of_pos hfl hpos]
  rfl

theorem searchFrom_anchored_of_pos :
    ∀ (rest : List Char) {pos : Nat}, 0 < pos → ∀ ne prev,
      searchFrom fl (seq (.lineStart :: q :: qs)) ne pos prev rest = none
  | [], _, hpos, ne, prev => by
    rw [searchFrom]
    exact matchAt_anchored_of_pos hfl q qs hpos ne prev []
  | c :: cs, _, hpos, ne, prev => by
    rw [searchFrom, matchAt_anchored_of_pos hfl q qs hpos]
    exact searchFrom_anchored_of_pos cs (by omega) false (some c)

/-- A match at the start that takes a character is the only one. -/
theorem findAll_anchored {cs : List Char} {m : Found}
    (hm : matchAt fl (seq (.lineStart :: q :: qs)) false 0 none cs = some m) (hstop : 0 < m.stop) :
    findAll fl (seq (.lineStart :: q :: qs)) cs = [m] := by
  unfold findAll
  rw [show 2 * cs.length + 2 = 2 * cs.length + 1 + 1 from rfl, findAllFrom,
    searchFrom_of_matchAt hm]
  dsimp only
  rw [findAllFrom, searchFrom_anchored_of_pos hfl q qs m.rest hstop]

end Anchored

/-- Replacing the one match there is, at the start, keeps what follows it. -/
theorem replace_of_findAll_single {fl : MatchFlags} {p : Pattern} {new s : String} {m : Found}
    (h : findAll fl p s.toList = [m]) (h0 : m.start = 0) :
    Pattern.replace fl p new s = new ++ String.ofList (s.toList.drop m.stop) := by
  simp [Pattern.replace, replaceBy, h, h0]

theorem replace_eq_self {fl : MatchFlags} {p : Pattern} {s : String} (r : String)
    (h : searchFrom fl p false 0 none s.toList = none) : Pattern.replace fl p r s = s := by
  have hall : findAll fl p s.toList = [] := by
    rw [findAll, show 2 * s.toList.length + 2 = 2 * s.toList.length + 1 + 1 from rfl, findAllFrom, h]
  simp [Pattern.replace, replaceBy, hall]

theorem mem_of_mem_cut {cs : List Char} {a b : Nat} {x : Char}
    (h : x ∈ (String.ofList ((cs.drop a).take b)).toList) : x ∈ cs := by
  rw [String.toList_ofList] at h
  exact List.mem_of_mem_drop (List.mem_of_mem_take h)

theorem mem_replace {fl : MatchFlags} {p : Pattern} {new s : String} {x : Char}
    (h : x ∈ (Pattern.replace fl p new s).toList) : x ∈ s.toList ∨ x ∈ new.toList := by
  unfold Pattern.replace replaceBy at h
  dsimp only at h
  -- what the fold has written holds only characters of the text and of the new text
  have hfold := List.foldlRecOn (motive := fun acc : String × Nat =>
      ∀ y ∈ acc.1.toList, y ∈ s.toList ∨ y ∈ new.toList)
    (findAll fl p s.toList) (fun (acc : String × Nat) m =>
      (acc.1 ++ String.ofList ((s.toList.drop acc.2).take (m.start - acc.2)) ++ new, m.stop))
    (b := ("", 0)) (by simp) fun acc hacc m _ y hy => by
      simp only [String.toList_append, List.mem_append] at hy
      rcases hy with (hy | hy) | hy
      · exact hacc y hy
      · exact .inl (mem_of_mem_cut hy)
      · exact .inr hy
  rw [String.toList_append, List.mem_append] at h
  rcases h with h | h
  · exact hfold x h
  · exact .inl (List.mem_of_mem_drop (by simpa using h))

theorem mem_of_mem_split {fl : MatchFlags} {p : Pattern} {s t : String} {x : Char}
    (ht : t ∈ Pattern.split fl p s) (hx : x ∈ t.toList) : x ∈ s.toList := by
  unfold Pattern.split at ht
  dsimp only at ht
  -- every piece cut so far holds only characters of the text
  have hfold := List.foldlRecOn (motive := fun acc : List String × Nat =>
      ∀ u ∈ acc.1, ∀ y ∈ u.toList, y ∈ s.toList)
    (findAll fl p s.toList) (fun (acc : List String × Nat) m =>
      (String.ofList ((s.toList.drop acc.2).take (m.start - acc.2)) :: acc.1, m.stop))
    (b := ([], 0)) (by simp) fun acc hacc m _ u hu y hy => by
      rcases List.mem_cons.1 hu with rfl | hu
      · exact mem_of_mem_cut hy
      · exact hacc u hu y hy
  rw [List.mem_reverse, List.mem_cons] at ht
  rcases ht with rfl | ht
  · exact List.mem_of_mem_drop (by simpa using hx)
  · exact hfold t ht x hx

end Search

section Caseless

/-! Under the caseless flags, ASCII characters are compared by their lower-case forms. -/

theorem ascii_of_fin {P : Char → Prop} (h : ∀ n : Fin 128, P (Char.ofNat n)) {d : Char}
    (hd : d.toNat < 128) : P d := by
  simpa [Char.ofNat_toNat] using h ⟨d.toNat, hd⟩

theorem blank_caseless {d : Char} (hd : d.toNat < 128) :
    classAccepts .caseless [.blank] d = isBlank d :=
  ascii_of_fin (P := fun d => classAccepts .caseless [.blank] d = isBlank d) (by decide) hd

theorem newline_caseless {d : Char} (hd : d.toNat < 128) :
    classAccepts .caseless [.single '\n'] d = (d == '\n') :=
  ascii_of_fin (P := fun d => classAccepts .caseless [.single '\n'] d = (d == '\n')) (by decide) hd

theorem toLower_ascii {d : Char} (hd : d.toNat < 128) : d.toLower.toNat < 128 :=
  ascii_of_fin (P := fun d => d.toLower.toNat < 128) (by decide) hd

theorem kin_ascii {a b : Nat} (ha : a < 128) (hb : b < 128)
    (h : caselessKin.any (fun g => g.contains a && g.contains b) = true) : a = b := by
  simp [caselessKin] at h
  omega

theorem litAccepts_caseless {c d : Char} (hc : c.toNat < 128) (hd : d.toNat < 128) :
    litAccepts .caseless c d = (c.toLower == d.toLower) := by
  have hlc : simpleLower c = c.toLower := by simp [simpleLower, hc]
  have hld : simpleLower d = d.toLower := by simp [simpleLower, hd]
  simp only [litAccepts, MatchFlags.caseless, hlc, hld, caselessAlike, Bool.true_and]
  by_cases hcd : c.toLower = d.toLower
  · simp [hcd]
  · have hkin : caselessKin.any (fun g => g.contains c.toLower.toNat && g.contains d.toLower.toNat) = false := by
      cases h : caselessKin.any (fun g => g.contains c.toLower.toNat && g.contains d.toLower.toNat)
      · rfl
      · exact absurd (Char.toNat_inj.mp (kin_ascii (toLower_ascii hc) (toLower_ascii hd) h)) hcd
    have hne : c ≠ d := fun h => hcd (h ▸ rfl)
    rw [hkin]
    simp [hcd, hne]

theorem blank_caseless_oneChar :
    OneChar .caseless blank (classAccepts .caseless [.blank]) :=
  OneChar.oneOf _ _

end Caseless

end Taskflow.Text
