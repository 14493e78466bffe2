import Taskflow.Proofs.Text.Frames
/-!
What a match has read.
-/

namespace Taskflow.Text

open Pattern

section Reach

variable {fl : MatchFlags} {g : Cursor → Bool} {k : List Frame}

/-- A run reaches the stack `k`: `k` is run on some end part of the text `rest` and succeeds
with the cursor `c`. -/
def Reaches (fl : MatchFlags) (g : Cursor → Bool) (k : List Frame) (rest : List Char)
    (c : Cursor) : Prop :=
  ∃ pos prev rest' σ, rest' <:+ rest ∧ runFrames fl g k pos prev rest' σ = some c

theorem Reaches.of_suffix {r rest : List Char} {c : Cursor} (h : Reaches fl g k r c)
    (hr : r <:+ rest) : Reaches fl g k rest c := by
  obtain ⟨pos, prev, rest', σ, hsuf, hrun⟩ := h
  exact ⟨pos, prev, rest', σ, hsuf.trans hr, hrun⟩

theorem Reaches.cons {rest : List Char} {c : Cursor} (h : Reaches fl g k rest c) (d : Char) :
    Reaches fl g k (d :: rest) c :=
  h.of_suffix (List.suffix_cons d rest)

/-- A step of the induction below: the run goes on with a stack that is `k` itself, or that has
frames above `k`. -/
theorem reaches_of_run {st : List Frame} {pos : Nat} {prev : Option Char} {rest : List Char}
    {σ : List (Nat × Nat × Nat)} {c : Cursor}
    (ih : ∀ fs, st = fs ++ k → fs ≠ [] → ∀ c, runFrames fl g st pos prev rest σ = some c →
      Reaches fl g k rest c)
    (fs : List Frame) (hst : st = fs ++ k) (hc : runFrames fl g st pos prev rest σ = some c) :
    Reaches fl g k rest c := by
  cases fs with
  | nil =>
    exact ⟨pos, prev, rest, σ, List.suffix_refl _, by rw [← List.nil_append k, ← hst]; exact hc⟩
  | cons f fs => exact ih (f :: fs) hst (List.cons_ne_nil _ _) c hc

/-- A run of frames above `k` that succeeds reaches `k`. -/
theorem runFrames_reaches (st : List Frame) (pos : Nat) (prev : Option Char) (rest : List Char)
    (σ : List (Nat × Nat × Nat)) :
    ∀ fs, st = fs ++ k → fs ≠ [] → ∀ c, runFrames fl g st pos prev rest σ = some c →
      Reaches fl g k rest c := by
  -- by induction on the run: each step fails, or goes on with its frames pushed above the
  -- frames below the top, on the same text or on the text after one character
  fun_induction runFrames fl g st pos prev rest σ
  all_goals intro fs hfs hne c hc
  all_goals obtain ⟨f, fs, rfl⟩ := List.exists_cons_of_ne_nil hne
  all_goals simp only [List.cons_append, List.cons.injEq, reduceCtorEq] at hfs
  all_goals first
    | done
    | obtain ⟨-, rfl⟩ := hfs
  all_goals first
    | (cases hc; done)
    | exact reaches_of_run (by assumption) fs rfl hc
    | exact reaches_of_run (by assumption) (_ :: fs) rfl hc
    | exact reaches_of_run (by assumption) (_ :: _ :: fs) rfl hc
    | exact (reaches_of_run (by assumption) fs rfl hc).cons _
    | (cases hc
       first
        | exact reaches_of_run (by assumption) fs rfl (by assumption)
        | exact reaches_of_run (by assumption) (_ :: fs) rfl (by assumption)
        | exact reaches_of_run (by assumption) (_ :: _ :: fs) rfl (by assumption))

theorem reaches_of_cons {f : Frame} {pos : Nat} {prev : Option Char} {rest : List Char}
    {σ : List (Nat × Nat × Nat)} {c : Cursor}
    (h : runFrames fl g (f :: k) pos prev rest σ = some c) :
    Reaches fl g k rest c :=
  runFrames_reaches (f :: k) pos prev rest σ [f] rfl (List.cons_ne_nil _ _) c h

end Reach

section Words

variable {fl : MatchFlags} {g : Cursor → Bool} {k : List Frame}

/-- A word that a run takes is spelled by the text where it stands. -/
theorem spells_of_run_word {w : String} {qs : List Pattern} (hqs : qs ≠ []) {pos : Nat}
    {prev : Option Char} {rest : List Char} {σ : List (Nat × Nat × Nat)} {c : Cursor}
    (h : runFrames fl g (.run (seq (str w :: qs)) :: k) pos prev rest σ = some c) :
    spells fl w.toList rest = true := by
  obtain ⟨q, qs, rfl⟩ := List.exists_cons_of_ne_nil hqs
  rw [run_seq_cons, Pattern.str] at h
  cases hs : spells fl w.toList rest with
  | true => rfl
  | false => rw [run_word_none _ _ _ _ hs] at h; cases h

/-- A run of a sequence goes on to run each of its end parts. -/
theorem reaches_seq_append {qs : List Pattern} (hqs : qs ≠ []) :
    ∀ (ps : List Pattern) {pos : Nat} {prev : Option Char} {rest : List Char}
      {σ : List (Nat × Nat × Nat)} {c : Cursor},
      runFrames fl g (.run (seq (ps ++ qs)) :: k) pos prev rest σ = some c →
      Reaches fl g (.run (seq qs) :: k) rest c
  | [], pos, prev, rest, σ, _, h => ⟨pos, prev, rest, σ, List.suffix_refl _, h⟩
  | p :: ps, _, _, _, _, _, h => by
    -- the first pattern is run, and the rest of the sequence below it is reached
    obtain ⟨q, qs', hq⟩ := List.exists_cons_of_ne_nil (List.append_ne_nil_of_right_ne_nil ps hqs)
    rw [List.cons_append, hq, run_seq_cons] at h
    obtain ⟨_, _, rest', _, hsuf, hrun⟩ := reaches_of_cons h
    rw [← hq] at hrun
    exact (reaches_seq_append hqs ps hrun).of_suffix hsuf

/-- A match of a sequence with a word in it was found where some end part of the text spells
the word. -/
theorem spells_of_seq {w : String} {qs : List Pattern} (hqs : qs ≠ []) (ps : List Pattern)
    {pos : Nat} {prev : Option Char} {rest : List Char} {σ : List (Nat × Nat × Nat)} {c : Cursor}
    (h : runFrames fl g (.run (seq (ps ++ str w :: qs)) :: k) pos prev rest σ = some c) :
    ∃ r, r <:+ rest ∧ spells fl w.toList r = true := by
  obtain ⟨_, _, r, _, hr, hrun⟩ := reaches_seq_append (List.cons_ne_nil _ _) ps h
  exact ⟨r, hr, spells_of_run_word hqs hrun⟩

end Words

namespace OneChar

variable {fl : MatchFlags} {g : Cursor → Bool} {k : List Frame} {σ : List (Nat × Nat × Nat)}
  {p : Pattern} {A : Char → Bool} (hp : OneChar fl p A)
include hp

/-- A greedy repetition that leads to a match reads a stretch of accepted characters, and the
frames after it match what follows the stretch. -/
theorem star_reads : ∀ (r : List Char) (pos : Nat) (prev : Option Char) {c : Cursor},
    runFrames fl g (.run (.star p false) :: k) pos prev r σ = some c →
    ∃ w r', r = w ++ r' ∧ (∀ x ∈ w, A x = true) ∧
      ∃ pos' prev', runFrames fl g k pos' prev' r' σ = some c
  | [], pos, prev, _, h => by
    rw [hp.star_end] at h
    exact ⟨[], [], rfl, by simp, pos, prev, h⟩
  | x :: xs, pos, prev, _, h => by
    cases hx : A x with
    | false =>
      rw [hp.star_stop hx] at h
      exact ⟨[], x :: xs, rfl, by simp, pos, prev, h⟩
    | true =>
      rw [hp.star_cons hx] at h
      cases hmore : runFrames fl g (.run (.star p false) :: k) (pos + 1) (some x) xs σ with
      | none =>
        -- taking `x` leads nowhere, so the repetition stops before it
        rw [hmore, Option.none_or] at h
        exact ⟨[], x :: xs, rfl, by simp, pos, prev, h⟩
      | some c' =>
        rw [hmore, Option.some_or] at h
        cases h
        obtain ⟨w, r', hw, hA, pos', prev', hrun⟩ := star_reads xs (pos + 1) (some x) hmore
        refine ⟨x :: w, r', by rw [hw, List.cons_append], fun y hy => ?_, pos', prev', hrun⟩
        rcases List.mem_cons.1 hy with rfl | hy
        · exact hx
        · exact hA y hy

/-- A word that follows a run of characters the pattern accepts stands right after one of them. -/
theorem spells_after_plus {w : String} {qs : List Pattern} (hqs : qs ≠ []) {pos : Nat}
    {prev : Option Char} {rest : List Char} {c : Cursor}
    (h : runFrames fl g (.run (seq (plus p :: str w :: qs)) :: k) pos prev rest σ = some c) :
    ∃ x r, x :: r <:+ rest ∧ A x = true ∧ spells fl w.toList r = true := by
  rw [run_seq_cons, Pattern.plus, run_cat] at h
  cases rest with
  | nil => rw [hp.nil] at h; cases h
  | cons d ds =>
    cases hd : A d with
    | false => rw [hp.refuse hd] at h; cases h
    | true =>
      rw [hp.take hd] at h
      obtain ⟨u, r, hu, hA, _, _, hrun⟩ := hp.star_reads ds _ _ h
      -- the character before the word is the last one the run took
      obtain ⟨init, x, hlast⟩ : ∃ init x, d :: u = init ++ [x] :=
        ⟨(d :: u).dropLast, (d :: u).getLast (List.cons_ne_nil d u),
          (List.dropLast_concat_getLast (List.cons_ne_nil d u)).symm⟩
      have hx : A x = true := by
        have hmem : x ∈ d :: u := by rw [hlast]; simp
        rcases List.mem_cons.1 hmem with rfl | hmem
        · exact hd
        · exact hA x hmem
      refine ⟨x, r, ⟨init, ?_⟩, hx, spells_of_run_word hqs hrun⟩
      rw [hu, ← List.cons_append, hlast, List.append_assoc, List.singleton_append]

end OneChar

section Search

variable {fl : MatchFlags} {p : Pattern}

theorem runFrames_of_matchAt {ne : Bool} {pos : Nat} {prev : Option Char} {rest : List Char}
    {m : Found} (h : matchAt fl p ne pos prev rest = some m) :
    ∃ g c, runFrames fl g [.run p] pos prev rest [] = some c := by
  unfold matchAt at h
  obtain ⟨c, hc, -⟩ := Option.map_eq_some_iff.1 h
  exact ⟨_, c, hc⟩

/-- A search that finds a match has run the pattern on some end part of the text. -/
theorem runFrames_of_searchFrom :
    ∀ {cs : List Char} {ne : Bool} {pos : Nat} {prev : Option Char} {m : Found},
      searchFrom fl p ne pos prev cs = some m →
      ∃ g pos' prev' r c, r <:+ cs ∧ runFrames fl g [.run p] pos' prev' r [] = some c
  | [], _, _, _, _, h => by
    rw [searchFrom] at h
    obtain ⟨g, c, hc⟩ := runFrames_of_matchAt h
    exact ⟨g, _, _, [], c, List.suffix_refl _, hc⟩
  | d :: ds, _, _, _, _, h => by
    rw [searchFrom] at h
    split at h
    · obtain ⟨g, c, hc⟩ := runFrames_of_matchAt (by assumption)
      exact ⟨g, _, _, d :: ds, c, List.suffix_refl _, hc⟩
    · obtain ⟨g, pos', prev', r, c, hsuf, hc⟩ := runFrames_of_searchFrom h
      exact ⟨g, pos', prev', r, c, hsuf.trans (List.suffix_cons d ds), hc⟩

theorem runFrames_of_search {cs : List Char} {m : Found} (h : search fl p cs = some m) :
    ∃ g pos prev r c, r <:+ cs ∧ runFrames fl g [.run p] pos prev r [] = some c :=
  runFrames_of_searchFrom h

end Search

end Taskflow.Text
