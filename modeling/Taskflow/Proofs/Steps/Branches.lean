import Taskflow.Steps.Login
import Taskflow.Proofs.Text.Reach
import Taskflow.Proofs.Steps.Sentences
/-!
Which side the login branches fall on.
-/

namespace Taskflow.Steps

open Text Pattern

section Occurrences

def OnlyAfter (pre w u : List Char) : Prop :=
  ∀ n ≤ u.length, w <+: u.drop n → pre <:+ u.take n

instance (pre w u : List Char) : Decidable (OnlyAfter pre w u) :=
  inferInstanceAs (Decidable (∀ n ≤ u.length, w <+: u.drop n → pre <:+ u.take n))

variable {pre w u : List Char}

theorem OnlyAfter.suffix_of_eq (h : OnlyAfter pre w u) {a b : List Char} (hu : u = a ++ w ++ b) :
    pre <:+ a := by
  have hlen : a.length ≤ u.length := by simp [hu]
  have hdrop : u.drop a.length = w ++ b := by simp [hu]
  have htake : u.take a.length = a := by simp [hu]
  rw [← htake]
  exact h a.length hlen (by rw [hdrop]; exact List.prefix_append w b)

theorem OnlyAfter.append_occurs (h : OnlyAfter pre w u) (hw : w <:+: u) : pre ++ w <:+: u := by
  obtain ⟨a, b, hu⟩ := hw
  obtain ⟨c, rfl⟩ := h.suffix_of_eq hu.symm
  exact ⟨c, b, by rw [← hu]; simp⟩

theorem OnlyAfter.eq_last {x y : Char} (h : OnlyAfter (pre ++ [y]) w u) (hx : x :: w <:+: u) :
    x = y := by
  obtain ⟨a, b, hu⟩ := hx
  have hsuf := h.suffix_of_eq (a := a ++ [x]) (b := b) (by rw [← hu]; simp)
  have hrev := List.reverse_prefix.2 hsuf
  simp only [List.reverse_append, List.reverse_cons, List.reverse_nil, List.nil_append,
    List.singleton_append, List.cons_prefix_cons] at hrev
  exact hrev.1.symm

theorem has_of_contiguous {t p q : String} (h : has t p = true) (hq : q.toList <:+: p.toList) :
    has t q = true :=
  has_iff.2 (hq.trans (has_iff.1 h))

theorem has_of_phrase_or {t p q : String} (h : has t p = true ∨ has t q = true)
    (hq : q.toList <:+: p.toList) : has t q = true :=
  h.elim (fun hp => has_of_contiguous hp hq) id

/-- Where `correct` stands only inside `incorrect`, a text that has it has `incorrect`. -/
theorem OnlyAfter.has_incorrect {u : String}
    (h : OnlyAfter "in".toList "correct".toList u.toList) (hc : has u "correct" = true) :
    has u "incorrect" = true := by
  have hword : "incorrect".toList = "in".toList ++ "correct".toList := by decide
  rw [has_iff, hword]
  exact h.append_occurs (has_iff.1 hc)

end Occurrences

section Lowering

variable {ss : List String} (hascii : ∀ s ∈ ss, ∀ c ∈ s.toList, c.toNat < 128)

theorem infix_join_space {s : String} : ∀ {ss : List String}, s ∈ ss →
    s.toList <:+: (join " " ss).toList
  | t :: ts, hs => by
    rw [join, toList_intercalate_space]
    rcases List.mem_cons.1 hs with rfl | hs
    · exact (List.prefix_append _ _).isInfix
    · have hmem : ' ' :: s.toList ∈ ts.map fun t => ' ' :: t.toList := List.mem_map_of_mem hs
      have hin : s.toList <:+: ts.flatMap fun t => ' ' :: t.toList :=
        (List.suffix_cons ' ' s.toList).isInfix.trans
          (List.flatMap_def ▸ List.infix_of_mem_flatten hmem)
      exact hin.trans (List.suffix_append _ _).isInfix

include hascii

theorem strip_ascii {s : String} (hs : s ∈ ss) : ∀ c ∈ (strip s).toList, c.toNat < 128 :=
  fun c hc => hascii s hs c ((strip_contiguous s).subset hc)

theorem lower_strip_contiguous {s : String} (hs : s ∈ ss) :
    (lower (strip s)).toList <:+: (lower (join " " ss)).toList := by
  have hstrip : (strip s).toList <:+: (join " " ss).toList :=
    (strip_contiguous s).trans (infix_join_space hs)
  rw [lower_toList_of_ascii (strip_ascii hascii hs),
    lower_toList_of_ascii (s := join " " ss) (intercalate_space_ascii hascii)]
  exact hstrip.map Char.toLower

theorem has_join_of_sentence {s w : String} (hs : s ∈ ss) (h : has (lower (strip s)) w = true) :
    has (lower (join " " ss)) w = true :=
  has_iff.2 ((has_iff.1 h).trans (lower_strip_contiguous hascii hs))

end Lowering

section Forms

variable {forms : List Pattern} {verdict s y : String}

/-- A form that reads a branch has run on some end part of the sentence. -/
theorem runFrames_of_branchOf (h : branchOf forms verdict s = some y) :
    ∃ p ∈ forms, ∃ g pos prev r c, r <:+ s.toList ∧
      runFrames .caseless g [.run p] pos prev r [] = some c := by
  obtain ⟨p, hp, hfound⟩ := List.exists_of_findSome?_eq_some h
  obtain ⟨m, hm, -⟩ := Option.map_eq_some_iff.1 hfound
  exact ⟨p, hp, runFrames_of_search hm⟩

/-- A failure form that matches spells `incorrect` in its text. -/
theorem spells_incorrect_of_run {p : Pattern}
    (hp : p ∈ [verdictForm "incorrect", incorrectFirstForm])
    {g : Cursor → Bool} {pos : Nat} {prev : Option Char} {r : List Char} {c : Cursor}
    (h : runFrames .caseless g [.run p] pos prev r [] = some c) :
    ∃ r', r' <:+ r ∧ spells .caseless "incorrect".toList r' = true := by
  simp only [List.mem_cons, List.not_mem_nil, or_false] at hp
  rcases hp with rfl | rfl
  · exact spells_of_seq (by simp) [str "if", plus blank, group 1 (plusLazy (notChars ",")),
      plus blank, alts [str "are", str "is"], plus blank] h
  · exact spells_of_seq (by simp) [str "if", plus blank] h

/-- A success form that matches spells `correct` in its text right after a blank. -/
theorem blank_correct_of_run {p : Pattern} (hp : p ∈ [verdictForm "correct", correctFirstForm])
    {g : Cursor → Bool} {pos : Nat} {prev : Option Char} {r : List Char} {c : Cursor}
    (h : runFrames .caseless g [.run p] pos prev r [] = some c) :
    ∃ x r', x :: r' <:+ r ∧ classAccepts .caseless [.blank] x = true ∧
      spells .caseless "correct".toList r' = true := by
  -- both forms go on to run `plus blank` and then the word
  have hreach : ∃ qs, qs ≠ [] ∧
      Reaches .caseless g [.run (seq (plus blank :: str "correct" :: qs))] r c := by
    simp only [List.mem_cons, List.not_mem_nil, or_false] at hp
    rcases hp with rfl | rfl
    · exact ⟨_, by simp, reaches_seq_append (List.cons_ne_nil _ _) [str "if", plus blank,
        group 1 (plusLazy (notChars ",")), plus blank, alts [str "are", str "is"]] h⟩
    · exact ⟨_, by simp, reaches_seq_append (List.cons_ne_nil _ _) [str "if"] h⟩
  obtain ⟨qs, hqs, _, _, r₁, _, hr₁, hrun⟩ := hreach
  obtain ⟨x, r', hx, hA, hspell⟩ := blank_caseless_oneChar.spells_after_plus hqs hrun
  exact ⟨x, r', hx.trans hr₁, hA, hspell⟩

theorem toLower_ne_n_of_blank {x : Char} (hx : x.toNat < 128)
    (h : classAccepts .caseless [.blank] x = true) : x.toLower ≠ 'n' :=
  ascii_of_fin (P := fun d => classAccepts .caseless [.blank] d = true → d.toLower ≠ 'n')
    (by decide) hx h

variable (hascii : ∀ c ∈ s.toList, c.toNat < 128)
include hascii

/-- A failure form reads a branch only from a sentence with `incorrect` in it. -/
theorem has_incorrect_of_branchOf
    (h : branchOf [verdictForm "incorrect", incorrectFirstForm] "incorrect" s = some y) :
    has (lower s) "incorrect" = true := by
  obtain ⟨p, hp, g, pos, prev, r, c, hr, hrun⟩ := runFrames_of_branchOf h
  obtain ⟨r', hr', hspell⟩ := spells_incorrect_of_run hp hrun
  have hsuf : r' <:+ s.toList := hr'.trans hr
  have hpre := Plan.lower_isPrefix_of_spells (Plan.forall_mem_of_all (by decide))
    (fun c hc => hascii c (hsuf.subset hc)) hspell
  have hword : "incorrect".toList.map Char.toLower = "incorrect".toList := by decide
  rw [has_iff, lower_toList_of_ascii hascii, ← hword]
  exact hpre.isInfix.trans (hsuf.map Char.toLower).isInfix

/-- A success form reads a branch only from a sentence where `correct` stands after a character
other than `n`, so not inside `incorrect`. -/
theorem correct_after_of_branchOf
    (h : branchOf [verdictForm "correct", correctFirstForm] "correct" s = some y) :
    ∃ x, x ≠ 'n' ∧ x :: "correct".toList <:+: (lower s).toList := by
  obtain ⟨p, hp, g, pos, prev, r, c, hr, hrun⟩ := runFrames_of_branchOf h
  obtain ⟨x, r', hx, hA, hspell⟩ := blank_correct_of_run hp hrun
  have hsuf : x :: r' <:+ s.toList := hx.trans hr
  have hascii' : ∀ d ∈ x :: r', d.toNat < 128 := fun d hd => hascii d (hsuf.subset hd)
  have hpre := Plan.lower_isPrefix_of_spells (Plan.forall_mem_of_all (by decide))
    (fun d hd => hascii' d (List.mem_cons_of_mem x hd)) hspell
  have hword : "correct".toList.map Char.toLower = "correct".toList := by decide
  refine ⟨x.toLower, toLower_ne_n_of_blank (hascii' x List.mem_cons_self) hA, ?_⟩
  rw [lower_toList_of_ascii hascii, ← hword]
  have hhead : x.toLower :: "correct".toList.map Char.toLower <+: (x :: r').map Char.toLower := by
    rw [List.map_cons]
    exact List.cons_prefix_cons.2 ⟨rfl, hpre⟩
  exact hhead.isInfix.trans (hsuf.map Char.toLower).isInfix

end Forms

section Sides

/-- One side of the login branches: the forms that read it, its verdict, the Tagalog sign and the
key word that give its canonical branch. -/
structure Side where
  forms : List Pattern
  verdict : String
  sign : String
  key : String
  canon : String

def successSide : Side :=
  ⟨[verdictForm "correct", correctFirstForm], "correct", "tama", "jwt", successStep⟩

def failureSide : Side :=
  ⟨[verdictForm "incorrect", incorrectFirstForm], "incorrect", "mali", "401", failureStep⟩

/-- A side's branch after the stripped sentence `s`: the canonical one where the sentence has the
sign or the verdict and the key word, else one a form reads, else the branch before. -/
def Side.read (d : Side) (before : Option String) (s : String) : Option String :=
  let t := lower s
  if (has t d.sign ∨ has t d.verdict) ∧ has t d.key then some d.canon
  else match branchOf d.forms d.verdict s with
    | some b => some b
    | none => before

/-- What one sentence does to the branches read so far. -/
def readBranch (acc : Option String × Option String) (s : String) : Option String × Option String :=
  let s := strip s
  if s.isEmpty ∨ !startsWith (lower s) "if" then acc
  else (successSide.read acc.1 s, failureSide.read acc.2 s)

def readBranches (ss : List String) : Option String × Option String :=
  ss.foldl readBranch (none, none)

/-- A fold whose step agrees with `readBranch` reads the same branches. -/
theorem foldl_eq_readBranches {f : Option String × Option String → String →
    Option String × Option String} (hf : ∀ acc s, f acc s = readBranch acc s) (ss : List String) :
    ss.foldl f (none, none) = readBranches ss :=
  List.foldl_ext f readBranch (none, none) fun acc s _ => hf acc s

/-- What the branches hold: each side's last branch, and the canonical one of a side that no
sentence gave when the whole text has its key word and verdict. -/
theorem mem_credentialBranches {ss : List String} {y : String} :
    y ∈ credentialBranches ss ↔
      (readBranches ss).1 = some y ∨ (readBranches ss).2 = some y ∨
      ((readBranches ss).1 = none ∧ has (lower (join " " ss)) "jwt" = true ∧
        (has (lower (join " " ss)) "credentials are correct" = true ∨
          has (lower (join " " ss)) "correct" = true) ∧ y = successStep) ∨
      ((readBranches ss).2 = none ∧ has (lower (join " " ss)) "401" = true ∧
        (has (lower (join " " ss)) "credentials are incorrect" = true ∨
          has (lower (join " " ss)) "incorrect" = true) ∧ y = failureStep) := by
  unfold credentialBranches
  rw [foldl_eq_readBranches ?step ss]
  · simp only [List.mem_append, Option.mem_toList, List.mem_ite_nil_right, List.mem_singleton,
      Option.isNone_iff_eq_none, or_assoc, and_assoc]
  · intro acc s
    simp only [readBranch, Side.read, successSide, failureSide]
    -- with what the forms read left open, the two steps are the same term; evaluating the
    -- forms on an unknown sentence would only unfold the matcher
    generalize branchOf [verdictForm "correct", correctFirstForm] "correct" (strip s) = ok
    generalize branchOf [verdictForm "incorrect", incorrectFirstForm] "incorrect" (strip s) = bad
    rfl

/-- The sentence `s` gives the branch `y` on the side `d`. -/
def Side.Reads (d : Side) (s y : String) : Prop :=
  ((has (lower s) d.sign ∨ has (lower s) d.verdict) ∧ has (lower s) d.key ∧ y = d.canon) ∨
    branchOf d.forms d.verdict s = some y

theorem Side.read_eq_some {d : Side} {before : Option String} {s y : String}
    (h : d.read before s = some y) : d.Reads s y ∨ before = some y := by
  dsimp only [Side.read] at h
  split_ifs at h with hsign
  · exact .inl (.inl ⟨hsign.1, hsign.2, (Option.some.inj h).symm⟩)
  · split at h
    next b hb => exact .inl (.inr (hb.trans h))
    next => exact .inr h

/-- Each branch held on the side `d` was read from one of the sentences. -/
def Side.ReadFrom (d : Side) (ss : List String) (o : Option String) : Prop :=
  ∀ y, o = some y → ∃ s ∈ ss, d.Reads (strip s) y

theorem Side.ReadFrom.read {d : Side} {ss : List String} {before : Option String} {s : String}
    (hb : d.ReadFrom ss before) (hs : s ∈ ss) : d.ReadFrom ss (d.read before (strip s)) := by
  intro y hy
  rcases Side.read_eq_some hy with h | h
  · exact ⟨s, hs, h⟩
  · exact hb y h

/-- A sentence that does not open with `if` leaves the branches as they are; any other goes
through both sides. -/
theorem readBranch_cases (acc : Option String × Option String) (s : String) :
    readBranch acc s = acc ∨
      readBranch acc s = (successSide.read acc.1 (strip s), failureSide.read acc.2 (strip s)) := by
  by_cases h : (strip s).isEmpty = true ∨ (!startsWith (lower (strip s)) "if") = true
  · left
    simp only [readBranch]
    exact if_pos h
  · right
    simp only [readBranch]
    exact if_neg h

theorem readBranches_readFrom (ss : List String) :
    successSide.ReadFrom ss (readBranches ss).1 ∧ failureSide.ReadFrom ss (readBranches ss).2 := by
  -- the invariant of the fold: what each side holds was read from a sentence seen so far
  unfold readBranches
  refine List.foldlRecOn (motive := fun acc =>
      successSide.ReadFrom ss acc.1 ∧ failureSide.ReadFrom ss acc.2)
    ss readBranch (b := (none, none)) ⟨fun _ h => (by cases h), fun _ h => (by cases h)⟩ ?_
  rintro acc ⟨hok, hbad⟩ s hs
  rcases readBranch_cases acc s with h | h <;> rw [h]
  · exact ⟨hok, hbad⟩
  · dsimp only
    exact ⟨hok.read hs, hbad.read hs⟩

/-- A step a side yields from the sentences: its canonical branch, or one a form of it reads
from a sentence. -/
def Side.Yields (d : Side) (ss : List String) (y : String) : Prop :=
  y = d.canon ∨ ∃ s ∈ ss, branchOf d.forms d.verdict (strip s) = some y

theorem Side.Reads.yields {d : Side} {ss : List String} {s y : String} (hs : s ∈ ss)
    (h : d.Reads (strip s) y) : d.Yields ss y := by
  rcases h with ⟨-, -, rfl⟩ | h
  · exact .inl rfl
  · exact .inr ⟨s, hs, h⟩

end Sides

section Text

variable {ss : List String} (hascii : ∀ s ∈ ss, ∀ c ∈ s.toList, c.toNat < 128)
include hascii

theorem has_sentence_eq_false {s w : String} (hs : s ∈ ss)
    (h : has (lower (join " " ss)) w = false) : has (lower (strip s)) w = false := by
  cases hw : has (lower (strip s)) w with
  | false => rfl
  | true => rw [has_join_of_sentence hascii hs hw] at h; cases h

theorem readBranches_snd_eq_none (hinc : has (lower (join " " ss)) "incorrect" = false)
    (hmali : has (lower (join " " ss)) "mali" = false) : (readBranches ss).2 = none := by
  rcases h : (readBranches ss).2 with _ | y
  · rfl
  · obtain ⟨s, hs, hread⟩ := (readBranches_readFrom ss).2 y h
    have hinc' := has_sentence_eq_false hascii hs hinc
    have hmali' := has_sentence_eq_false hascii hs hmali
    simp only [Side.Reads, failureSide] at hread
    rcases hread with ⟨hm | hi, -, -⟩ | hform
    · rw [hmali'] at hm; cases hm
    · rw [hinc'] at hi; cases hi
    · rw [has_incorrect_of_branchOf (strip_ascii hascii hs) hform] at hinc'; cases hinc'

/-- A text with neither `incorrect` nor `mali` in it yields only success-side steps. -/
theorem credentialBranches_success_only (hinc : has (lower (join " " ss)) "incorrect" = false)
    (hmali : has (lower (join " " ss)) "mali" = false) :
    ∀ y ∈ credentialBranches ss, successSide.Yields ss y := by
  intro y hy
  rcases mem_credentialBranches.1 hy with h | h | ⟨-, -, -, rfl⟩ | ⟨-, -, hword, -⟩
  · obtain ⟨s, hs, hread⟩ := (readBranches_readFrom ss).1 y h
    exact hread.yields hs
  · rw [readBranches_snd_eq_none hascii hinc hmali] at h; cases h
  · exact .inl rfl
  · -- the fallback failure branch needs `incorrect` in the text
    rw [has_of_phrase_or hword (by decide +kernel)] at hinc; cases hinc

variable (hafter : OnlyAfter "in".toList "correct".toList (lower (join " " ss)).toList)
  (htama : has (lower (join " " ss)) "tama" = false)
include hafter htama

/-- Where `correct` stands only inside `incorrect` and `tama` not at all, the only success
branch a sentence gives is the canonical one, for `jwt` beside `incorrect`. -/
theorem readBranches_fst_of_onlyAfter {y : String} (h : (readBranches ss).1 = some y) :
    y = successStep ∧ has (lower (join " " ss)) "jwt" = true ∧
      has (lower (join " " ss)) "incorrect" = true := by
  obtain ⟨s, hs, hread⟩ := (readBranches_readFrom ss).1 y h
  simp only [Side.Reads, successSide] at hread
  rcases hread with ⟨hsign, hjwt, rfl⟩ | hform
  · refine ⟨rfl, has_join_of_sentence hascii hs hjwt, ?_⟩
    rcases hsign with ht | hc
    · rw [has_sentence_eq_false hascii hs htama] at ht; cases ht
    · exact hafter.has_incorrect (has_join_of_sentence hascii hs hc)
  · -- a form reads `correct` after a character other than `n`, which the text cannot have
    obtain ⟨x, hx, hin⟩ := correct_after_of_branchOf (strip_ascii hascii hs) hform
    have hsplit : "in".toList = ['i'] ++ ['n'] := by decide
    rw [hsplit] at hafter
    exact absurd (hafter.eq_last (hin.trans (lower_strip_contiguous hascii hs))) hx

/-- Where `correct` stands only inside `incorrect` and `tama` not at all, every step is on the
failure side but the canonical success branch, and that one only for `jwt` beside
`incorrect`. -/
theorem credentialBranches_success_unread :
    ∀ y ∈ credentialBranches ss, failureSide.Yields ss y ∨
      (y = successStep ∧ has (lower (join " " ss)) "jwt" = true ∧
        has (lower (join " " ss)) "incorrect" = true) := by
  intro y hy
  rcases mem_credentialBranches.1 hy with h | h | ⟨-, hjwt, hword, rfl⟩ | ⟨-, -, -, rfl⟩
  · exact .inr (readBranches_fst_of_onlyAfter hascii hafter htama h)
  · obtain ⟨s, hs, hread⟩ := (readBranches_readFrom ss).2 y h
    exact .inl (hread.yields hs)
  · exact .inr ⟨rfl, hjwt, hafter.has_incorrect (has_of_phrase_or hword (by decide +kernel))⟩
  · exact .inl (.inl rfl)

/-- Where `correct` stands only inside `incorrect` and `tama` not at all, a text with `jwt` and
`incorrect` still yields the canonical success branch. -/
theorem successStep_mem_of_jwt (hjwt : has (lower (join " " ss)) "jwt" = true)
    (hinc : has (lower (join " " ss)) "incorrect" = true) :
    successStep ∈ credentialBranches ss := by
  rw [mem_credentialBranches]
  rcases h : (readBranches ss).1 with _ | y
  · -- no sentence gave one, and the whole text has `jwt` and `correct`
    exact .inr (.inr (.inl ⟨rfl, hjwt, .inr (has_of_contiguous hinc (by decide +kernel)), rfl⟩))
  · rw [(readBranches_fst_of_onlyAfter hascii hafter htama h).1]
    exact .inl rfl

end Text

/-- Which side the login branches fall on, in ASCII text: `correct` is a piece of `incorrect`,
so a failure text puts every step on the failure side but the canonical success branch. -/
theorem credentialBranches_sides {ss : List String}
    (hascii : ∀ s ∈ ss, ∀ c ∈ s.toList, c.toNat < 128) :
    (has (lower (join " " ss)) "incorrect" = false → has (lower (join " " ss)) "mali" = false →
      ∀ y ∈ credentialBranches ss, successSide.Yields ss y) ∧
    (OnlyAfter "in".toList "correct".toList (lower (join " " ss)).toList →
      has (lower (join " " ss)) "tama" = false →
      (∀ y ∈ credentialBranches ss, failureSide.Yields ss y ∨
        (y = successStep ∧ has (lower (join " " ss)) "jwt" = true ∧
          has (lower (join " " ss)) "incorrect" = true)) ∧
      (has (lower (join " " ss)) "jwt" = true → has (lower (join " " ss)) "incorrect" = true →
        successStep ∈ credentialBranches ss)) :=
  ⟨credentialBranches_success_only hascii, fun hafter htama =>
    ⟨credentialBranches_success_unread hascii hafter htama,
      successStep_mem_of_jwt hascii hafter htama⟩⟩

/-- A sentence that states only the failure branch, but names `jwt`, yields the success branch
as well. -/
theorem credentialBranches_sides_incorrect_jwt :
    (∀ s ∈ ["if the credentials are incorrect, return 401 and no jwt"], ∀ c ∈ s.toList,
      c.toNat < 128) ∧
    OnlyAfter "in".toList "correct".toList
      (lower (join " " ["if the credentials are incorrect, return 401 and no jwt"])).toList ∧
    has (lower (join " " ["if the credentials are incorrect, return 401 and no jwt"])) "tama" =
      false ∧
    successStep ∈
      credentialBranches ["if the credentials are incorrect, return 401 and no jwt"] := by
  have hascii : ∀ s ∈ ["if the credentials are incorrect, return 401 and no jwt"],
      ∀ c ∈ s.toList, c.toNat < 128 := by
    intro s hs
    rw [List.mem_singleton] at hs
    subst hs
    exact Plan.forall_mem_of_all (by decide +kernel)
  have hlower :
      (lower (join " " ["if the credentials are incorrect, return 401 and no jwt"])).toList =
        "if the credentials are incorrect, return 401 and no jwt".toList := by
    rw [lower_toList_of_ascii (s := join " " _) (intercalate_space_ascii hascii)]
    decide +kernel
  have hafter : OnlyAfter "in".toList "correct".toList
      (lower (join " " ["if the credentials are incorrect, return 401 and no jwt"])).toList := by
    rw [hlower]
    decide +kernel
  have hword : ∀ w : String, has (lower (join " "
      ["if the credentials are incorrect, return 401 and no jwt"])) w =
      occursIn w.toList "if the credentials are incorrect, return 401 and no jwt".toList := by
    intro w
    rw [has, hlower]
  have htama : has (lower (join " " ["if the credentials are incorrect, return 401 and no jwt"]))
      "tama" = false := by
    rw [hword]
    decide +kernel
  have hjwt : has (lower (join " " ["if the credentials are incorrect, return 401 and no jwt"]))
      "jwt" = true := by
    rw [hword]
    decide +kernel
  have hinc : has (lower (join " " ["if the credentials are incorrect, return 401 and no jwt"]))
      "incorrect" = true := by
    rw [hword]
    decide +kernel
  exact ⟨hascii, hafter, htama,
    ((credentialBranches_sides hascii).2 hafter htama).2 hjwt hinc⟩

end Taskflow.Steps
