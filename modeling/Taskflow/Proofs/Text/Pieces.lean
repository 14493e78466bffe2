import Taskflow.Text.Basic
import Mathlib.Data.List.TakeWhile
/-!
Pieces of text: stripping blanks, prefixes and occurrences, splitting at one character, and
lower-casing.
-/

namespace Taskflow.Text

/-! ## Stripping -/

section Strip

theorem dropBack_eq_self {p : Char → Bool} {x : List Char} (hx : ∀ c ∈ x.getLast?, p c = false) :
    dropBack p x = x := by
  unfold dropBack
  rw [← List.head?_reverse] at hx
  suffices h : x.reverse.dropWhile p = x.reverse by rw [h, List.reverse_reverse]
  cases h : x.reverse with
  | nil => rfl
  | cons c r =>
    rw [h] at hx
    rw [List.dropWhile_cons, if_neg (by simp [hx c rfl])]

theorem length_dropFront_le (p : Char → Bool) (x : List Char) :
    (dropFront p x).length ≤ x.length :=
  (List.dropWhile_suffix p).length_le

theorem length_dropBack_le (p : Char → Bool) (x : List Char) :
    (dropBack p x).length ≤ x.length := by
  unfold dropBack
  rw [List.length_reverse]
  simpa using (List.dropWhile_suffix p (l := x.reverse)).length_le

def Trimmed (x : List Char) : Prop :=
  (∀ c ∈ x.head?, isBlank c = false) ∧ ∀ c ∈ x.getLast?, isBlank c = false

instance (x : List Char) : Decidable (Trimmed x) :=
  @instDecidableAnd _ _ (Option.decidableForallMem x.head?) (Option.decidableForallMem x.getLast?)

theorem Trimmed.dropFront_eq {x : List Char} (h : Trimmed x) : dropFront isBlank x = x := by
  cases x with
  | nil => rfl
  | cons c x =>
    unfold Text.dropFront
    rw [List.dropWhile_cons, if_neg (by simp [h.1 c rfl])]

theorem Trimmed.strip_eq {x : List Char} (h : Trimmed x) :
    dropBack isBlank (dropFront isBlank x) = x := by
  rw [h.dropFront_eq, dropBack_eq_self h.2]

theorem head_kept_of_dropWhile_eq {p : Char → Bool} {x : List Char} (h : x.dropWhile p = x) :
    ∀ c ∈ x.head?, p c = false := by
  intro c hc
  cases x with
  | nil => simp at hc
  | cons d x =>
    rw [List.head?_cons, Option.mem_some_iff] at hc
    rw [← hc]
    cases hd : p d
    · rfl
    · rw [List.dropWhile_cons, if_pos hd] at h
      have hle := (List.dropWhile_suffix p (l := x)).length_le
      have hlen := congrArg List.length h
      simp only [List.length_cons] at hlen
      omega

theorem trimmed_of_strip {s : String} (h : strip s = s) : Trimmed s.toList := by
  have hl : dropBack isBlank (dropFront isBlank s.toList) = s.toList := by
    simpa [strip] using congrArg String.toList h
  have hback := length_dropBack_le isBlank (dropFront isBlank s.toList)
  have hfront := length_dropFront_le isBlank s.toList
  have hlen := congrArg List.length hl
  -- nothing was dropped at the front, so the stripped text is the text itself
  have hf : s.toList.dropWhile isBlank = s.toList :=
    (List.dropWhile_suffix isBlank).eq_of_length (by unfold dropFront at hfront hlen hback; omega)
  have hb : s.toList.reverse.dropWhile isBlank = s.toList.reverse := by
    unfold dropFront at hl
    rw [hf, dropBack, List.reverse_eq_iff] at hl
    exact hl
  refine ⟨head_kept_of_dropWhile_eq hf, fun c hc => ?_⟩
  rw [← List.head?_reverse] at hc
  exact head_kept_of_dropWhile_eq hb c hc

theorem strip_eq_self {s : String} (h : Trimmed s.toList) : strip s = s := by
  simp [strip, h.strip_eq]

theorem stripStart_eq_self {s : String} (h : Trimmed s.toList) : stripStart s = s := by
  simp [stripStart, h.dropFront_eq]

theorem dropFront_space (x : List Char) : dropFront isBlank (' ' :: x) = dropFront isBlank x := by
  have hsp : isBlank ' ' = true := by decide
  simp [dropFront, hsp]

theorem strip_space_append (s : String) : strip (" " ++ s) = strip s := by
  simp [strip, dropFront_space]

theorem stripStart_space_append (s : String) : stripStart (" " ++ s) = stripStart s := by
  simp [stripStart, dropFront_space]

theorem Trimmed.prepend {w y : List Char} (hw : ∀ c ∈ w.head?, isBlank c = false)
    (hy : Trimmed y) (hy0 : y ≠ []) : Trimmed (w ++ y) := by
  refine ⟨fun c hc => ?_, fun c hc => hy.2 c ?_⟩
  · cases w with
    | nil => exact hy.1 c (by simpa using hc)
    | cons d w => exact hw c (by simpa using hc)
  · rw [List.getLast?_append] at hc
    cases h : y.getLast? with
    | none => exact absurd (List.getLast?_eq_none_iff.1 h) hy0
    | some d => simpa [h] using hc

theorem dropBack_prefix_self (p : Char → Bool) (l : List Char) : dropBack p l <+: l := by
  unfold dropBack
  rw [← List.reverse_suffix, List.reverse_reverse]
  exact List.dropWhile_suffix p

theorem dropFront_blanks_append {pre : List Char} (hpre : ∀ x ∈ pre, isBlank x = true)
    (l : List Char) : dropFront isBlank (pre ++ l) = dropFront isBlank l := by
  induction pre with
  | nil => rfl
  | cons x pre ih =>
    rw [List.cons_append, dropFront, List.dropWhile_cons, if_pos (hpre x List.mem_cons_self)]
    exact ih fun y hy => hpre y (List.mem_cons_of_mem x hy)

theorem strip_blanks_append {pre : List Char} (hpre : ∀ x ∈ pre, isBlank x = true) (s : String) :
    strip (String.ofList (pre ++ s.toList)) = strip s := by
  simp [strip, dropFront_blanks_append hpre]

theorem strip_contiguous (s : String) : (strip s).toList <:+: s.toList := by
  unfold strip
  rw [String.toList_ofList]
  exact (dropBack_prefix_self _ _).isInfix.trans (List.dropWhile_suffix _).isInfix

theorem strip_cons_ne_empty {c : Char} (hc : isBlank c = false) (x : List Char) :
    strip (String.ofList (c :: x)) ≠ "" := by
  have hfront : dropFront isBlank (c :: x) = c :: x := by
    rw [dropFront, List.dropWhile_cons, if_neg (by simp [hc])]
  unfold strip
  rw [String.toList_ofList, hfront, Ne, String.ofList_eq_empty_iff, dropBack, List.reverse_eq_nil_iff,
    List.dropWhile_eq_nil_iff]
  intro h
  simpa [hc] using h c (by simp)

theorem stripEndOf_eq_self {cs : List Char} {s : String} (h : ∀ c ∈ s.toList.getLast?, c ∉ cs) :
    stripEndOf cs s = s := by
  unfold stripEndOf
  rw [dropBack_eq_self fun c hc => by simpa using h c hc, String.ofList_toList]

end Strip

/-! ## Prefixes and occurrences -/

section Prefix

theorem startsWith_iff {s p : String} : startsWith s p = true ↔ p.toList <+: s.toList :=
  List.isPrefixOf_iff_prefix

theorem startsWith_append_of_startsWith {s p : String} (h : startsWith s p = true) (t : String) :
    startsWith (s ++ t) p = true := by
  rw [startsWith_iff] at h ⊢
  rw [String.toList_append]
  exact h.trans (List.prefix_append _ _)

/-- A text that does not start with a word at least as long as the word does not start with it
whatever follows. -/
theorem startsWith_append_eq_false {s p : String} (h : startsWith s p = false)
    (hl : p.toList.length ≤ s.toList.length) (t : String) : startsWith (s ++ t) p = false := by
  rw [← Bool.not_eq_true, startsWith_iff] at h ⊢
  rw [String.toList_append]
  exact fun hp => h (List.prefix_of_prefix_length_le hp (List.prefix_append _ _) hl)

theorem startsWith_append_append (w t q : String) :
    startsWith (w ++ t) (w ++ q) = startsWith t q := by
  rw [Bool.eq_iff_iff, startsWith_iff, startsWith_iff, String.toList_append, String.toList_append]
  exact List.prefix_append_right_inj _

/-- A nonempty text that does not start with `w` and whose last character is not in `w` does not
start with `w` whatever follows. -/
theorem not_prefix_append {w x : List Char} (hx : ¬ w <+: x) (hne : x ≠ [])
    (hlast : ∀ c ∈ x.getLast?, c ∉ w) (t : List Char) : ¬ w <+: x ++ t := by
  intro h
  by_cases hle : w.length ≤ x.length
  · exact hx (List.prefix_of_prefix_length_le h (List.prefix_append x t) hle)
  · have hxw : x <+: w := List.prefix_of_prefix_length_le (List.prefix_append x t) h (by omega)
    exact hlast _ (List.getLast?_eq_some_getLast hne) (hxw.subset (List.getLast_mem hne))

/-- A word that does not occur in `x` does not start `x ++ t` when `t` opens with a character the
word lacks: the word would have to run from `x` into `t`. -/
theorem not_prefix_append_of_head {w x t : List Char} (hx : ¬ w <:+: x)
    (ht : ∀ c ∈ t.head?, c ∉ w) : ¬ w <+: x ++ t := by
  rintro ⟨u, hu⟩
  rcases List.append_eq_append_iff.1 hu with ⟨x', hx', -⟩ | ⟨c', hc', ht'⟩
  · exact hx ⟨[], x', by simp [hx']⟩
  · cases c' with
    | nil => exact hx ⟨[], [], by simp [hc']⟩
    | cons c c' =>
      have hc : c ∈ w := by rw [hc']; simp
      exact ht c (by simp [ht']) hc

theorem occursIn_iff {p : List Char} : ∀ {s : List Char}, occursIn p s = true ↔ p <:+: s
  | [] => by simp [occursIn, List.isEmpty_iff]
  | c :: cs => by
    rw [occursIn, Bool.or_eq_true, List.isPrefixOf_iff_prefix, occursIn_iff, List.infix_cons_iff]

theorem has_iff {s p : String} : has s p = true ↔ p.toList <:+: s.toList := occursIn_iff

theorem isEmpty_of_head {s : String} {c : Char} (h : s.toList.head? = some c) : s.isEmpty = false := by
  rw [Bool.eq_false_iff, ne_eq, String.isEmpty_iff]
  rintro rfl
  exact absurd h (by simp)

theorem startsWith_eq_false_of_head {s p : String} {c d : Char} (hs : s.toList.head? = some c)
    (hp : p.toList.head? = some d) (hcd : c ≠ d) : startsWith s p = false := by
  obtain ⟨x, hx⟩ := List.head?_eq_some_iff.1 hs
  obtain ⟨y, hy⟩ := List.head?_eq_some_iff.1 hp
  rw [startsWith, hx, hy]
  simp [List.isPrefixOf, Ne.symm hcd]

theorem any_has_append (w : String) {s : String} {vs : List String} (h : vs.any (has s) = true) :
    vs.any (has (w ++ s)) = true := by
  obtain ⟨v, hv, hs⟩ := List.any_eq_true.1 h
  refine List.any_eq_true.2 ⟨v, hv, has_iff.2 ?_⟩
  rw [String.toList_append]
  exact (has_iff.1 hs).trans (List.suffix_append _ _).isInfix

end Prefix

/-! ## Splitting at one character -/

section Split

variable {p : Char}

theorem splitList_go_nil (acc : List Char) : splitList.go [p] [] acc = [acc.reverse] := by
  rw [splitList.go]

theorem splitList_go_sep (r acc : List Char) :
    splitList.go [p] (p :: r) acc = acc.reverse :: splitList.go [p] r [] := by
  rw [splitList.go, dif_pos ⟨List.cons_ne_nil p [], by simp⟩]
  rfl

theorem splitList_go_append {a : List Char} (ha : p ∉ a) (r acc : List Char) :
    splitList.go [p] (a ++ r) acc = splitList.go [p] r (a.reverse ++ acc) := by
  induction a generalizing acc with
  | nil => rfl
  | cons c a ih =>
    have hc : p ≠ c := fun h => ha (h ▸ List.mem_cons_self)
    rw [List.cons_append, splitList.go, dif_neg (by simp [hc]),
      ih (fun h => ha (List.mem_cons_of_mem c h))]
    simp

theorem splitList_single {a : List Char} (ha : p ∉ a) : splitList [p] a = [a] := by
  have h := splitList_go_append ha [] []
  rw [List.append_nil, splitList_go_nil, List.append_nil, List.reverse_reverse] at h
  exact h

theorem splitList_pair {a b : List Char} (ha : p ∉ a) (hb : p ∉ b) :
    splitList [p] (a ++ p :: b) = [a, b] := by
  unfold splitList
  rw [splitList_go_append ha, splitList_go_sep, List.append_nil, List.reverse_reverse]
  exact congrArg (a :: ·) (splitList_single hb)

/-- Splitting pieces, each followed by a character that none of them holds, and then a last piece
gives the pieces back. -/
theorem splitList_flatMap {z : List Char} (hz : p ∉ z) :
    ∀ {ys : List (List Char)}, (∀ y ∈ ys, p ∉ y) → splitList [p] (ys.flatMap (· ++ [p]) ++ z) = ys ++ [z]
  | [], _ => by simpa using splitList_single hz
  | y :: ys, h => by
    rw [List.flatMap_cons, List.append_assoc, List.append_assoc, List.singleton_append]
    unfold splitList
    rw [splitList_go_append (h y List.mem_cons_self), splitList_go_sep, List.append_nil,
      List.reverse_reverse]
    exact congrArg (y :: ·) (splitList_flatMap hz fun x hx => h x (List.mem_cons_of_mem y hx))

/-- Splitting a piece, then pieces each after the separator, none of them holding it, gives the
pieces back. -/
theorem splitList_cons_flatMap :
    ∀ {x : List Char} {ys : List (List Char)}, p ∉ x → (∀ y ∈ ys, p ∉ y) →
      splitList [p] (x ++ ys.flatMap (p :: ·)) = x :: ys
  | x, [], hx, _ => by simpa using splitList_single hx
  | x, y :: ys, hx, h => by
    rw [List.flatMap_cons, List.cons_append]
    unfold splitList
    rw [splitList_go_append hx, splitList_go_sep, List.append_nil, List.reverse_reverse]
    exact congrArg (x :: ·)
      (splitList_cons_flatMap (h y List.mem_cons_self) fun z hz => h z (List.mem_cons_of_mem y hz))

end Split

/-- A joined text is its first part, then each further part after the separator. -/
theorem toList_intercalate_cons (sep s : String) :
    ∀ ss : List String, (String.intercalate sep (s :: ss)).toList =
      s.toList ++ ss.flatMap fun t => sep.toList ++ t.toList
  | [] => by simp
  | t :: ts => by
    rw [String.intercalate_cons_cons, String.toList_append, String.toList_append,
      toList_intercalate_cons sep t ts]
    simp

/-! ## Lower case -/

section Lower

theorem lowerAfter_ascii_cons {c : Char} (hc : c.toNat < 128) (b cs : List Char) :
    lowerAfter b (c :: cs) = c.toLower :: lowerAfter (c :: b) cs := by
  have hσ : c ≠ 'Σ' := fun h => by subst h; simp at hc
  rw [lowerAfter, if_neg fun h => hσ h.1, lowerChar, if_pos hc]
  rfl

theorem lowerAfter_ascii_append {w : List Char} (hw : ∀ c ∈ w, c.toNat < 128) (b cs : List Char) :
    lowerAfter b (w ++ cs) = w.map Char.toLower ++ lowerAfter (w.reverse ++ b) cs := by
  induction w generalizing b with
  | nil => rfl
  | cons c w ih =>
    rw [List.cons_append, lowerAfter_ascii_cons (hw c List.mem_cons_self),
      ih (fun d hd => hw d (List.mem_cons_of_mem c hd))]
    simp

/-- A cased character ends the characters (nearest first), looking past case-ignorable ones. -/
def casedBefore (before : List Char) : Bool :=
  ((before.dropWhile isCaseIgnorable).head?.map isCased).getD false

theorem endsWord_eq (before after : List Char) :
    endsWord before after = (casedBefore before && !casedBefore after) := rfl

theorem casedBefore_cons_eq {b b' : List Char} (h : casedBefore b = casedBefore b') (c : Char) :
    casedBefore (c :: b) = casedBefore (c :: b') := by
  unfold casedBefore at *
  rw [List.dropWhile_cons, List.dropWhile_cons]
  split
  · exact h
  · rfl

theorem lowerAfter_congr {b b' : List Char} (h : casedBefore b = casedBefore b') (cs : List Char) :
    lowerAfter b cs = lowerAfter b' cs := by
  induction cs generalizing b b' with
  | nil => rfl
  | cons c cs ih =>
    rw [lowerAfter, lowerAfter, endsWord_eq, endsWord_eq, h, ih (casedBefore_cons_eq h c)]

theorem casedBefore_space (b : List Char) : casedBefore (' ' :: b) = false := by
  have hi : isCaseIgnorable ' ' = false := by decide
  have hc : isCased ' ' = false := by decide
  simp [casedBefore, hi, hc]

theorem lowerAfter_space (b cs : List Char) : lowerAfter (' ' :: b) cs = lowerAfter [] cs :=
  lowerAfter_congr (casedBefore_space b) cs

/-- Lower-casing passes over a lower-case ASCII prefix that ends in a space. -/
theorem lower_append_of_lowerCase {w : String}
    (hw : ∀ c ∈ w.toList, c.toNat < 128 ∧ c.toLower = c) (hsp : w.toList.getLast? = some ' ')
    (s : String) : lower (w ++ s) = w ++ lower s := by
  obtain ⟨w', hw'⟩ : ∃ w', w.toList.reverse = ' ' :: w' := by
    rw [← List.head?_reverse] at hsp
    cases h : w.toList.reverse with
    | nil => simp [h] at hsp
    | cons c w' => exact ⟨w', by simp_all⟩
  have hmap : w.toList.map Char.toLower = w.toList := by
    conv => rhs; rw [← List.map_id w.toList]
    exact List.map_congr_left fun c hc => (hw c hc).2
  unfold lower
  rw [String.toList_append, lowerAfter_ascii_append (fun c hc => (hw c hc).1), hw',
    List.cons_append, lowerAfter_space, hmap]
  simp

theorem head?_lower_cons {c : Char} (hc : c.toNat < 128) (hl : c.toLower = c) (r : List Char) :
    (lower (String.ofList (c :: r))).toList.head? = some c := by
  rw [lower, String.toList_ofList, String.toList_ofList, lowerAfter_ascii_cons hc, hl]
  rfl

theorem lower_toList_of_ascii {s : String} (h : ∀ c ∈ s.toList, c.toNat < 128) :
    (lower s).toList = s.toList.map Char.toLower := by
  simpa [lower, lowerAfter] using lowerAfter_ascii_append h [] []

end Lower

end Taskflow.Text
