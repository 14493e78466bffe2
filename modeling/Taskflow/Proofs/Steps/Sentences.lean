import Taskflow.Steps.Normalise
import Taskflow.Steps.Sentence
import Taskflow.Proofs.Text.Pieces
import Taskflow.Proofs.Plan.ConcernSearch
import Mathlib.Data.List.Basic
/-!
How a task made of sentences is cut, before and after it is normalised.
-/

namespace Taskflow.Steps

open Text Pattern

section WholeWord

def LowerAscii (u : List Char) : Prop := u.all (fun c => c.toNat < 128 && c.toLower == c) = true

instance (u : List Char) : Decidable (LowerAscii u) := inferInstanceAs (Decidable (_ = true))

theorem LowerAscii.of_cons {c : Char} {u : List Char} (h : LowerAscii (c :: u)) : LowerAscii u := by
  simp only [LowerAscii, List.all_cons, Bool.and_eq_true] at h
  exact h.2

theorem LowerAscii.map_toLower {u : List Char} (h : LowerAscii u) : u.map Char.toLower = u := by
  conv => rhs; rw [← List.map_id u]
  refine List.map_congr_left fun c hc => ?_
  have := List.all_eq_true.1 h c hc
  simp only [Bool.and_eq_true, decide_eq_true_eq, beq_iff_eq] at this
  exact this.2

theorem LowerAscii.ascii {u : List Char} (h : LowerAscii u) : ∀ c ∈ u, c.toNat < 128 := by
  intro c hc
  have := List.all_eq_true.1 h c hc
  simp only [Bool.and_eq_true, decide_eq_true_eq] at this
  exact this.1

theorem LowerAscii.append {u v : List Char} (hu : LowerAscii u) (hv : LowerAscii v) :
    LowerAscii (u ++ v) := by
  simp only [LowerAscii, List.all_append, Bool.and_eq_true] at *
  exact ⟨hu, hv⟩

theorem LowerAscii.prefix_of_spells {w u : List Char} (hw : LowerAscii w) (hu : LowerAscii u)
    (h : spells .caseless w u = true) : w <+: u := by
  have := Plan.lower_isPrefix_of_spells hw.ascii hu.ascii h
  rwa [hw.map_toLower, hu.map_toLower] at this

/-- A marker word: lower-case ASCII, with a word character at each end. -/
structure MarkerWord (w : List Char) : Prop where
  lowerAscii : LowerAscii w
  head : w.head?.any isWordChar = true
  last : w.getLast?.any isWordChar = true

instance (w : List Char) : Decidable (MarkerWord w) :=
  decidable_of_iff (LowerAscii w ∧ w.head?.any isWordChar = true ∧ w.getLast?.any isWordChar = true)
    ⟨fun ⟨a, b, c⟩ => ⟨a, b, c⟩, fun ⟨a, b, c⟩ => ⟨a, b, c⟩⟩

/-- The word `w` starts the text `u` as a whole word: after `prev`, which is no word character,
and before no word character. -/
def wordAt (w : List Char) (prev : Option Char) (u : List Char) : Bool :=
  !prev.any isWordChar && w.isPrefixOf u && !(u.drop w.length).head?.any isWordChar

/-- The word stands somewhere in the text as a whole word. -/
def hasWord (w : List Char) : Option Char → List Char → Bool
  | prev, [] => wordAt w prev []
  | prev, c :: cs => wordAt w prev (c :: cs) || hasWord w (some c) cs

theorem atWordEdge_eq (prev : Option Char) (u : List Char) :
    atWordEdge prev u = (prev.any isWordChar != u.head?.any isWordChar) := by
  cases prev <;> cases u <;> rfl

theorem wholeWord_eq (w : String) : wholeWord w = .cat .wordEdge (.cat (str w) .wordEdge) := rfl

/-- No whole-word match of a marker word starts where the word does not stand whole. -/
theorem matchAt_wholeWord {w : String} (hw : MarkerWord w.toList) {u : List Char}
    (hu : LowerAscii u) {prev : Option Char} (h : wordAt w.toList prev u = false) (pos : Nat) :
    matchAt .caseless (wholeWord w) false pos prev u = none := by
  suffices hrun : runFrames .caseless (fun c => !(false && c.pos == pos)) [.run (wholeWord w)]
      pos prev u [] = none by
    rw [matchAt, hrun]
    rfl
  obtain ⟨c, cs, hwc⟩ : ∃ c cs, w.toList = c :: cs := by
    cases hl : w.toList with
    | nil => simpa [hl] using hw.head
    | cons c cs => exact ⟨c, cs, rfl⟩
  rw [wholeWord_eq, run_cat, run_wordEdge]
  by_cases hedge : atWordEdge prev u = true
  · rw [if_pos hedge, run_cat]
    cases hs : spells .caseless w.toList u with
    | false => exact run_word_none _ _ _ _ hs
    | true =>
      -- the word is spelled here, so only the edge after it can fail
      obtain ⟨u', rfl⟩ := hw.lowerAscii.prefix_of_spells hu hs
      have hprev : prev.any isWordChar = false := by
        have hhead := hw.head
        rw [atWordEdge_eq, List.head?_append_of_ne_nil _ (by simp [hwc])] at hedge
        revert hedge hhead
        cases prev.any isWordChar <;> cases w.toList.head?.any isWordChar <;> simp
      have hafter : u'.head?.any isWordChar = true := by
        simp only [wordAt, hprev, List.isPrefixOf_iff_prefix.2 (List.prefix_append _ _),
          List.drop_left, Bool.not_false, Bool.true_and, Bool.not_eq_false'] at h
        simpa using h
      rw [str, hwc, run_word_last, run_wordEdge, if_neg]
      rw [atWordEdge_eq, ← hwc, hafter]
      have hlast := hw.last
      revert hlast
      cases w.toList.getLast?.any isWordChar <;> simp
  · rw [if_neg hedge]

/-- The whole-word search for a marker word finds nothing in a text where it never stands
whole. -/
theorem searchFrom_wholeWord {w : String} (hw : MarkerWord w.toList) :
    ∀ {u : List Char} (pos : Nat) (prev : Option Char), LowerAscii u →
      hasWord w.toList prev u = false → searchFrom .caseless (wholeWord w) false pos prev u = none
  | [], pos, prev, hu, h => matchAt_wholeWord hw hu h pos
  | c :: cs, pos, prev, hu, h => by
    simp only [hasWord, Bool.or_eq_false_iff] at h
    rw [searchFrom, matchAt_wholeWord hw hu h.1 pos]
    exact searchFrom_wholeWord hw (pos + 1) (some c) hu.of_cons h.2

end WholeWord

section Normalise

theorem lowerAscii_toLower {u : List Char} (h : ∀ c ∈ u, c.toNat < 128) :
    LowerAscii (u.map Char.toLower) := by
  refine List.all_eq_true.2 fun c hc => ?_
  obtain ⟨d, hd, rfl⟩ := List.mem_map.1 hc
  exact ascii_of_fin (P := fun d => (d.toLower.toNat < 128 && d.toLower.toLower == d.toLower) = true)
    (by decide) (h d hd)

theorem markerRules_words : ∀ m ∈ markerRules, MarkerWord m.1.toList := by decide +kernel

/-- The normaliser finds none of its marker words standing whole in the lower-cased text. -/
def NoMarker (text : String) : Prop :=
  ∀ m ∈ markerRules, hasWord m.1.toList none (lower text).toList = false

instance (text : String) : Decidable (NoMarker text) :=
  inferInstanceAs (Decidable (∀ m ∈ markerRules, _))

/-- A fold that leaves its start as it is at every member leaves it as it is. -/
theorem foldl_eq_self {α β : Type} {f : β → α → β} {b : β} :
    ∀ {l : List α}, (∀ a ∈ l, f b a = b) → l.foldl f b = b
  | [], _ => rfl
  | a :: l, h => by
    rw [List.foldl_cons, h a List.mem_cons_self]
    exact foldl_eq_self fun a' ha' => h a' (List.mem_cons_of_mem a ha')

theorem normalise_eq_lower {text : String} (ht : ∀ c ∈ text.toList, c.toNat < 128)
    (h : NoMarker text) : normalise text = lower text := by
  have hlow : LowerAscii (lower text).toList := by
    rw [lower_toList_of_ascii ht]
    exact lowerAscii_toLower ht
  -- each rule searches the lower-cased text, finds nothing and leaves it as it is
  unfold normalise
  refine foldl_eq_self fun m hm => ?_
  have hw := markerRules_words m hm
  have hno := h m hm
  rcases m with ⟨w, r⟩
  dsimp only at hw hno ⊢
  exact replace_eq_self r (searchFrom_wholeWord hw 0 none hlow hno)

end Normalise

section Cutting

theorem sentencesFrom_stop {e : Char} (he : isStop e = true) {rest : List Char}
    (hr : endsSentence rest = true) (cur : List Char) :
    sentencesFrom (e :: rest) cur =
      strip (String.ofList (e :: cur).reverse) :: sentencesFrom rest [] := by
  rw [sentencesFrom, if_pos ⟨he, hr⟩]

/-- A character that is no stop, or a stop that does not end a sentence, joins the open one. -/
theorem sentencesFrom_cons_open {e : Char} {rest : List Char}
    (h : isStop e = false ∨ endsSentence rest = false) (cur : List Char) :
    sentencesFrom (e :: rest) cur = sentencesFrom rest (e :: cur) := by
  rw [sentencesFrom, if_neg]
  rcases h with h | h <;> simp [h]

theorem sentencesFrom_append_of_no_stop {w : List Char} (hw : ∀ x ∈ w, isStop x = false)
    (rest cur : List Char) : sentencesFrom (w ++ rest) cur = sentencesFrom rest (w.reverse ++ cur) := by
  induction w generalizing cur with
  | nil => rfl
  | cons x w ih =>
    rw [List.cons_append, sentencesFrom_cons_open (.inl (hw x List.mem_cons_self)),
      ih (fun y hy => hw y (List.mem_cons_of_mem x hy))]
    simp

/-- A sentence of a plain task: ASCII, opening with a capital letter, closing with its only
stop, and not opening with `kung` in any case. -/
structure PlainSentence (s : String) : Prop where
  ascii : s.toList.all (fun c => c.toNat < 128) = true
  capital : s.toList.head?.any Char.isUpper = true
  ends : s.toList.getLast?.any isStop = true
  inner : s.toList.dropLast.all (fun c => !isStop c) = true
  notKung : startsWith (lower s) "kung" = false

instance (s : String) : Decidable (PlainSentence s) :=
  decidable_of_iff (s.toList.all (fun c => c.toNat < 128) = true ∧
      s.toList.head?.any Char.isUpper = true ∧ s.toList.getLast?.any isStop = true ∧
      s.toList.dropLast.all (fun c => !isStop c) = true ∧ startsWith (lower s) "kung" = false)
    ⟨fun ⟨a, b, c, d, e⟩ => ⟨a, b, c, d, e⟩, fun ⟨a, b, c, d, e⟩ => ⟨a, b, c, d, e⟩⟩

example : PlainSentence "Add a login form." ∧ ¬ PlainSentence "add a login form." ∧
    ¬ PlainSentence "Kung fu. Then tea." := by
  decide +kernel

theorem PlainSentence.ascii_mem {s : String} (h : PlainSentence s) : ∀ c ∈ s.toList, c.toNat < 128 :=
  fun c hc => by simpa using List.all_eq_true.1 h.ascii c hc

/-- A plain sentence is a capital, letters without a stop, and a stop. -/
theorem PlainSentence.shape {s : String} (h : PlainSentence s) :
    ∃ c body e, s.toList = c :: body ++ [e] ∧ c.isUpper = true ∧ isStop e = true ∧
      ∀ x ∈ c :: body, isStop x = false := by
  have hne : s.toList ≠ [] := fun h0 => by simpa [h0] using h.capital
  have hinner : ∀ x ∈ s.toList.dropLast, isStop x = false := fun x hx => by
    simpa using List.all_eq_true.1 h.inner x hx
  have he : isStop (s.toList.getLast hne) = true := by
    simpa [List.getLast?_eq_some_getLast hne] using h.ends
  have hasc : (s.toList.getLast hne).toNat < 128 := h.ascii_mem _ (List.getLast_mem hne)
  have hsplit := List.dropLast_append_getLast hne
  obtain ⟨e, hlast⟩ : ∃ e, s.toList.getLast hne = e := ⟨_, rfl⟩
  rw [hlast] at hsplit he hasc
  have hcap := h.capital
  rw [← hsplit] at hcap
  cases hd : s.toList.dropLast with
  | nil =>
    -- a single character would be both a capital and a stop
    rw [hd] at hcap
    have hc : e.isUpper = true := by simpa using hcap
    have := ascii_of_fin (P := fun c => c.isUpper = true → isStop c = false) (by decide) hasc hc
    simp [this] at he
  | cons c body =>
    rw [hd] at hcap
    exact ⟨c, body, e, by rw [← hsplit, hd], by simpa using hcap, he,
      fun x hx => hinner x (hd ▸ hx)⟩

/-- What ASCII capitals are, and what they become in lower case. -/
theorem capital_facts {c : Char} (hasc : c.toNat < 128) (hc : c.isUpper = true) :
    isBlank c = false ∧ isUpperChar c = true ∧ isStop c = false ∧ isBlank c.toLower = false ∧
      isUpperChar c.toLower = false ∧ c.toLower ≠ '[' :=
  ascii_of_fin (P := fun c => c.isUpper = true → isBlank c = false ∧ isUpperChar c = true ∧
    isStop c = false ∧ isBlank c.toLower = false ∧ isUpperChar c.toLower = false ∧
    c.toLower ≠ '[') (by decide) hasc hc

theorem stop_facts {e : Char} (he : isStop e = true) :
    isBlank e = false ∧ e.toLower = e ∧ e ∉ "kung".toList := by
  simp only [isStop, decide_eq_true_eq] at he
  rcases he with rfl | rfl | rfl <;> decide

theorem isStop_toLower {x : Char} (hx : x.toNat < 128) : isStop x.toLower = isStop x :=
  ascii_of_fin (P := fun x => isStop x.toLower = isStop x) (by decide) hx

/-- After a stop and a space, a lower-cased text that begins with a letter starts a marker only
by starting with it. -/
theorem startsMarker_space {X : List Char} (hX : LowerAscii X)
    (hhead : ∀ d ∈ X.head?, isBlank d = false)
    (hm : ∀ q ∈ ["[seq_", "kung", "[if]"], ¬ q.toList <+: X) : startsMarker (' ' :: X) = false := by
  -- what is tested is a prefix of the text, kept in lower case
  have htake : (' ' :: X).take 9 = ' ' :: X.take 8 := rfl
  have hfront : dropFront isBlank (X.take 8) = X.take 8 := by
    cases X with
    | nil => rfl
    | cons d X =>
      unfold dropFront
      rw [List.take_succ_cons, List.dropWhile_cons, if_neg (by simp [hhead d rfl])]
  set P := dropBack isBlank (X.take 8) with hP
  have hPX : P <+: X := (dropBack_prefix_self _ _).trans (List.take_prefix 8 X)
  have hstrip : (strip (String.ofList ((' ' :: X).take 9))).toList = P := by
    simp [strip, htake, dropFront_space, hfront, hP]
  have hlow : LowerAscii P := List.all_eq_true.2 fun c hc => List.all_eq_true.1 hX c (hPX.subset hc)
  have hlower : lower (strip (String.ofList ((' ' :: X).take 9))) = String.ofList P := by
    rw [← String.toList_inj, lower_toList_of_ascii, hstrip, hlow.map_toLower, String.toList_ofList]
    rw [hstrip]
    exact hlow.ascii
  have hno : ∀ q ∈ ["[seq_", "kung", "[if]"], startsWith (String.ofList P) q = false := by
    intro q hq
    rw [← Bool.not_eq_true, startsWith_iff, String.toList_ofList]
    exact fun h => hm q hq (h.trans hPX)
  simp only [startsMarker, hlower, hno "[seq_" (by simp), hno "kung" (by simp), hno "[if]" (by simp),
    Bool.or_false]

/-- The lower-cased sentences of a task: the first, then each after a space. -/
def loweredText (s : String) (ss : List String) : List Char :=
  s.toList.map Char.toLower ++ ss.flatMap fun t => ' ' :: t.toList.map Char.toLower

theorem lowerAscii_spaced {ss : List String} (hss : ∀ t ∈ ss, PlainSentence t) :
    LowerAscii (ss.flatMap fun t => ' ' :: t.toList.map Char.toLower) := by
  refine List.all_eq_true.2 fun c hc => ?_
  obtain ⟨t, ht, hct⟩ := List.mem_flatMap.1 hc
  rcases List.mem_cons.1 hct with rfl | hct
  · decide
  · exact List.all_eq_true.1 (lowerAscii_toLower (hss t ht).ascii_mem) c hct

/-- In lower case, the space after a sentence is never followed by an upper-case letter or a
marker, so the sentence does not end there. -/
theorem endsSentence_lowered {t : String} (ht : PlainSentence t) {r : List Char}
    (hr : LowerAscii r) : endsSentence (' ' :: (t.toList.map Char.toLower ++ r)) = false := by
  obtain ⟨c, body, e, hl, hc, he, -⟩ := ht.shape
  obtain ⟨-, -, -, hcb, hcu, hcl⟩ := capital_facts (ht.ascii_mem c (by simp [hl])) hc
  obtain ⟨-, hel, hek⟩ := stop_facts he
  have hL : t.toList.map Char.toLower = c.toLower :: (body.map Char.toLower ++ [e]) := by
    simp [hl, hel]
  have hX : LowerAscii (t.toList.map Char.toLower ++ r) :=
    (lowerAscii_toLower ht.ascii_mem).append hr
  -- the sentence itself does not start with `kung`, and its stop cannot be part of it
  have hkung : ¬ "kung".toList <+: t.toList.map Char.toLower ++ r := by
    refine not_prefix_append ?_ (by simp [hL]) (fun x hx => ?_) r
    · have := ht.notKung
      rwa [← Bool.not_eq_true, startsWith_iff, lower_toList_of_ascii ht.ascii_mem] at this
    · rw [hL] at hx
      simp only [List.getLast?_cons, List.getLast?_append, Option.some_or, Option.getD_some, Option.mem_def, Option.some.injEq] at hx
      rw [← hx]
      exact hek
  have hm : ∀ q ∈ ["[seq_", "kung", "[if]"], ¬ q.toList <+: t.toList.map Char.toLower ++ r := by
    intro q hq
    simp only [List.mem_cons, List.mem_nil_iff, or_false] at hq
    rcases hq with rfl | rfl | rfl
    · rw [hL]
      simp [Ne.symm hcl]
    · exact hkung
    · rw [hL]
      simp [Ne.symm hcl]
  have hmarker := startsMarker_space hX (by simp [hL, hcb]) hm
  rw [hL, List.cons_append] at hmarker ⊢
  rw [endsSentence, hmarker]
  simp [hcu]

theorem PlainSentence.trimmed {s : String} (h : PlainSentence s) : Trimmed s.toList := by
  obtain ⟨c, body, e, hl, hc, he, -⟩ := h.shape
  have hcb := (capital_facts (h.ascii_mem c (by simp [hl])) hc).1
  rw [hl]
  exact Trimmed.prepend (by simp [hcb]) ⟨by simp [(stop_facts he).1], by simp [(stop_facts he).1]⟩
    (List.cons_ne_nil e [])

theorem PlainSentence.toLower_not_stop {s : String} (h : PlainSentence s) {c : Char}
    {body : List Char} (hin : ∀ x ∈ c :: body, isStop x = false)
    (hsub : ∀ x ∈ c :: body, x ∈ s.toList) : ∀ x ∈ (c :: body).map Char.toLower, isStop x = false := by
  intro x hx
  obtain ⟨y, hy, rfl⟩ := List.mem_map.1 hx
  rw [isStop_toLower (h.ascii_mem y (hsub y hy))]
  exact hin y hy

/-- The lower-cased sentences are one sentence: it runs to the last stop. -/
theorem sentencesFrom_loweredText : ∀ (s : String) (ss : List String) (pre : List Char),
    PlainSentence s → (∀ t ∈ ss, PlainSentence t) →
      sentencesFrom (loweredText s ss) pre = [strip (String.ofList (pre.reverse ++ loweredText s ss))]
  | s, ss, pre, hs, hss => by
    obtain ⟨c, body, e, hl, hc, he, hin⟩ := hs.shape
    have hnostop := hs.toLower_not_stop hin fun x hx => by simp [hl, List.mem_cons] at hx ⊢; tauto
    have hlow : s.toList.map Char.toLower = (c :: body).map Char.toLower ++ [e] := by
      simp [hl, (stop_facts he).2.1]
    cases ss with
    | nil =>
      have hL : loweredText s [] = (c :: body).map Char.toLower ++ [e] := by
        simp [loweredText, hlow]
      rw [hL, sentencesFrom_append_of_no_stop hnostop, sentencesFrom_stop he rfl]
      simp [sentencesFrom, strip, dropFront, dropBack]
    | cons t ts =>
      have ht := hss t List.mem_cons_self
      have hts : ∀ u ∈ ts, PlainSentence u := fun u hu => hss u (List.mem_cons_of_mem t hu)
      have hL : loweredText s (t :: ts) =
          (c :: body).map Char.toLower ++ e :: ' ' :: loweredText t ts := by
        simp [loweredText, hlow]
      -- the stop of `s` is followed by a space and a lower-case letter, so the sentence goes on
      have hopen : endsSentence (' ' :: loweredText t ts) = false :=
        endsSentence_lowered ht (lowerAscii_spaced hts)
      rw [hL, sentencesFrom_append_of_no_stop hnostop, sentencesFrom_cons_open (.inr hopen),
        sentencesFrom_cons_open (.inl rfl),
        sentencesFrom_loweredText t ts _ ht hts]
      simp

theorem trimmed_loweredText : ∀ (s : String) (ss : List String), PlainSentence s →
    (∀ t ∈ ss, PlainSentence t) → Trimmed (loweredText s ss)
  | s, ss, hs, hss => by
    obtain ⟨c, body, e, hl, hc, he, -⟩ := hs.shape
    have hcl := (capital_facts (hs.ascii_mem c (by simp [hl])) hc).2.2.2.1
    have hhead : ∀ x ∈ (s.toList.map Char.toLower).head?, isBlank x = false := by
      simp [hl, hcl]
    cases ss with
    | nil =>
      have heb := (stop_facts he).1
      have hL : loweredText s [] = (c :: body).map Char.toLower ++ [e] := by
        simp [loweredText, hl, (stop_facts he).2.1]
      rw [hL]
      exact Trimmed.prepend (by simp [hcl]) ⟨by simp [heb], by simp [heb]⟩ (List.cons_ne_nil e [])
    | cons t ts =>
      have hL : loweredText s (t :: ts) =
          (s.toList.map Char.toLower ++ [' ']) ++ loweredText t ts := by
        simp [loweredText]
      rw [hL]
      refine Trimmed.prepend ?_ (trimmed_loweredText t ts (hss t List.mem_cons_self)
        fun u hu => hss u (List.mem_cons_of_mem t hu)) ?_
      · simpa [hl] using hhead
      · obtain ⟨c', body', e', hl', -⟩ := (hss t List.mem_cons_self).shape
        simp [loweredText, hl']

/-- Sentences joined by single spaces are cut back into the same sentences. -/
theorem sentencesFrom_plain : ∀ (s : String) (ss : List String) (pre : List Char),
    PlainSentence s → (∀ t ∈ ss, PlainSentence t) → (∀ x ∈ pre, isBlank x = true) →
      sentencesFrom (s.toList ++ ss.flatMap fun t => ' ' :: t.toList) pre = s :: ss
  | s, ss, pre, hs, hss, hpre => by
    obtain ⟨c, body, e, hl, hc, he, hin⟩ := hs.shape
    -- the sentence, up to its stop, is collected after the blanks already open
    have hstrip : strip (String.ofList (e :: ((c :: body).reverse ++ pre)).reverse) = s := by
      have : (e :: ((c :: body).reverse ++ pre)).reverse = pre.reverse ++ s.toList := by
        simp [hl]
      rw [this, strip_blanks_append (by simpa using hpre), strip_eq_self hs.trimmed]
    cases ss with
    | nil =>
      rw [List.flatMap_nil, List.append_nil, hl, sentencesFrom_append_of_no_stop hin,
        sentencesFrom_stop he rfl, hstrip]
      simp [sentencesFrom, strip, dropFront, dropBack]
    | cons t ts =>
      have ht := hss t List.mem_cons_self
      obtain ⟨c', body', e', hl', hc', -⟩ := ht.shape
      have hup : isUpperChar c' = true :=
        (capital_facts (ht.ascii_mem c' (by simp [hl'])) hc').2.1
      have hend : endsSentence (' ' :: (t.toList ++ ts.flatMap fun u => ' ' :: u.toList)) = true := by
        rw [hl']
        simp [endsSentence, hup]
      have htext : s.toList ++ (t :: ts).flatMap (fun u => ' ' :: u.toList) =
          (c :: body) ++ e :: ' ' :: (t.toList ++ ts.flatMap fun u => ' ' :: u.toList) := by
        simp [hl]
      rw [htext, sentencesFrom_append_of_no_stop hin, sentencesFrom_stop he hend, hstrip,
        sentencesFrom_cons_open (.inl rfl),
        sentencesFrom_plain t ts [' '] ht (fun u hu => hss u (List.mem_cons_of_mem t hu))
          (by simp; decide)]

end Cutting

section Task

theorem toList_intercalate_space (s : String) :
    ∀ ss : List String, (String.intercalate " " (s :: ss)).toList =
      s.toList ++ ss.flatMap fun t => ' ' :: t.toList := fun ss => by
  rw [toList_intercalate_cons]
  simp

theorem intercalate_space_ascii {ss : List String} (h : ∀ s ∈ ss, ∀ c ∈ s.toList, c.toNat < 128) :
    ∀ c ∈ (String.intercalate " " ss).toList, c.toNat < 128 := by
  intro c hc
  cases ss with
  | nil => simp at hc
  | cons s ts =>
    rw [toList_intercalate_space] at hc
    simp only [List.mem_append, List.mem_flatMap, List.mem_cons] at hc
    rcases hc with hc | ⟨t, ht, rfl | hc⟩
    · exact h s List.mem_cons_self c hc
    · decide
    · exact h t (List.mem_cons_of_mem s ht) c hc

theorem ascii_intercalate_space {ss : List String} (h : ∀ s ∈ ss, PlainSentence s) :
    ∀ c ∈ (String.intercalate " " ss).toList, c.toNat < 128 :=
  intercalate_space_ascii fun s hs => (h s hs).ascii_mem

/-- Cut into sentences, a task of plain sentences joined by single spaces gives them back; but
the normaliser lower-cases it first, and then no sentence after the first starts with a capital,
so the whole task is one sentence. -/
theorem sentences_normalise_joined {ss : List String} (hss : ss ≠ [])
    (h : ∀ s ∈ ss, PlainSentence s) (hm : NoMarker (String.intercalate " " ss)) :
    sentences (String.intercalate " " ss) = ss ∧
      sentences (normalise (String.intercalate " " ss)) = [lower (String.intercalate " " ss)] := by
  obtain ⟨s, ts, rfl⟩ := List.exists_cons_of_ne_nil hss
  have hs := h s List.mem_cons_self
  have hts : ∀ t ∈ ts, PlainSentence t := fun t ht => h t (List.mem_cons_of_mem s ht)
  have hascii := ascii_intercalate_space h
  have hlow : (lower (String.intercalate " " (s :: ts))).toList = loweredText s ts := by
    rw [lower_toList_of_ascii hascii, toList_intercalate_space]
    simp [loweredText, List.map_flatMap]
  constructor
  · unfold sentences
    rw [toList_intercalate_space]
    exact sentencesFrom_plain s ts [] hs hts (by simp)
  · unfold sentences
    rw [normalise_eq_lower hascii hm, hlow, sentencesFrom_loweredText s ts [] hs hts]
    rw [List.reverse_nil, List.nil_append, strip_eq_self (by simpa using trimmed_loweredText s ts hs hts),
      ← hlow, String.ofList_toList]

theorem sentences_normalise_two :
    (∀ s ∈ ["Add a login form.", "Update the schema."], PlainSentence s) ∧
      NoMarker (String.intercalate " " ["Add a login form.", "Update the schema."]) ∧
      (sentences (String.intercalate " " ["Add a login form.", "Update the schema."]) =
          ["Add a login form.", "Update the schema."] ∧
        sentences (normalise (String.intercalate " " ["Add a login form.", "Update the schema."])) =
          [lower (String.intercalate " " ["Add a login form.", "Update the schema."])]) :=
  have h : ∀ s ∈ ["Add a login form.", "Update the schema."], PlainSentence s := by decide +kernel
  have hm : NoMarker (String.intercalate " " ["Add a login form.", "Update the schema."]) := by
    decide +kernel
  ⟨h, hm, sentences_normalise_joined (by simp) h hm⟩

end Task

end Taskflow.Steps
