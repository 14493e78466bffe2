import Taskflow.Proofs.Text.Fence
import Taskflow.Proofs.Review.Merge
/-!
The packages the dependency check reads from a phase: those on install lines of its shell blocks.
-/

namespace Taskflow.Review

open Text Pattern

/-! ## Backticks and line ends, compared without case -/

theorem litAccepts_mark {c d : Char} (hc : c = '`' ∨ c = '\n') (hd : d.toNat < 128) :
    litAccepts .caselessLines c d = (c == d) := by
  rcases hc with rfl | rfl
  · exact ascii_of_fin (P := fun d => litAccepts .caselessLines '`' d = ('`' == d)) (by decide) hd
  · exact ascii_of_fin (P := fun d => litAccepts .caselessLines '\n' d = ('\n' == d)) (by decide) hd

theorem spells_marks_eq_false {cs y : List Char} (hcs : ∀ c ∈ cs, c = '`' ∨ c = '\n')
    (hy : ∀ d ∈ y, d.toNat < 128) (h : ¬ cs <+: y) : spells .caselessLines cs y = false := by
  induction cs generalizing y with
  | nil => exact absurd List.nil_prefix h
  | cons c cs ih =>
    cases y with
    | nil => rfl
    | cons d ds =>
      rw [List.cons_prefix_cons] at h
      by_cases hcd : c = d
      · subst hcd
        have hrest := ih (fun c' hc' => hcs c' (List.mem_cons_of_mem _ hc'))
          (fun d' hd' => hy d' (List.mem_cons_of_mem _ hd')) fun h' => h ⟨rfl, h'⟩
        simp [spells, litAccepts_self, hrest]
      · have hlit := litAccepts_mark (hcs c List.mem_cons_self) (hy d List.mem_cons_self)
        simp [spells, hlit, hcd]

theorem anyChar_caseless : OneChar .caselessLines anyChar (fun _ => true) :=
  ⟨fun g k pos prev d ds σ => by
    rw [anyChar, (OneChar.oneOf .caselessLines _).cons]
    simp [classAccepts, MatchFlags.caselessLines, CharTest.acceptsCaseless, CharTest.accepts],
   (OneChar.oneOf .caselessLines _).nil⟩

/-! ## The shell fence, run by hand -/

def shellInfos : List (List Char) := [[], "bash".toList, "sh".toList]

/-- The optional info word of the shell fence. -/
def shellInfo : Pattern := opt (alt (seq ("bash".toList.map .lit)) (seq ("sh".toList.map .lit)))

theorem shellFence_eq : shellFence = .cat (seq (fenceMark.map .lit)) (.cat shellInfo
    (.cat (.lit '\n') (.cat (.group 1 (.star anyChar true)) (seq (('\n' :: fenceMark).map .lit))))) :=
  rfl

section Info

variable {g : Cursor → Bool} {k : List Frame} {σ : List (Nat × Nat × Nat)}

/-- A word of literals fails on a text whose first character it does not start with. -/
theorem run_word_refuse {c d : Char} (cs ds : List Char) (hcd : litAccepts .caselessLines c d = false)
    (pos : Nat) (prev : Option Char) :
    runFrames .caselessLines g (.run (seq ((c :: cs).map .lit)) :: k) pos prev (d :: ds) σ = none :=
  run_word_none _ _ _ _ (by simp [spells, hcd])

theorem bash_toList : "bash".toList = ['b', 'a', 's', 'h'] := by decide

theorem sh_toList : "sh".toList = ['s', 'h'] := by decide

/-- The info word, then the line end: an info word of a shell block is taken whole, the other
words tried fail on its first character. -/
theorem run_shellInfo {info : List Char} (hinfo : info ∈ shellInfos) (Q : Pattern)
    (rest : List Char) (pos : Nat) (prev : Option Char) :
    ∃ prev', runFrames .caselessLines g (.run shellInfo :: .run (.cat (.lit '\n') Q) :: k)
        pos prev (info ++ '\n' :: rest) σ =
      runFrames .caselessLines g (.run Q :: k) (pos + info.length + 1) prev' rest σ := by
  have hnl : ∀ pos prev, runFrames .caselessLines g (.run (.cat (.lit '\n') Q) :: k) pos prev
      ('\n' :: rest) σ = runFrames .caselessLines g (.run Q :: k) (pos + 1) (some '\n') rest σ :=
    fun pos prev => by rw [run_cat, (OneChar.lit _ _).take (litAccepts_self _ _)]
  -- a word that is not the info word fails on its first letter, and so does the line end
  have hnone : ∀ (c d : Char) (cs ds : List Char), litAccepts .caselessLines c d = false →
      litAccepts .caselessLines '\n' d = false →
      (runFrames .caselessLines g (.run (seq ((c :: cs).map .lit)) :: .run (.cat (.lit '\n') Q) :: k)
        pos prev (d :: ds) σ).or (runFrames .caselessLines g (.run .empty ::
          .run (.cat (.lit '\n') Q) :: k) pos prev (d :: ds) σ) = none := fun c d cs ds hcd hnd => by
    rw [run_word_refuse _ _ hcd, run_empty, run_cat, (OneChar.lit _ _).refuse hnd]
    rfl
  simp only [shellInfos, List.mem_cons, List.mem_nil_iff, or_false] at hinfo
  rw [shellInfo, opt, run_alt, run_alt, bash_toList, sh_toList]
  rcases hinfo with rfl | rfl | rfl
  · -- no info word: both words fail on the line end, the empty choice goes on
    refine ⟨some '\n', ?_⟩
    rw [List.nil_append, run_word_refuse _ _ (by decide), run_word_refuse _ _ (by decide),
      Option.none_or, Option.none_or, run_empty, hnl]
    rfl
  · obtain ⟨p, h⟩ := run_word (g := g) (σ := σ) (k := .run (.cat (.lit '\n') Q) :: k)
      ['b', 'a', 's', 'h'] ('\n' :: rest) pos prev
    refine ⟨some '\n', ?_⟩
    rw [bash_toList, h, hnl, Option.or_assoc, List.cons_append, hnone _ _ _ _ (by decide) (by decide),
      Option.or_none]
  · obtain ⟨p, h⟩ := run_word (g := g) (σ := σ) (k := .run (.cat (.lit '\n') Q) :: k)
      ['s', 'h'] ('\n' :: rest) pos prev
    refine ⟨some '\n', ?_⟩
    rw [sh_toList, List.cons_append, run_word_refuse _ _ (by decide), Option.none_or,
      ← List.cons_append, h, hnl, List.cons_append, run_empty, run_cat,
      (OneChar.lit _ _).refuse (by decide), Option.or_none]

/-- The ASCII characters that open no choice of the info word: neither word nor the line end
accepts them, letters compared without case. -/
theorem litAccepts_refused {x : Char} (hx : x.toNat < 128) (hxs : x ∉ ['b', 'B', 's', 'S', '\n']) :
    litAccepts .caselessLines 'b' x = false ∧ litAccepts .caselessLines 's' x = false ∧
      litAccepts .caselessLines '\n' x = false :=
  ascii_of_fin (P := fun x => x ∉ ['b', 'B', 's', 'S', '\n'] → litAccepts .caselessLines 'b' x = false ∧
    litAccepts .caselessLines 's' x = false ∧ litAccepts .caselessLines '\n' x = false)
    (by decide) hx hxs

/-- After three backticks, a character that opens no choice of the info word stops the fence. -/
theorem run_shellInfo_refuse {x : Char} (hx : x.toNat < 128) (hxs : x ∉ ['b', 'B', 's', 'S', '\n'])
    (Q : Pattern) (t : List Char) (pos : Nat) (prev : Option Char) :
    runFrames .caselessLines g (.run shellInfo :: .run (.cat (.lit '\n') Q) :: k) pos prev
      (x :: t) σ = none := by
  obtain ⟨hb, hs, hnl⟩ := litAccepts_refused hx hxs
  rw [shellInfo, opt, run_alt, run_alt, bash_toList, sh_toList, run_word_refuse _ _ hb,
    run_word_refuse _ _ hs, run_empty, run_cat, (OneChar.lit _ _).refuse hnl]
  rfl

end Info

/-! ## Shell blocks are found exactly -/

def Ascii (t : List Char) : Prop := ∀ c ∈ t, c.toNat < 128

/-- Checked one character after another. -/
instance (t : List Char) : Decidable (Ascii t) :=
  decidable_of_iff (t.all fun c => decide (c.toNat < 128)) (by simp [Ascii])

theorem Ascii.of_append {x y : List Char} (h : Ascii (x ++ y)) : Ascii y :=
  fun c hc => h c (List.mem_append_right x hc)

/-- A block the shell fence is meant for: its info word is `bash`, `sh` or empty, and no line of
its body after the first opens with three backticks. -/
structure ShellBlock (b : Fenced) : Prop where
  info : b.info ∈ shellInfos
  body : ¬ ('\n' :: fenceMark) <:+: b.body

/-- An ASCII markdown text of prose without three backticks in a row and of shell blocks. -/
structure ShellDoc (d : Markdown) : Prop where
  lead : Prose d.lead
  blocks : ∀ bq ∈ d.blocks, ShellBlock bq.1 ∧ Prose bq.2
  ascii : Ascii d.text

theorem close_marks : ∀ c ∈ '\n' :: fenceMark, c = '`' ∨ c = '\n' := by
  simp [fenceMark_eq]

/-- A shell block is matched whole where it starts, with its body as group 1. -/
theorem matchAt_shellBlock {b : Fenced} (hb : ShellBlock b) (rest : List Char)
    (ht : Ascii (b.text ++ rest)) (pos : Nat) (prev : Option Char) :
    ∃ prev', matchAt .caselessLines shellFence false pos prev (b.text ++ rest) =
      some ⟨pos, pos + b.text.length,
        [(1, pos + b.info.length + 4, pos + b.info.length + 4 + b.body.length)], prev', rest⟩ := by
  have hbody : Ascii (b.body ++ ('\n' :: fenceMark ++ rest)) := by
    rw [b.text_append] at ht
    exact fun c hc => ht c (List.mem_append_right _ (List.mem_append_right _
      (List.mem_cons_of_mem _ hc)))
  -- before the body's end the closing fence does not fit, letters compared without case or not
  have hclose : ∀ j < b.body.length, spells .caselessLines ('\n' :: fenceMark)
      (b.body.drop j ++ ('\n' :: fenceMark ++ rest)) = false := fun j hj => by
    rw [← List.take_append_drop j b.body, List.append_assoc] at hbody
    exact spells_marks_eq_false close_marks hbody.of_append (close_misses_body hb.body hj rest)
  rw [shellFence_eq]
  exact matchAt_fence_of rest (fun _ _ _ Q pos prev => run_shellInfo hb.info Q _ pos prev)
    anyChar_caseless hclose pos prev

/-- No shell block starts at three backticks followed by a character that opens no choice of
the info word. -/
theorem matchAt_shell_refused {x : Char} (hx : x.toNat < 128)
    (hxs : x ∉ ['b', 'B', 's', 'S', '\n']) (t : List Char) (pos : Nat) (prev : Option Char) :
    matchAt .caselessLines shellFence false pos prev (fenceMark ++ x :: t) = none := by
  obtain ⟨p, h⟩ := run_word (g := fun c => !(false && c.pos == pos)) (σ := [])
    (k := [.run (.cat shellInfo (.cat (.lit '\n')
      (.cat (.group 1 (.star anyChar true)) (seq (('\n' :: fenceMark).map .lit)))))])
    fenceMark (x :: t) pos prev
  rw [matchAt, shellFence_eq, run_cat, h, run_cat, run_shellInfo_refuse hx hxs]
  rfl

/-- No shell block starts at an ASCII text that does not begin with three backticks, nor at one
that begins with four. -/
theorem matchAt_shell_none_of_mark {t : List Char} (hA : Ascii t)
    (ht : ¬ fenceMark <+: t ∨ ∃ t', t = fenceMark ++ '`' :: t') (pos : Nat) (prev : Option Char) :
    matchAt .caselessLines shellFence false pos prev t = none := by
  rcases ht with ht | ⟨t', rfl⟩
  · rw [matchAt, shellFence_eq, run_cat, run_word_none _ _ _ _ (spells_marks_eq_false
      (fun c hc => close_marks c (List.mem_cons_of_mem _ hc)) hA ht)]
    rfl
  · exact matchAt_shell_refused (by decide) (by decide) t' pos prev

theorem shellBlocks_layout (d : Markdown) (hd : ShellDoc d) :
    shellBlocks (String.ofList d.text) = d.bodies := by
  have hlen := length_le_layout d.lead d.blocks
  unfold shellBlocks findAll
  rw [String.toList_ofList]
  exact findAllFrom_layout_of (T := Ascii) (fun _ _ h => h.of_append)
    (fun _ pos prev hA ht => matchAt_shell_none_of_mark hA ht pos prev)
    (fun _ rest pos prev hb hA => matchAt_shellBlock hb rest hA pos prev)
    d.text d.blocks d.lead _ 0 none hd.lead hd.blocks (by unfold Markdown.text; omega) rfl hd.ascii

/-! ## The packages reported -/

/-- The finding the dependency check reports for a package it does not find. -/
def missingFinding (p : String) : Finding :=
  bare .missingDependency .high s!"Referenced dependency '{p}' not found in requirements or apt installs."

/-- Keeping a package the first time it comes is keeping the first of each key, the key being
the package itself. -/
theorem keepFirst_eq_pushNewKey :
    (fun (acc : List String) t => if acc.contains t then acc else acc ++ [t]) = pushNewKey id := by
  funext acc t
  simp [pushNewKey]

/-- Every package the check requires is plausible and named on an install line of a shell
block. -/
theorem mem_requiredPackages {phase p : String} (h : p ∈ requiredPackages phase) :
    plausiblePackage p = true ∧ ∃ b ∈ shellBlocks phase, ∃ l ∈ lines b, p ∈ installedBy l := by
  unfold requiredPackages at h
  rw [keepFirst_eq_pushNewKey] at h
  have hall := (mem_foldl_pushNewKey id _ (List.mem_of_mem_take h)).resolve_left List.not_mem_nil
  obtain ⟨hin, hp⟩ := List.mem_filter.1 hall
  simp only [List.mem_flatMap] at hin
  exact ⟨hp, hin⟩

/-- Every finding of the dependency check reports a package it requires. -/
theorem mem_missingDependencies {phase : String} {files : List (String × String)} {f : Finding}
    (h : f ∈ missingDependencies phase files) :
    ∃ p ∈ requiredPackages phase, f = missingFinding p := by
  unfold missingDependencies at h
  obtain ⟨p, hp, hf⟩ := List.mem_filterMap.1 h
  refine ⟨p, hp, ?_⟩
  dsimp only at hf
  split_ifs at hf
  exact (Option.some.inj hf).symm

/-- On a text of prose and shell blocks, the shell blocks are the blocks' bodies, and every
missing dependency reported is a plausible package named on an apt or pip install line of one
of them: prose never yields one. -/
theorem missingDependencies_from_shell_blocks (d : Markdown) (hd : ShellDoc d)
    (files : List (String × String)) :
    shellBlocks (String.ofList d.text) = d.bodies ∧
      ∀ f ∈ missingDependencies (String.ofList d.text) files, ∃ p, f = missingFinding p ∧
        plausiblePackage p = true ∧ ∃ b ∈ d.bodies, ∃ l ∈ lines b, p ∈ installedBy l := by
  have hblocks := shellBlocks_layout d hd
  refine ⟨hblocks, fun f hf => ?_⟩
  obtain ⟨p, hp, rfl⟩ := mem_missingDependencies hf
  obtain ⟨hplaus, hline⟩ := mem_requiredPackages hp
  rw [hblocks] at hline
  exact ⟨p, rfl, hplaus, hline⟩

/-- Prose around a bash block, an install line in each: only the block's package can be
reported. -/
theorem missingDependencies_from_shell_blocks_bash :
    ShellDoc ⟨"apt install vim\n".toList, [(⟨"bash".toList, "apt install curl".toList⟩,
      "\npip install flask\n".toList)]⟩ ∧
    (shellBlocks "apt install vim\n```bash\napt install curl\n```\npip install flask\n" =
        ["apt install curl"] ∧
      ∀ f ∈ missingDependencies "apt install vim\n```bash\napt install curl\n```\npip install flask\n" [],
        ∃ p, f = missingFinding p ∧ plausiblePackage p = true ∧
          ∃ b ∈ ["apt install curl"], ∃ l ∈ lines b, p ∈ installedBy l) := by
  let d : Markdown := ⟨"apt install vim\n".toList, [(⟨"bash".toList, "apt install curl".toList⟩,
    "\npip install flask\n".toList)]⟩
  have hd : ShellDoc d := by
    refine ⟨by decide +kernel, ?_, ?_⟩
    · simp only [d, List.mem_singleton, forall_eq]
      exact ⟨⟨by decide +kernel, by decide +kernel⟩, by decide +kernel⟩
    · decide +kernel
  have htext : String.ofList d.text =
      "apt install vim\n```bash\napt install curl\n```\npip install flask\n" := by
    decide
  have h := missingDependencies_from_shell_blocks d hd []
  rw [htext] at h
  exact ⟨hd, h⟩

/-! ## After a block in another language -/

theorem Prose.concat_newline {t : List Char} (h : Prose t) : Prose (t ++ ['\n']) := by
  unfold Prose at h ⊢
  rw [List.infix_concat_iff, not_or]
  refine ⟨fun hs => ?_, h⟩
  have hlast := hs.getLast (by simp [fenceMark_eq])
  simp [fenceMark_eq] at hlast

theorem Prose.ticks {x : Char} {t : List Char} (hx : x ≠ '`') (h : Prose (x :: t)) :
    Prose ('`' :: '`' :: x :: t) := by
  unfold Prose at h ⊢
  rw [List.infix_cons_iff, List.infix_cons_iff, not_or, not_or]
  refine ⟨fun hp => hx ?_, fun hp => hx ?_, h⟩
  · simp [fenceMark_eq] at hp
    exact hp.symm
  · simp [fenceMark_eq] at hp
    exact hp.1.symm

/-- A block the shell fence refuses: its info word opens with a character that starts neither
`bash` nor `sh` in either case, nor is a line end or a backtick, and neither the info word nor the
body holds three backticks in a row. -/
structure ForeignBlock (c : Fenced) : Prop where
  start : ∃ x w, c.info = x :: w ∧ x ∉ ['b', 'B', 's', 'S', '\n', '`']
  prose : Prose (c.info ++ '\n' :: c.body)

def beforeClose (c : Fenced) : List Char := fenceMark ++ c.info ++ '\n' :: c.body ++ ['\n']

/-- A search passes over a block the shell fence refuses, up to its closing backticks. -/
theorem findAllFrom_skip_foreign {c : Fenced} (hc : ForeignBlock c) {r : List Char}
    (hr : fenceMark <+: r) (ht : Ascii (beforeClose c ++ r)) (fuel pos : Nat) (prev : Option Char) :
    ∃ prev', findAllFrom .caselessLines shellFence fuel false pos prev (beforeClose c ++ r) =
      findAllFrom .caselessLines shellFence fuel false (pos + (beforeClose c).length) prev' r := by
  obtain ⟨x, w, hinfo, hxs⟩ := hc.start
  -- past the first backtick no three stand in a row: two, then the info word's first character
  let mid := '`' :: '`' :: (c.info ++ '\n' :: c.body) ++ ['\n']
  have hbefore : beforeClose c = '`' :: mid := by
    simp [beforeClose, mid, fenceMark_eq]
  rw [hbefore] at ht ⊢
  have hx : x.toNat < 128 := ht x (by simp [mid, hinfo])
  have hmid : Prose mid := by
    have h := Prose.concat_newline hc.prose
    have hm : mid = '`' :: '`' :: ((c.info ++ '\n' :: c.body) ++ ['\n']) := rfl
    rw [hinfo] at h hm
    rw [hm]
    exact Prose.ticks (fun h' => hxs (by simp [h'])) h
  refine findAllFrom_skip _ _ fuel _ r pos prev fun j hj prev' => ?_
  cases j with
  | zero =>
    -- the opening backticks: the info word's first character is refused
    have hopen : ('`' :: mid).drop 0 ++ r = fenceMark ++ x :: (w ++ '\n' :: c.body ++ '\n' :: r) := by
      simp [mid, hinfo, fenceMark_eq]
    rw [hopen]
    exact matchAt_shell_refused hx (fun h => hxs (by simp at h ⊢; tauto)) _ _ _
  | succ j =>
    have hj' : j < mid.length := by simpa using hj
    have hA : Ascii (mid.drop j ++ r) := by
      rw [← List.take_append_drop j mid, List.cons_append, List.append_assoc] at ht
      exact (ht.of_append (x := [_])).of_append
    rw [List.drop_succ_cons]
    exact matchAt_shell_none_of_mark hA ((hmid.drop j).mark_start (by simpa using hj') (Or.inr hr))
      _ _

/-- After a block the shell fence refuses, the closing backticks open the first shell block, and
the prose up to the next three backticks is its body. -/
theorem shellBlocks_after_foreign (c : Fenced) (hc : ForeignBlock c) (p s : List Char)
    (hp : ¬ ('\n' :: fenceMark) <:+: p)
    (ht : Ascii (c.text ++ '\n' :: (p ++ '\n' :: (fenceMark ++ s)))) :
    (shellBlocks (String.ofList (c.text ++ '\n' :: (p ++ '\n' :: (fenceMark ++ s))))).head? =
      some (String.ofList p) := by
  -- the closing backticks and the prose read as a block with an empty info word
  let q : Fenced := ⟨[], p⟩
  have hsplit : c.text ++ '\n' :: (p ++ '\n' :: (fenceMark ++ s)) = beforeClose c ++ (q.text ++ s) := by
    simp [q, Fenced.text, beforeClose, fenceMark_eq]
  rw [hsplit] at ht ⊢
  have hfirst : ∀ fuel, 0 < fuel → ∃ m rest, findAllFrom .caselessLines shellFence fuel false 0 none
      (beforeClose c ++ (q.text ++ s)) = m :: rest ∧
        m.groupD (beforeClose c ++ (q.text ++ s)) 1 = String.ofList p := by
    intro fuel hfuel
    obtain ⟨fuel, rfl⟩ : ∃ f, fuel = f + 1 := ⟨fuel - 1, by omega⟩
    obtain ⟨prev', hs⟩ := findAllFrom_skip_foreign hc ⟨_, (q.text_append s).symm⟩ ht (fuel + 1) 0 none
    obtain ⟨prev'', hm⟩ := matchAt_shellBlock (b := q) ⟨by simp [shellInfos, q], hp⟩ s ht.of_append
      (0 + (beforeClose c).length) prev'
    refine ⟨_, _, by rw [hs, findAllFrom, searchFrom_of_matchAt hm], ?_⟩
    rw [Found.groupD_single, Nat.zero_add, drop_layout_body, List.take_left' rfl]
  obtain ⟨m, rest, hfind, hm⟩ := hfirst (2 * (beforeClose c ++ (q.text ++ s)).length + 2) (by omega)
  unfold shellBlocks findAll
  rw [String.toList_ofList]
  dsimp only
  rw [hfind, List.map_cons, List.head?_cons, hm]

/-- The first plausible package of the first shell block is the first package required. -/
theorem requiredPackages_head {phase b t : String} {bs : List String}
    (hb : shellBlocks phase = b :: bs)
    (ht : (((lines b).flatMap installedBy).filter plausiblePackage).head? = some t) :
    (requiredPackages phase).head? = some t := by
  obtain ⟨ts, hts⟩ := List.head?_eq_some_iff.1 ht
  unfold requiredPackages
  rw [keepFirst_eq_pushNewKey, hb, List.flatMap_cons, List.filter_append, hts, List.cons_append]
  dsimp only
  rw [List.foldl_cons]
  have hpush : pushNewKey id [] t = [t] := by simp [pushNewKey]
  rw [hpush, List.head?_take, if_neg (by decide), head?_foldl_pushNewKey]

/-- The first package required is reported missing when no file lists it and it is not one of
the words an install line is made of. -/
theorem missingFinding_mem_of_head {phase t : String} (ht : (requiredPackages phase).head? = some t)
    (hkw : lower t ∉ ["apt", "apt-get", "install", "pip"]) :
    missingFinding t ∈ missingDependencies phase [] := by
  unfold missingDependencies
  refine List.mem_filterMap.2 ⟨t, List.mem_of_mem_head? ht, ?_⟩
  simp [hkw, missingFinding]

/-- After a block the shell fence refuses, a package named on an install line of the prose
that follows is reported missing, though it stands in no shell block: the first plausible
package of the prose, when no file lists it and it is not one of the words of an install line. -/
theorem missingDependencies_reads_prose (c : Fenced) (hc : ForeignBlock c) (p s : List Char)
    (hp : ¬ ('\n' :: fenceMark) <:+: p)
    (ht : Ascii (c.text ++ '\n' :: (p ++ '\n' :: (fenceMark ++ s)))) {t : String}
    (hfirst : (((lines (String.ofList p)).flatMap installedBy).filter plausiblePackage).head? = some t)
    (hkw : lower t ∉ ["apt", "apt-get", "install", "pip"]) :
    missingFinding t ∈
      missingDependencies (String.ofList (c.text ++ '\n' :: (p ++ '\n' :: (fenceMark ++ s)))) [] := by
  obtain ⟨bs, hbs⟩ := List.head?_eq_some_iff.1 (shellBlocks_after_foreign c hc p s hp ht)
  exact missingFinding_mem_of_head (requiredPackages_head hbs hfirst) hkw

/-- A python block, then prose with an apt install line, then a bash block: the prose's package
is reported missing. -/
example :
    ForeignBlock ⟨"python".toList, "x = 1".toList⟩ ∧
      missingFinding "foo" ∈ missingDependencies
        "```python\nx = 1\n```\napt install foo\n```bash\necho hi\n```\n" [] := by
  let c : Fenced := ⟨"python".toList, "x = 1".toList⟩
  have hc : ForeignBlock c := ⟨⟨'p', "ython".toList, by decide +kernel, by decide⟩, by decide +kernel⟩
  have htext : String.ofList (c.text ++ '\n' :: ("apt install foo".toList ++ '\n' ::
      (fenceMark ++ "bash\necho hi\n```\n".toList))) =
      "```python\nx = 1\n```\napt install foo\n```bash\necho hi\n```\n" := by
    decide +kernel
  have h := missingDependencies_reads_prose c hc "apt install foo".toList "bash\necho hi\n```\n".toList
    (by decide +kernel) (by decide +kernel) (t := "foo") (by cbv) (by decide +kernel)
  rw [htext] at h
  exact ⟨hc, h⟩

end Taskflow.Review
