import Taskflow.Text.Fence
import Taskflow.Plan.Phase
import Taskflow.Proofs.Text.Frames
/-!
The fence pattern, run by hand.
-/

namespace Taskflow.Text

open Pattern

def fenceMark : List Char := "```".toList

theorem fenceMark_eq : fenceMark = ['`', '`', '`'] := rfl

theorem fenceMark_length : fenceMark.length = 3 := rfl

/-- A fenced block: the info word after the opening backticks and the body between the fences. -/
structure Fenced where
  info : List Char
  body : List Char

/-- A block as written: backticks, info word, line end, body, line end, backticks. -/
def Fenced.text (b : Fenced) : List Char :=
  fenceMark ++ b.info ++ '\n' :: (b.body ++ '\n' :: fenceMark)

/-- A block fits a fence whose info class is `ts`: its info word is of the class, and no line of
its body after the first opens with three backticks. -/
def Fenced.Fits (ts : List CharTest) (b : Fenced) : Prop :=
  (∀ c ∈ b.info, classAccepts .lines ts c = true) ∧ ¬ ('\n' :: fenceMark) <:+: b.body

instance (ts : List CharTest) (b : Fenced) : Decidable (b.Fits ts) :=
  inferInstanceAs (Decidable (_ ∧ _))

/-- An info class that refuses the line end and the backtick, as a fence's must for its blocks
to be found exactly. -/
structure InfoClass (ts : List CharTest) : Prop where
  line_end : classAccepts .lines ts '\n' = false
  backtick : classAccepts .lines ts '`' = false

theorem asciiInfo_class : InfoClass asciiInfo := ⟨by decide, by decide⟩

theorem wideInfo_class : InfoClass wideInfo := ⟨by decide, by decide⟩

theorem anyChar_oneChar : OneChar .lines anyChar (fun _ => true) :=
  ⟨fun g k pos prev d ds σ => by
    rw [anyChar, (OneChar.oneOf .lines _).cons]
    simp [classAccepts, MatchFlags.lines, CharTest.accepts],
   (OneChar.oneOf .lines _).nil⟩

section Info

/-! The info word: a greedy run of a class, stopped by the line end the class refuses. -/

variable {g : Cursor → Bool} {k : List Frame} {σ : List (Nat × Nat × Nat)}
  {ts : List CharTest} {e : Char}

/-- A literal outside the class fails on a character of the class. -/
theorem run_lit_of_class (he : classAccepts .lines ts e = false) {x : Char}
    (hx : classAccepts .lines ts x = true) (Q : Pattern) (xs : List Char) (pos : Nat)
    (prev : Option Char) :
    runFrames .lines g (.run (.cat (.lit e) Q) :: k) pos prev (x :: xs) σ = none := by
  have hne : e ≠ x := by
    rintro rfl
    simp [hx] at he
  rw [run_cat, (OneChar.lit _ _).refuse (litAccepts_of_ne rfl hne)]

/-- The greedy class star takes the whole word of the class before a literal outside it. -/
theorem run_star_class (he : classAccepts .lines ts e = false) (Q : Pattern) (info rest : List Char)
    (pos : Nat) (prev : Option Char) (hinfo : ∀ c ∈ info, classAccepts .lines ts c = true) :
    ∃ prev', runFrames .lines g (.run (.star (.oneOf ts) false) :: .run (.cat (.lit e) Q) :: k)
        pos prev (info ++ e :: rest) σ =
      runFrames .lines g (.run (.cat (.lit e) Q) :: k) (pos + info.length) prev' (e :: rest) σ := by
  refine (OneChar.oneOf .lines ts).star_word info (e :: rest) pos prev hinfo (by simpa using he)
    fun j hj prev' => ?_
  -- what follows the star opens with the line end, which no character of the word is
  rw [List.drop_eq_getElem_cons hj, List.cons_append]
  exact run_lit_of_class he (hinfo _ (List.getElem_mem hj)) Q _ _ _

/-- The optional info word takes nothing before a character the class refuses. -/
theorem run_info_refused {d : Char} (hd : classAccepts .lines ts d = false) (K : List Frame)
    (rest : List Char) (pos : Nat) (prev : Option Char) :
    runFrames .lines g (.run (opt (plus (.oneOf ts))) :: K) pos prev (d :: rest) σ =
      runFrames .lines g K pos prev (d :: rest) σ := by
  rw [opt, run_alt, plus, run_cat, (OneChar.oneOf _ _).refuse hd, Option.none_or, run_empty]

/-- The optional info word, then the line end: the whole word of the class is taken. -/
theorem run_info (he : classAccepts .lines ts e = false) (Q : Pattern) (info rest : List Char)
    (pos : Nat) (prev : Option Char) (hinfo : ∀ c ∈ info, classAccepts .lines ts c = true) :
    ∃ prev', runFrames .lines g (.run (opt (plus (.oneOf ts))) :: .run (.cat (.lit e) Q) :: k)
        pos prev (info ++ e :: rest) σ =
      runFrames .lines g (.run Q :: k) (pos + info.length + 1) prev' rest σ := by
  cases info with
  | nil =>
    refine ⟨some e, ?_⟩
    rw [List.nil_append, run_info_refused he, run_cat, (OneChar.lit _ _).take (litAccepts_self _ _)]
    rfl
  | cons x info =>
    have hx := hinfo x List.mem_cons_self
    obtain ⟨prev', h⟩ := run_star_class (g := g) (k := k) (σ := σ) he Q info rest
      (pos + 1) (some x) fun c hc => hinfo c (List.mem_cons_of_mem x hc)
    refine ⟨some e, ?_⟩
    rw [opt, run_alt, plus, run_cat, List.cons_append, (OneChar.oneOf _ _).take hx, h, run_empty,
      run_lit_of_class he hx, Option.or_none, run_cat, (OneChar.lit _ _).take (litAccepts_self _ _)]
    simp only [List.length_cons]
    congr 1
    omega

/-- After the opening backticks, a character outside the class that is no line end stops the
match. -/
theorem run_info_stuck {d : Char} (hd : classAccepts .lines ts d = false) (hed : e ≠ d)
    (Q : Pattern) (rest : List Char) (pos : Nat) (prev : Option Char) :
    runFrames .lines g (.run (opt (plus (.oneOf ts))) :: .run (.cat (.lit e) Q) :: k)
      pos prev (d :: rest) σ = none := by
  rw [run_info_refused hd, run_cat, (OneChar.lit _ _).refuse (litAccepts_of_ne rfl hed)]

end Info

section Body

/-! The body: a lazy run of any characters, stopped where the closing fence first fits. -/

/-- Inside a body with no line opening with three backticks, the closing fence does not yet
fit: where it would, the body would hold it. -/
theorem close_misses_body {body : List Char} (hbody : ¬ ('\n' :: fenceMark) <:+: body) {j : Nat}
    (hj : j < body.length) (rest : List Char) :
    ¬ ('\n' :: fenceMark) <+: body.drop j ++ ('\n' :: fenceMark ++ rest) := by
  intro hp
  have hinf : body.drop j <:+: body := (List.drop_suffix j body).isInfix
  have hne : body.drop j ≠ [] := by simpa using hj
  rw [fenceMark_eq] at hp hbody
  rcases hu : body.drop j with _ | ⟨a, _ | ⟨b, _ | ⟨c, _ | ⟨d, u⟩⟩⟩⟩
  · exact hne hu
  all_goals rw [hu] at hp hinf
  all_goals simp only [List.cons_append, List.nil_append, List.cons_prefix_cons] at hp
  · exact absurd hp.2.1 (by decide)
  · exact absurd hp.2.2.1 (by decide)
  · exact absurd hp.2.2.2.1 (by decide)
  · obtain ⟨rfl, rfl, rfl, rfl, -⟩ := hp
    exact hbody ((List.prefix_append _ u).isInfix.trans hinf)

end Body

section Block

variable {ts : List CharTest}

theorem fenceWith_eq (ts : List CharTest) :
    fenceWith ts = .cat (seq (fenceMark.map .lit)) (.cat (opt (plus (.oneOf ts)))
      (.cat (.lit '\n') (.cat (.group 1 (.star anyChar true)) (seq (('\n' :: fenceMark).map .lit))))) :=
  rfl

theorem Fenced.text_append (b : Fenced) (r : List Char) :
    b.text ++ r = fenceMark ++ (b.info ++ '\n' :: (b.body ++ ('\n' :: fenceMark ++ r))) := by
  simp [Fenced.text]

theorem Fenced.length_text (b : Fenced) : b.text.length = b.info.length + b.body.length + 8 := by
  simp [Fenced.text, fenceMark_eq]
  omega

/-- A block is matched whole where it starts, with its body as group 1, by a fence whose info
pattern takes the block's info word and the line end after it, whose body takes any character,
and whose closing line end and backticks are not spelled before the body ends. -/
theorem matchAt_fence_of {fl : MatchFlags} {I : Pattern} {b : Fenced} (rest : List Char)
    (hinfo : ∀ g k σ Q pos prev, ∃ prev', runFrames fl g (.run I :: .run (.cat (.lit '\n') Q) :: k)
        pos prev (b.info ++ '\n' :: (b.body ++ ('\n' :: fenceMark ++ rest))) σ =
      runFrames fl g (.run Q :: k) (pos + b.info.length + 1) prev'
        (b.body ++ ('\n' :: fenceMark ++ rest)) σ)
    (hany : OneChar fl anyChar fun _ => true)
    (hclose : ∀ j < b.body.length,
      spells fl ('\n' :: fenceMark) (b.body.drop j ++ ('\n' :: fenceMark ++ rest)) = false)
    (pos : Nat) (prev : Option Char) :
    ∃ prev', matchAt fl (.cat (seq (fenceMark.map .lit)) (.cat I (.cat (.lit '\n')
        (.cat (.group 1 (.star anyChar true)) (seq (('\n' :: fenceMark).map .lit)))))) false pos prev
        (b.text ++ rest) =
      some ⟨pos, pos + b.text.length,
        [(1, pos + b.info.length + 4, pos + b.info.length + 4 + b.body.length)], prev', rest⟩ := by
  let acc : Cursor → Bool := fun c => !(false && c.pos == pos)
  let close : List Frame := [.run (seq (('\n' :: fenceMark).map .lit))]
  -- the body starts after the backticks, the info word and the line end
  have ha : pos + fenceMark.length + b.info.length + 1 = pos + b.info.length + 4 := by
    rw [fenceMark_length]
    omega
  generalize pos + b.info.length + 4 = a at ha ⊢
  have hend : ∀ prev', ∃ prev'', runFrames fl acc (.close 1 a :: close) (a + b.body.length) prev'
      ('\n' :: fenceMark ++ rest) [] =
        some ⟨a + b.body.length + 4, prev'', rest, [(1, a, a + b.body.length)]⟩ := fun prev' => by
    obtain ⟨prev'', h⟩ := run_word (g := acc) (k := []) (σ := [(1, a, a + b.body.length)])
      ('\n' :: fenceMark) rest (a + b.body.length) prev'
    refine ⟨prev'', ?_⟩
    rw [run_close, h, run_nil]
    simp [acc, fenceMark_eq]
  have hfail : ∀ j < b.body.length, ∀ prev', runFrames fl acc (.close 1 a :: close) (a + j) prev'
      (b.body.drop j ++ ('\n' :: fenceMark ++ rest)) [] = none := fun j hj prev' => by
    rw [run_close]
    exact run_word_none _ _ _ _ (hclose j hj)
  obtain ⟨p1, h1⟩ := run_word (g := acc) (k := [.run (.cat I
    (.cat (.lit '\n') (.cat (.group 1 (.star anyChar true)) (seq (('\n' :: fenceMark).map .lit)))))])
    (σ := []) fenceMark (b.info ++ '\n' :: (b.body ++ ('\n' :: fenceMark ++ rest))) pos prev
  obtain ⟨p2, h2⟩ := hinfo acc [] []
    (.cat (.group 1 (.star anyChar true)) (seq (('\n' :: fenceMark).map .lit)))
    (pos + fenceMark.length) p1
  obtain ⟨p3, h3⟩ := hany.lazy_word (g := acc) (σ := []) (k := .close 1 a :: close)
    b.body ('\n' :: fenceMark ++ rest) a p2 (fun _ _ => rfl) hfail fun prev' => by
      obtain ⟨_, h⟩ := hend prev'
      rw [h]
      rfl
  obtain ⟨p4, h4⟩ := hend p3
  refine ⟨p4, ?_⟩
  rw [matchAt, run_cat, b.text_append, h1, run_cat, h2, run_cat, ha, run_group, h3, h4]
  simp only [Option.map_some, Fenced.length_text]
  rw [fenceMark_length] at ha
  congr 2
  omega

/-- A block that fits the fence is matched whole where it starts, with its body as group 1. -/
theorem matchAt_block (hnl : classAccepts .lines ts '\n' = false) {b : Fenced} (hb : b.Fits ts)
    (rest : List Char) (pos : Nat) (prev : Option Char) :
    ∃ prev', matchAt .lines (fenceWith ts) false pos prev (b.text ++ rest) =
      some ⟨pos, pos + b.text.length,
        [(1, pos + b.info.length + 4, pos + b.info.length + 4 + b.body.length)], prev', rest⟩ := by
  rw [fenceWith_eq]
  exact matchAt_fence_of rest (fun _ _ _ Q pos prev => run_info hnl Q b.info _ pos prev hb.1)
    anyChar_oneChar (fun j hj => spells_eq_false rfl (close_misses_body hb.2 hj rest)) pos prev

/-- No match starts at a text that does not begin with three backticks, nor at one that begins
with four when the info class refuses a backtick. -/
theorem matchAt_none_of_mark (hbt : classAccepts .lines ts '`' = false) {t : List Char}
    (ht : ¬ fenceMark <+: t ∨ ∃ t', t = fenceMark ++ '`' :: t') (pos : Nat) (prev : Option Char) :
    matchAt .lines (fenceWith ts) false pos prev t = none := by
  rw [matchAt, fenceWith_eq, run_cat]
  rcases ht with ht | ⟨t', rfl⟩
  · rw [run_word_none _ _ _ _ (spells_eq_false rfl ht)]
    rfl
  · obtain ⟨p, h⟩ := run_word (g := fun c => !(false && c.pos == pos)) (σ := [])
      (k := [.run (.cat (opt (plus (.oneOf ts))) (.cat (.lit '\n')
        (.cat (.group 1 (.star anyChar true)) (seq (('\n' :: fenceMark).map .lit)))))])
      fenceMark ('`' :: t') pos prev
    rw [h, run_cat, run_info_stuck hbt (by decide)]
    rfl

end Block

end Taskflow.Text
