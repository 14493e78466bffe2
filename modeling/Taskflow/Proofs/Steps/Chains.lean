import Taskflow.Steps.Strategy
import Taskflow.Proofs.Text.Pieces
import Taskflow.Proofs.Text.Frames
import Mathlib.Data.List.Basic
/-!
How a chain of `if`, `else if` and `else` clauses in one sentence becomes steps.
-/

namespace Taskflow.Steps
open Text


def conditionalStep (label cond act : String) : String :=
  s!"[CONDITIONAL] {label} {cond}: {act}"

/-- The condition and the action of a clause's content: the text before and after its first
comma, or no condition when it has none. -/
def condAct (content : String) : String × String :=
  match splitOn content "," with
  | [c] => ("", strip c)
  | c :: rest => (strip c, strip (join "," rest))
  | [] => ("", strip content)

/-- A condition or an action of a chain: a trimmed phrase with no comma, semicolon or `else` in
it, that does not start with `if` or `else` in any case. -/
structure Phrase (p : String) : Prop where
  ne : p ≠ ""
  trimmed : strip p = p
  noComma : ',' ∉ p.toList
  noSemicolon : ';' ∉ p.toList
  noElse : has p "else" = false
  notIf : startsWith (lower p) "if" = false
  notElse : startsWith (lower p) "else" = false

instance (p : String) : Decidable (Phrase p) :=
  decidable_of_iff (p ≠ "" ∧ strip p = p ∧ ',' ∉ p.toList ∧ ';' ∉ p.toList ∧
      has p "else" = false ∧ startsWith (lower p) "if" = false ∧
      startsWith (lower p) "else" = false)
    ⟨fun ⟨a, b, c, d, e, f, g⟩ => ⟨a, b, c, d, e, f, g⟩,
      fun ⟨a, b, c, d, e, f, g⟩ => ⟨a, b, c, d, e, f, g⟩⟩

example : Phrase "send the mail" ∧ ¬ Phrase "Else retry" ∧ ¬ Phrase " padded" := by
  decide +kernel

theorem Phrase.trimmed_toList {p : String} (h : Phrase p) : Trimmed p.toList :=
  trimmed_of_strip h.trimmed

theorem Phrase.toList_ne_nil {p : String} (h : Phrase p) : p.toList ≠ [] := by
  simpa using h.ne

section Label

theorem clauseLabel_if (s : String) :
    clauseLabel ("if " ++ s) = some ("If", stripStart (" " ++ s)) := by
  unfold clauseLabel
  rw [lower_append_of_lowerCase (by simp) (by simp),
    if_pos (startsWith_append_of_startsWith (by decide) _)]
  simp [drop]

theorem clauseLabel_elseIf (s : String) :
    clauseLabel ("else if " ++ s) = some ("Else-if", stripStart (" " ++ s)) := by
  unfold clauseLabel
  rw [lower_append_of_lowerCase (by simp) (by simp),
    if_neg (by rw [startsWith_append_eq_false (by decide) (by decide)]; decide),
    if_pos (startsWith_append_of_startsWith (by decide) _)]
  simp [drop]

/-- An `else` clause is not taken for an `else if` one when its action does not start with
`if`. -/
theorem clauseLabel_else {s : String} (h : startsWith (lower s) "if" = false) :
    clauseLabel ("else " ++ s) = some ("Else", stripStart (" " ++ s)) := by
  have helseIf : "else if" = "else " ++ "if" := by decide
  unfold clauseLabel
  rw [lower_append_of_lowerCase (by simp) (by simp),
    if_neg (by rw [startsWith_append_eq_false (by decide) (by decide)]; decide),
    helseIf, startsWith_append_append, if_neg (by rw [h]; decide),
    if_pos (startsWith_append_of_startsWith (by decide) _)]
  simp [drop]

theorem clauseLabel_eq_none {s : String} (hif : startsWith (lower s) "if" = false)
    (helse : startsWith (lower s) "else" = false) : clauseLabel s = none := by
  have helseIf : startsWith (lower s) "else if" = false := by
    rw [← Bool.not_eq_true, startsWith_iff] at helse ⊢
    exact fun hp => helse ((show "else".toList <+: "else if".toList by decide).trans hp)
  unfold clauseLabel
  simp [hif, helseIf, helse]

end Label

section Clause

theorem strip_conditionalStep {a : String} (ha : Phrase a) (label cond : String) :
    strip (conditionalStep label cond a) = conditionalStep label cond a := by
  have hlist : (conditionalStep label cond a).toList =
      ("[CONDITIONAL] " ++ label ++ " " ++ cond ++ ": ").toList ++ a.toList :=
    String.toList_append
  have hhead : isBlank '[' = false := by decide
  apply strip_eq_self
  rw [hlist]
  exact Trimmed.prepend (by simp [hhead]) ha.trimmed_toList ha.toList_ne_nil

theorem condAct_pair {c a : String} (hc : Phrase c) (ha : Phrase a) :
    condAct (c ++ ", " ++ a) = (c, a) := by
  have hsplit : splitOn (c ++ ", " ++ a) "," = [c, " " ++ a] := by
    have h := splitList_pair (b := ' ' :: a.toList) hc.noComma (by simpa using ha.noComma)
    simp only [splitOn]
    simpa using congrArg (List.map String.ofList) h
  unfold condAct
  rw [hsplit]
  simp [join, hc.trimmed, strip_space_append, ha.trimmed]

theorem condAct_single {a : String} (ha : Phrase a) : condAct a = ("", a) := by
  have hsplit : splitOn a "," = [a] := by
    simpa [splitOn] using congrArg (List.map String.ofList) (splitList_single ha.noComma)
  unfold condAct
  rw [hsplit]
  simp [ha.trimmed]

/-- A trimmed clause with a label becomes the step of its condition and action. -/
theorem clauseStep_of_label {cl label content : String} (hs : strip cl = cl) (hne : cl ≠ "")
    (hl : clauseLabel cl = some (label, content)) :
    clauseStep cl = some (strip (conditionalStep label (condAct content).1 (condAct content).2)) := by
  unfold clauseStep
  simp only [hs, hl]
  simp [hne]
  rfl

/-- A clause made of a keyword and its content: the content's condition and action. -/
theorem clauseStep_keyword {kw label s cond act : String}
    (hkw : clauseLabel (kw ++ s) = some (label, stripStart (" " ++ s)))
    (hhead : ∀ x ∈ kw.toList.head?, isBlank x = false) (hs : Trimmed s.toList) (hs0 : s ≠ "")
    (hca : condAct s = (cond, act)) (ha : Phrase act) :
    clauseStep (kw ++ s) = some (conditionalStep label cond act) := by
  have htrim : Trimmed (kw ++ s).toList := by
    rw [String.toList_append]
    exact Trimmed.prepend hhead hs (by simpa using hs0)
  have hne : kw ++ s ≠ "" := by simp [hs0]
  rw [clauseStep_of_label (strip_eq_self htrim) hne hkw, stripStart_space_append,
    stripStart_eq_self hs, hca, strip_conditionalStep ha]

theorem trimmed_condAct_text {c a : String} (hc : Phrase c) (ha : Phrase a) :
    Trimmed (c ++ ", " ++ a).toList := by
  rw [String.toList_append]
  refine Trimmed.prepend (fun x hx => hc.trimmed_toList.1 x ?_) ha.trimmed_toList ha.toList_ne_nil
  rw [String.toList_append, List.head?_append] at hx
  cases h : c.toList.head? with
  | none => exact absurd (List.head?_eq_none_iff.1 h) hc.toList_ne_nil
  | some d => simpa [h] using hx

theorem clauseStep_if {c a : String} (hc : Phrase c) (ha : Phrase a) :
    clauseStep ("if " ++ c ++ ", " ++ a) = some (conditionalStep "If" c a) := by
  have hassoc : "if " ++ c ++ ", " ++ a = "if " ++ (c ++ ", " ++ a) := by
    simp only [String.append_assoc]
  rw [hassoc]
  exact clauseStep_keyword (clauseLabel_if _) (by simp [isBlank]) (trimmed_condAct_text hc ha)
    (by simp) (condAct_pair hc ha) ha

theorem clauseStep_elseIf {c a : String} (hc : Phrase c) (ha : Phrase a) :
    clauseStep ("else if " ++ c ++ ", " ++ a) = some (conditionalStep "Else-if" c a) := by
  have hassoc : "else if " ++ c ++ ", " ++ a = "else if " ++ (c ++ ", " ++ a) := by
    simp only [String.append_assoc]
  rw [hassoc]
  exact clauseStep_keyword (clauseLabel_elseIf _) (by simp [isBlank]) (trimmed_condAct_text hc ha)
    (by simp) (condAct_pair hc ha) ha

theorem clauseStep_else {a : String} (ha : Phrase a) :
    clauseStep ("else " ++ a) = some (conditionalStep "Else" "" a) :=
  clauseStep_keyword (clauseLabel_else ha.notIf) (by simp [isBlank]) ha.trimmed_toList ha.ne
    (condAct_single ha) ha

theorem clauseStep_phrase {a : String} (ha : Phrase a) : clauseStep a = none := by
  unfold clauseStep
  simp [ha.trimmed, ha.ne, clauseLabel_eq_none ha.notIf ha.notElse]

theorem clauseStep_space (cl : String) : clauseStep (" " ++ cl) = clauseStep cl := by
  unfold clauseStep
  rw [strip_space_append]

end Clause

section Separator

open Pattern

theorem commaElse_eq : commaElse = .cat (.lit ',') (.cat (.star blank false) (str "else")) := rfl

theorem commaElse_matches : MatchesExactly {} commaElse ", else".toList := by
  intro pos prev r
  have hsep : ", else".toList ++ r = ',' :: ' ' :: ("else".toList ++ r) := by simp
  have hsp : isBlank ' ' = true := by decide
  have he : ∀ d ∈ ("else".toList ++ r).head?, isBlank d = false := by
    intro d hd
    simp at hd
    subst hd
    decide
  obtain ⟨prev', hw⟩ := @run_word {} (fun c => !(false && c.pos == pos)) [] [] "else".toList r
    (pos + 1 + 1) (some ' ')
  refine ⟨[], prev', ?_⟩
  unfold matchAt
  rw [hsep, commaElse_eq, run_cat, (OneChar.lit _ _).take (litAccepts_self _ _), run_cat,
    blank_oneChar.star_cons hsp, blank_oneChar.star_rest he, str, hw, run_nil]
  simp

theorem matchAt_commaElse_nil (pos : Nat) (prev : Option Char) :
    matchAt {} commaElse false pos prev [] = none :=
  matchAt_cat_lit_nil {} ',' _ pos prev

/-- After a comma and a blank, text that starts with neither a blank nor `else` stops the
separator. -/
theorem matchAt_commaElse_comma {u : List Char} (hu : ∀ x ∈ u.head?, isBlank x = false)
    (h : ¬ "else".toList <+: u) (pos : Nat) (prev : Option Char) :
    matchAt {} commaElse false pos prev (',' :: ' ' :: u) = none := by
  have hsp : isBlank ' ' = true := by decide
  have hblank : ¬ "else".toList <+: ' ' :: u := by simp
  unfold matchAt
  rw [commaElse_eq, run_cat, (OneChar.lit _ _).take (litAccepts_self _ _), run_cat,
    blank_oneChar.star_cons hsp, blank_oneChar.star_rest hu, str,
    run_word_none _ _ _ _ (spells_eq_false rfl h), run_word_none _ _ _ _ (spells_eq_false rfl hblank)]
  rfl

theorem quietBefore_commaElse_of_not_mem {x : List Char} (hx : ',' ∉ x) (t : List Char) :
    QuietBefore {} commaElse x t :=
  quietBefore_cat_lit rfl hx t

theorem Phrase.not_else_prefix {a : String} (ha : Phrase a) {t : List Char}
    (ht : ∀ x ∈ t.head?, x = ',') : ¬ "else".toList <+: a.toList ++ t := by
  have hin : ¬ "else".toList <:+: a.toList := fun h => by simpa [ha.noElse] using has_iff.2 h
  refine not_prefix_append_of_head hin fun c hc => ?_
  rw [ht c hc]
  simp

theorem quietPiece_clause {x w : List Char} {a : String} (hx : x = w ++ ',' :: ' ' :: a.toList)
    (hw : ',' ∉ w) (ha : Phrase a) : QuietPiece {} commaElse ", else".toList x := by
  have hcomma : ',' ∉ ' ' :: a.toList := by simpa using ha.noComma
  have key : ∀ t, (∀ x ∈ t.head?, x = ',') →
      QuietBefore {} commaElse (w ++ ([','] ++ (' ' :: a.toList))) t := fun t ht =>
    (quietBefore_commaElse_of_not_mem hw _).append
      (QuietBefore.append (fun j hj pos prev => by
        obtain rfl : j = 0 := by simpa using hj
        have hu : ∀ x ∈ (a.toList ++ t).head?, isBlank x = false := by
          rw [List.head?_append_of_ne_nil _ ha.toList_ne_nil]
          exact ha.trimmed_toList.1
        simpa using matchAt_commaElse_comma hu (ha.not_else_prefix ht) pos prev)
        (quietBefore_commaElse_of_not_mem hcomma t))
  rw [hx]
  exact ⟨fun r => key _ (by simp), key [] (by simp)⟩

theorem quietPiece_of_not_mem {x : List Char} (hx : ',' ∉ x) :
    QuietPiece {} commaElse ", else".toList x :=
  ⟨fun _ => quietBefore_commaElse_of_not_mem hx _, quietBefore_commaElse_of_not_mem hx _⟩

end Separator

section Chain

/-- A chain of branches: the first condition and action, the `else if` branches, and the
action of the final `else`. -/
structure Chain where
  cond : String
  act : String
  middle : List (String × String)
  last : String

/-- The chain written out, with `sep` before every clause after the first. -/
def Chain.text (ch : Chain) (sep : String) : String :=
  "if " ++ ch.cond ++ ", " ++ ch.act ++
    String.join (ch.middle.map fun m => sep ++ " else if " ++ m.1 ++ ", " ++ m.2) ++
    sep ++ " else " ++ ch.last

/-- Every condition and action of the chain is a phrase. -/
structure Chain.WellFormed (ch : Chain) : Prop where
  cond : Phrase ch.cond
  act : Phrase ch.act
  middle : ∀ m ∈ ch.middle, Phrase m.1 ∧ Phrase m.2
  last : Phrase ch.last

instance (ch : Chain) : Decidable ch.WellFormed :=
  decidable_of_iff (Phrase ch.cond ∧ Phrase ch.act ∧ (∀ m ∈ ch.middle, Phrase m.1 ∧ Phrase m.2) ∧
      Phrase ch.last)
    ⟨fun ⟨a, b, c, d⟩ => ⟨a, b, c, d⟩, fun ⟨a, b, c, d⟩ => ⟨a, b, c, d⟩⟩

/-- Text of pieces, each after the first preceded by a separator, then the separator and a last
piece, as characters: each piece but the last followed by the separator. -/
theorem toList_sepJoin {α : Type} (sep z : String) (f : α → String) :
    ∀ (x : String) (ms : List α),
      (x ++ String.join (ms.map fun m => sep ++ f m) ++ sep ++ z).toList =
        ((x :: ms.map f).map String.toList).flatMap (· ++ sep.toList) ++ z.toList
  | x, [] => by simp
  | x, m :: ms => by
    have ih := toList_sepJoin sep z f (f m) ms
    simp only [String.toList_append, List.map_cons, List.flatMap_cons, String.join_cons] at ih ⊢
    simp only [String.toList_join, List.append_assoc] at ih ⊢
    rw [← ih]

theorem text_semicolon_toList (ch : Chain) :
    (ch.text ";").toList =
      ((("if " ++ ch.cond ++ ", " ++ ch.act) ::
          ch.middle.map fun m => " " ++ ("else if " ++ m.1 ++ ", " ++ m.2)).map String.toList).flatMap
        (· ++ [';']) ++ (" " ++ ("else " ++ ch.last)).toList := by
  have hm : (fun m : String × String => ";" ++ " else if " ++ m.1 ++ ", " ++ m.2) =
      fun m => ";" ++ (" " ++ ("else if " ++ m.1 ++ ", " ++ m.2)) := by
    funext m
    rw [← String.toList_inj]
    simp
  have hend : ∀ x : String, x ++ ";" ++ " else " ++ ch.last = x ++ ";" ++ (" " ++ ("else " ++ ch.last)) := by
    intro x
    rw [← String.toList_inj]
    simp
  rw [Chain.text, hm, hend, toList_sepJoin]
  simp

theorem text_comma_toList (ch : Chain) :
    (ch.text ",").toList =
      ((("if " ++ ch.cond ++ ", " ++ ch.act) ::
          ch.middle.map fun m => " " ++ ("if " ++ m.1 ++ ", " ++ m.2)).map String.toList).flatMap
        (· ++ ", else".toList) ++ (" " ++ ch.last).toList := by
  have hm : (fun m : String × String => "," ++ " else if " ++ m.1 ++ ", " ++ m.2) =
      fun m => ", else" ++ (" " ++ ("if " ++ m.1 ++ ", " ++ m.2)) := by
    funext m
    rw [← String.toList_inj]
    simp
  have hend : ∀ x : String, x ++ "," ++ " else " ++ ch.last = x ++ ", else" ++ (" " ++ ch.last) := by
    intro x
    rw [← String.toList_inj]
    simp
  rw [Chain.text, hm, hend, toList_sepJoin]

theorem startsWith_lower_if (s : String) : startsWith (lower ("if " ++ s)) "if" = true := by
  rw [lower_append_of_lowerCase (by simp) (by simp)]
  exact startsWith_append_of_startsWith (by decide) _

theorem startsWith_lower_text (ch : Chain) (sep : String) :
    startsWith (lower (ch.text sep)) "if" = true := by
  unfold Chain.text
  simp only [String.append_assoc]
  exact startsWith_lower_if _

/-- Written with `;`, the chain gives one step per branch, each under its own label. -/
theorem chainSteps_semicolon {ch : Chain} (h : ch.WellFormed) :
    chainSteps [ch.text ";"] = conditionalStep "If" ch.cond ch.act ::
      ch.middle.map (fun m => conditionalStep "Else-if" m.1 m.2) ++ [conditionalStep "Else" "" ch.last] := by
  have hsplit : splitOn (ch.text ";") ";" = ("if " ++ ch.cond ++ ", " ++ ch.act) ::
      ch.middle.map (fun m => " " ++ ("else if " ++ m.1 ++ ", " ++ m.2)) ++
        [" " ++ ("else " ++ ch.last)] := by
    have hsemi : ";".toList = [';'] := by decide
    unfold splitOn
    rw [hsemi, text_semicolon_toList, splitList_flatMap]
    · simp only [List.map_append, List.map_cons, List.map_map, Function.comp_def,
        String.ofList_toList, List.map_nil]
    · simpa using h.last.noSemicolon
    · intro y hy
      simp only [List.map_cons, List.mem_cons, List.mem_map] at hy
      rcases hy with rfl | ⟨_, ⟨m, hm, rfl⟩, rfl⟩
      · simpa using ⟨h.cond.noSemicolon, h.act.noSemicolon⟩
      · simpa using ⟨(h.middle m hm).1.noSemicolon, (h.middle m hm).2.noSemicolon⟩
  unfold chainSteps
  simp only [List.flatMap_cons, List.flatMap_nil, List.append_nil]
  rw [startsWith_lower_text, hsplit]
  simp only [Bool.not_true, Bool.false_eq_true, if_false, List.length_cons, List.length_append,
    List.length_map, List.length_nil]
  rw [if_neg (by omega), List.filterMap_append, List.filterMap_cons, clauseStep_if h.cond h.act,
    List.filterMap_map, List.filterMap_cons, clauseStep_space, clauseStep_else h.last]
  simp only [List.filterMap_nil, List.cons_append]
  congr 2
  apply List.filterMap_eq_map_iff_forall_eq_some.mpr
  intro m hm
  simp only [Function.comp_apply]
  rw [clauseStep_space, clauseStep_elseIf (h.middle m hm).1 (h.middle m hm).2]

theorem semicolon_not_mem_comma_text {ch : Chain} (h : ch.WellFormed) :
    ';' ∉ (ch.text ",").toList := by
  simp [Chain.text, h.cond.noSemicolon, h.act.noSemicolon, h.last.noSemicolon]
  intro a b hm
  exact ⟨(h.middle _ hm).1.noSemicolon, (h.middle _ hm).2.noSemicolon⟩

/-- Written with commas, the chain is split where `, else` stands, which takes the keyword
away: each `else if` branch reads as an `if` branch, and the final `else` branch, left with no
keyword, gives no step. -/
theorem chainSteps_comma {ch : Chain} (h : ch.WellFormed) :
    chainSteps [ch.text ","] = conditionalStep "If" ch.cond ch.act ::
      ch.middle.map (fun m => conditionalStep "If" m.1 m.2) := by
  have hsplit1 : splitOn (ch.text ",") ";" = [ch.text ","] := by
    have hsemi : ";".toList = [';'] := by decide
    unfold splitOn
    rw [hsemi, splitList_single (semicolon_not_mem_comma_text h)]
    simp
  have hys : ∀ y ∈ (("if " ++ ch.cond ++ ", " ++ ch.act) ::
      ch.middle.map fun m => " " ++ ("if " ++ m.1 ++ ", " ++ m.2)).map String.toList,
      QuietPiece {} commaElse ", else".toList y := by
    intro y hy
    simp only [List.map_cons, List.mem_cons, List.map_map, List.mem_map] at hy
    rcases hy with rfl | ⟨m, hm, rfl⟩
    · exact quietPiece_clause (w := ("if " ++ ch.cond).toList) (by simp) (by simpa using h.cond.noComma) h.act
    · exact quietPiece_clause (w := (" " ++ ("if " ++ m.1)).toList) (by simp)
        (by simpa using (h.middle m hm).1.noComma) (h.middle m hm).2
  have hsplit : Pattern.split {} commaElse (ch.text ",") = ("if " ++ ch.cond ++ ", " ++ ch.act) ::
      ch.middle.map (fun m => " " ++ ("if " ++ m.1 ++ ", " ++ m.2)) ++ [" " ++ ch.last] := by
    have hp := split_pieces (by simp) commaElse_matches matchAt_commaElse_nil hys
      (quietPiece_of_not_mem (x := (" " ++ ch.last).toList) (by simpa using h.last.noComma))
    rw [← text_comma_toList, String.ofList_toList] at hp
    rw [hp]
    simp only [List.map_cons, List.map_map, Function.comp_def, String.ofList_toList]
  unfold chainSteps
  simp only [List.flatMap_cons, List.flatMap_nil, List.append_nil]
  rw [startsWith_lower_text, hsplit1]
  simp only [Bool.not_true, Bool.false_eq_true, if_false, List.length_singleton, if_true]
  rw [hsplit, List.filterMap_append, List.filterMap_cons, clauseStep_if h.cond h.act,
    List.filterMap_map, List.filterMap_cons, clauseStep_space, clauseStep_phrase h.last]
  simp only [List.filterMap_nil, List.append_nil]
  congr 1
  apply List.filterMap_eq_map_iff_forall_eq_some.mpr
  intro m hm
  simp only [Function.comp_apply]
  rw [clauseStep_space, clauseStep_if (h.middle m hm).1 (h.middle m hm).2]

/-- The two spellings of a chain part ways: with `;` each branch is a step under its own label,
with commas every branch is labelled `If` and the final `else` gives no step. -/
theorem chainSteps_spellings {ch : Chain} (h : ch.WellFormed) :
    chainSteps [ch.text ";"] = conditionalStep "If" ch.cond ch.act ::
        ch.middle.map (fun m => conditionalStep "Else-if" m.1 m.2) ++
          [conditionalStep "Else" "" ch.last] ∧
      chainSteps [ch.text ","] = conditionalStep "If" ch.cond ch.act ::
        ch.middle.map (fun m => conditionalStep "If" m.1 m.2) :=
  ⟨chainSteps_semicolon h, chainSteps_comma h⟩

theorem chainSteps_spellings_abcde :
    Chain.WellFormed ⟨"a", "b", [("c", "d")], "e"⟩ ∧
      (chainSteps [Chain.text ⟨"a", "b", [("c", "d")], "e"⟩ ";"] =
          [conditionalStep "If" "a" "b", conditionalStep "Else-if" "c" "d",
            conditionalStep "Else" "" "e"] ∧
        chainSteps [Chain.text ⟨"a", "b", [("c", "d")], "e"⟩ ","] =
          [conditionalStep "If" "a" "b", conditionalStep "If" "c" "d"]) :=
  ⟨by decide +kernel, chainSteps_spellings (by decide +kernel)⟩

end Chain

end Taskflow.Steps
