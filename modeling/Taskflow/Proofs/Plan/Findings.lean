import Taskflow.Proofs.Plan.ConcernSearch
import Taskflow.Proofs.Text.Pieces
import Mathlib.Data.List.Basic
/-!
Findings read back from the text the stub writes.
-/

namespace Taskflow.Plan

open Text Pattern

section Strip

theorem PlainText.strip_eq {x : List Char} (hx : PlainText x) :
    strip (String.ofList x) = String.ofList x := by
  rw [strip, String.toList_ofList, dropFront, hx.dropWhile_blank, dropBack_eq_self hx.last]

end Strip

section Lines

def NoBreak (x : List Char) : Prop := ∀ c ∈ x, isLineBreak c = false

theorem linesList_go_cons {c : Char} (hc : isLineBreak c = false) (cs acc : List Char) :
    linesList.go (c :: cs) acc = linesList.go cs (c :: acc) := by
  have hr : c ≠ '\r' := by rintro rfl; exact absurd hc (by decide)
  rw [linesList.go.eq_4 _ _ _ fun _ h => absurd h hr, if_neg (by simp [hc])]

theorem linesList_go_newline (cs acc : List Char) :
    linesList.go ('\n' :: cs) acc = acc.reverse :: linesList.go cs [] := by
  rw [linesList.go.eq_4 _ _ _ fun _ h => absurd h (by decide), if_pos (by decide)]

theorem linesList_go_append {t : List Char} : ∀ {x : List Char} (acc : List Char), NoBreak x →
    linesList.go (x ++ t) acc = linesList.go t (x.reverse ++ acc)
  | [], _, _ => rfl
  | c :: x, acc, hx => by
    rw [List.cons_append, linesList_go_cons (hx c List.mem_cons_self),
      linesList_go_append (c :: acc) fun d hd => hx d (List.mem_cons_of_mem c hd)]
    simp

/-- Lines without line ends, none of them empty, each after a line end, read back as they are,
after a first line. -/
theorem linesList_linesText : ∀ (L : List (List Char)) (x : List Char), x ≠ [] → NoBreak x →
    (∀ l ∈ L, l ≠ [] ∧ NoBreak l) → linesList (x ++ linesText L) = x :: L
  | [], x, hne, hx, _ => by
    rw [linesList, linesText, List.flatMap_nil, List.append_nil, ← List.append_nil x,
      linesList_go_append [] hx, List.append_nil]
    rw [linesList.go.eq_2 _ fun h => hne (List.reverse_eq_nil_iff.1 h), List.reverse_reverse,
      List.append_nil]
  | l :: L, x, hne, hx, hL => by
    have hl := hL l List.mem_cons_self
    have hrest := linesList_linesText L l hl.1 hl.2 fun l' h => hL l' (List.mem_cons_of_mem l h)
    rw [linesList] at hrest ⊢
    rw [linesText, List.flatMap_cons, ← linesText, List.cons_append, linesList_go_append [] hx,
      linesList_go_newline,
      List.append_nil, List.reverse_reverse, hrest]

end Lines

section Evidence

def itemLine (l : List Char × List Char) : List Char := l.1 ++ '-' :: ' ' :: l.2

theorem evidenceText_eq (ls : List (List Char × List Char)) :
    evidenceText ls = linesText (ls.map itemLine) := by
  simp only [evidenceText, linesText, List.flatMap_map]
  rfl

def SolidEnd (x : List Char) : Prop := ∀ c ∈ x.getLast?, isBlank c = false

theorem SolidEnd.append (a : List Char) {b : List Char} (hb : b ≠ []) (h : SolidEnd b) :
    SolidEnd (a ++ b) := by
  cases hbl : b.getLast? with
  | none => exact absurd (List.getLast?_eq_none_iff.1 hbl) hb
  | some d =>
    intro c hc
    rw [List.getLast?_append, hbl, Option.some_or] at hc
    exact h c (hbl ▸ hc)

theorem SolidEnd.linesText {x : List Char} (hx : SolidEnd x) :
    ∀ {L : List (List Char)}, (∀ l ∈ L, l ≠ [] ∧ SolidEnd l) → SolidEnd (x ++ Plan.linesText L)
  | [], _ => by simpa [Plan.linesText] using hx
  | l :: L, hL => by
    have hl := hL l List.mem_cons_self
    have hshape : x ++ Plan.linesText (l :: L) = (x ++ '\n' :: l) ++ Plan.linesText L := by
      simp [Plan.linesText]
    rw [hshape]
    exact (SolidEnd.append x (List.cons_ne_nil _ _) (SolidEnd.append ['\n'] hl.1 hl.2)).linesText
      fun l' h => hL l' (List.mem_cons_of_mem l h)

theorem itemLine_solidEnd (l : List Char × List Char) (he : PlainText l.2) :
    SolidEnd (itemLine l) := by
  have h : itemLine l = (l.1 ++ ['-', ' ']) ++ l.2 := by simp [itemLine]
  rw [h]
  exact SolidEnd.append _ he.ne_nil he.last

theorem EvidencePlain.itemLine_plain {l : List Char × List Char} (hl : EvidencePlain l) :
    itemLine l ≠ [] ∧ SolidEnd (itemLine l) ∧ NoBreak (itemLine l) := by
  refine ⟨by simp [itemLine], itemLine_solidEnd l hl.item, ?_⟩
  intro c hc
  simp only [itemLine, List.mem_append, List.mem_cons] at hc
  rcases hc with hc | rfl | rfl | hc
  · rw [hl.indent c hc]
    decide
  · decide
  · decide
  · exact hl.item.no_break c hc

theorem EvidencePlain.unindented {e : List Char} (he : PlainText e) : EvidencePlain ([], e) :=
  ⟨fun _ h => absurd h List.not_mem_nil, he⟩

theorem strip_itemLine {l : List Char × List Char} (hl : EvidencePlain l) :
    strip (String.ofList (itemLine l)) = String.ofList (itemLine ([], l.2)) := by
  have hfront : dropFront isBlank (itemLine l) = itemLine ([], l.2) := by
    rw [dropFront, itemLine, List.dropWhile_append_of_pos fun c hc => by rw [hl.indent c hc]; decide,
      List.dropWhile_cons, if_neg (by decide)]
    rfl
  rw [strip, String.toList_ofList, hfront,
    dropBack_eq_self (itemLine_solidEnd ([], l.2) hl.item)]

/-- Each line of the block gives its item. -/
theorem evidenceItem_line {l : List Char × List Char} (hl : EvidencePlain l) :
    (if startsWith (strip (String.ofList (itemLine l))) "-" then
      some (strip (drop (strip (String.ofList (itemLine l))) 2)) else none) =
      some (String.ofList l.2) := by
  rw [strip_itemLine hl, if_pos (by simp [startsWith, itemLine]), drop, String.toList_ofList]
  simp only [itemLine, List.nil_append, List.drop_succ_cons, List.drop_zero]
  rw [hl.item.strip_eq]

/-- The items of an evidence block are read back as they are, in order. -/
theorem evidenceItems_evidenceText {ls : List (List Char × List Char)} (hne : ls ≠ [])
    (hls : ∀ l ∈ ls, EvidencePlain l) :
    evidenceItems (String.ofList (evidenceText ls)) = ls.map fun l => String.ofList l.2 := by
  obtain ⟨l, ls, rfl⟩ := List.exists_cons_of_ne_nil hne
  have hl := hls l List.mem_cons_self
  have hrest : ∀ l' ∈ ls.map itemLine, l' ≠ [] ∧ SolidEnd l' ∧ NoBreak l' := by
    intro l' h
    obtain ⟨m, hm, rfl⟩ := List.mem_map.1 h
    exact (hls m (List.mem_cons_of_mem l hm)).itemLine_plain
  -- the block's line end and the first indent go, and its last item ends it
  have hblock : strip (String.ofList (evidenceText (l :: ls))) =
      String.ofList (itemLine ([], l.2) ++ Plan.linesText (ls.map itemLine)) := by
    have hfront : dropFront isBlank (evidenceText (l :: ls)) =
        itemLine ([], l.2) ++ Plan.linesText (ls.map itemLine) := by
      rw [evidenceText_eq, List.map_cons, Plan.linesText, List.flatMap_cons, ← Plan.linesText,
        dropFront, List.cons_append, List.dropWhile_cons, if_pos (by decide), itemLine,
        List.append_assoc, List.dropWhile_append_of_pos fun c hc => by rw [hl.indent c hc]; decide,
        List.cons_append, List.dropWhile_cons, if_neg (by decide)]
      rfl
    have hend : SolidEnd (itemLine ([], l.2) ++ Plan.linesText (ls.map itemLine)) :=
      (itemLine_solidEnd ([], l.2) hl.item).linesText fun l' h => ⟨(hrest l' h).1,
        (hrest l' h).2.1⟩
    rw [strip, String.toList_ofList, hfront, dropBack_eq_self hend]
  have hlines := linesList_linesText (ls.map itemLine) (itemLine ([], l.2))
    (by simp [itemLine])
    (EvidencePlain.unindented hl.item).itemLine_plain.2.2
    fun l' h => ⟨(hrest l' h).1, (hrest l' h).2.2⟩
  have htail : ls.filterMap (fun m => if startsWith (strip (String.ofList (itemLine m))) "-" then
      some (strip (drop (strip (String.ofList (itemLine m))) 2)) else none) =
      ls.map fun m => String.ofList m.2 :=
    List.filterMap_eq_map_iff_forall_eq_some.2 fun m hm =>
      evidenceItem_line (hls m (List.mem_cons_of_mem l hm))
  have hhead := evidenceItem_line (EvidencePlain.unindented hl.item)
  rw [evidenceItems, hblock, lines, String.toList_ofList, hlines, List.map_cons, List.map_map,
    List.filterMap_cons, List.filterMap_map, hhead, List.map_cons]
  simp only [Function.comp_apply]
  rw [htail]

end Evidence

section Groups

/-- A finding's texts, and its similarity read as a number: what the parser makes of a match
of it. -/
def Finding.read (f : Finding) : Except Fault Concern := do
  let sim ← match readFloat (String.ofList f.similarity) with
    | .ok x => pure x
    | .error e => .error (.badValue e.message)
  pure ⟨String.ofList f.concern, String.ofList f.kind, sim, f.evidence.map String.ofList⟩

/-- What the parser makes of one match in the text `cs`. -/
def matchConcern (cs : List Char) (m : Found) : Except Fault Concern := do
  let sim ← match readFloat (m.groupD cs 3) with
    | .ok x => pure x
    | .error e => .error (.badValue e.message)
  pure ⟨strip (m.groupD cs 1), strip (m.groupD cs 2), sim, evidenceItems (m.groupD cs 4)⟩

theorem concernsIn_eq (text : String) :
    concernsIn text = (findAll .caseless concernPattern text.toList).mapM (matchConcern text.toList) :=
  rfl

theorem take_drop_of_drop {cs P X S : List Char} {pos a : Nat} (h : cs.drop pos = P ++ (X ++ S))
    (ha : pos + P.length = a) : (cs.drop a).take X.length = X := by
  rw [← ha, ← List.drop_drop, h, List.drop_left, List.take_left]

/-- The groups of a finding's match hold its concern, its type, its similarity and its
evidence block. -/
theorem Finding.groupD_spans (f : Finding) {cs E r : List Char} {pos : Nat}
    (hcs : cs.drop pos = f.head ++ f.fields ++ E ++ r) (stop : Nat) (prev : Option Char)
    (rest : List Char) :
    let m : Found := ⟨pos, stop, f.spans pos E.length, prev, rest⟩
    m.groupD cs 1 = String.ofList f.concern ∧ m.groupD cs 2 = String.ofList f.kind ∧
      m.groupD cs 3 = String.ofList f.similarity ∧ m.groupD cs 4 = String.ofList E := by
  intro m
  -- each group is cut at the length of what the finding writes before it
  have h1 : cs.drop pos = "- Concern: ".toList ++ (f.concern ++ (f.fields ++ E ++ r)) := by
    refine hcs.trans ?_
    unfold Finding.head
    simp only [List.append_assoc]
  have h2 : cs.drop pos = ("- Concern: ".toList ++ f.concern ++ "\n  Type: ".toList) ++ (f.kind ++
      ("\n  Similarity: ".toList ++ f.similarity ++ "\n  Evidence:".toList ++ E ++ r)) := by
    refine hcs.trans ?_
    unfold Finding.head Finding.fields
    simp only [List.append_assoc]
  have h3 : cs.drop pos = (f.head ++ "\n  Type: ".toList ++ f.kind ++ "\n  Similarity: ".toList) ++
      (f.similarity ++ ("\n  Evidence:".toList ++ E ++ r)) := by
    refine hcs.trans ?_
    unfold Finding.fields
    simp only [List.append_assoc]
  have h4 : cs.drop pos = (f.head ++ f.fields) ++ (E ++ r) := by
    rw [hcs, List.append_assoc]
  refine ⟨?_, ?_, ?_, ?_⟩
  all_goals simp only [m, Found.groupD, Found.group, Finding.spans, List.find?_cons, Nat.reduceEqDiff,
    decide_false, decide_true, Option.getD_some, Nat.add_sub_cancel_left]
  · rw [take_drop_of_drop h1 (by simp)]
  · rw [take_drop_of_drop h2 (by simp; omega)]
  · rw [take_drop_of_drop h3 (by unfold Finding.head; simp; omega)]
  · rw [take_drop_of_drop h4 (by rw [Finding.length_head_fields]; omega)]

/-- What the parser makes of a finding's match, with the evidence block it took. -/
theorem matchConcern_finding {f : Finding} (hf : f.Plain) {ls : List (List Char × List Char)}
    (hne : ls ≠ []) (hls : ∀ l ∈ ls, EvidencePlain l) {cs r : List Char} {pos : Nat}
    (hcs : cs.drop pos = f.head ++ f.fields ++ evidenceText ls ++ r) (stop : Nat)
    (prev : Option Char) (rest : List Char) :
    matchConcern cs ⟨pos, stop, f.spans pos (evidenceText ls).length, prev, rest⟩ =
      Finding.read { f with evidence := ls.map (·.2) } := by
  obtain ⟨g1, g2, g3, g4⟩ := f.groupD_spans hcs stop prev rest
  unfold matchConcern Finding.read
  rw [g1, g2, g3, g4, hf.concern.strip_eq, hf.kind.strip_eq, evidenceItems_evidenceText hne hls,
    List.map_map]
  rfl

end Groups

section Pairing

/-- A finding whose evidence took the next finding's `- Concern:` line as one more item. -/
def Finding.absorb (f g : Finding) : Finding :=
  { f with evidence := f.evidence ++ ["Concern: ".toList ++ g.concern] }

/-- The findings the parser reads from findings written one after another: a match takes a
finding with the `- Concern:` line of the next one, whose other lines the search then passes
over. -/
def pairUp : List Finding → List Finding
  | f :: g :: fs => f.absorb g :: pairUp fs
  | fs => fs

/-- Half the findings are read, rounded up. -/
theorem length_pairUp : ∀ fs : List Finding, (pairUp fs).length = (fs.length + 1) / 2
  | [] => rfl
  | [_] => by simp [pairUp]
  | _ :: _ :: fs => by
    rw [pairUp, List.length_cons, length_pairUp fs]
    simp only [List.length_cons]
    omega

theorem Finding.text_pair (f g : Finding) (t : List Char) :
    f.text ++ (g.text ++ t) = f.head ++ f.fields ++
      evidenceText (f.lines ++ [([], "Concern: ".toList ++ g.concern)]) ++
      (linesText g.restLines ++ '\n' :: t) := by
  have hg : evidenceText [([], "Concern: ".toList ++ g.concern)] = '\n' :: g.head := by
    rw [newline_head]
    exact List.append_nil _
  rw [Finding.linesText_restLines, evidenceText, List.flatMap_append, ← evidenceText, ← evidenceText,
    hg]
  unfold Finding.text
  simp only [List.append_assoc, List.cons_append, List.nil_append]

theorem concern_label : "Concern: ".toList = 'C' :: "oncern: ".toList := by decide

theorem dash_label : "- Concern: ".toList = '-' :: " Concern: ".toList := by decide

theorem PlainText.concern_line {x : List Char} (hx : PlainText x) :
    PlainText ("Concern: ".toList ++ x) where
  ascii := List.forall_mem_append.2 ⟨forall_mem_of_all (by decide), hx.ascii⟩
  no_break := List.forall_mem_append.2 ⟨forall_mem_of_all (by decide), hx.no_break⟩
  ne_nil := by simp
  head := by
    rw [concern_label, List.cons_append, List.head?_cons]
    intro c hc
    cases hc
    decide
  last := SolidEnd.append _ hx.ne_nil hx.last

theorem Finding.Plain.lines {f : Finding} (hf : f.Plain) : ∀ l ∈ f.lines, EvidencePlain l := by
  intro l hl
  obtain ⟨e, he, rfl⟩ := List.mem_map.1 hl
  exact ⟨show ∀ c ∈ "    ".toList, c = ' ' from forall_mem_of_all (by decide), (hf.evidence e he).1⟩

theorem Finding.Plain.lines_ne {f : Finding} (hf : f.Plain) : f.lines ≠ [] := by
  simpa [Finding.lines] using hf.evidence_ne

theorem forall_mem_evidenceLine {P : Char → Prop} {l : List Char × List Char} (hn : P '\n')
    (hd : P '-') (hb : P ' ') (h1 : ∀ c ∈ l.1, P c) (h2 : ∀ c ∈ l.2, P c) :
    ∀ c ∈ evidenceLine l, P c :=
  List.forall_mem_cons.2 ⟨hn, List.forall_mem_append.2 ⟨h1, List.forall_mem_cons.2 ⟨hd,
    List.forall_mem_cons.2 ⟨hb, h2⟩⟩⟩⟩

theorem Finding.Plain.ascii_text {f : Finding} (hf : f.Plain) : ∀ c ∈ f.text, c.toNat < 128 := by
  have hsim : ∀ c ∈ f.similarity, c.toNat < 128 := fun c hc =>
    (forall_mem_of_all (by decide) : ∀ c ∈ "0123456789.".toList, c.toNat < 128) c (hf.similarity c hc)
  have hev : ∀ c ∈ evidenceText f.lines, c.toNat < 128 := by
    intro c hc
    obtain ⟨l, hl, hc⟩ := List.mem_flatMap.1 hc
    obtain ⟨e, he, rfl⟩ := List.mem_map.1 hl
    exact forall_mem_evidenceLine (by decide) (by decide) (by decide)
      (forall_mem_of_all (by decide) : ∀ c ∈ "    ".toList, c.toNat < 128)
      (hf.evidence e he).1.ascii c hc
  unfold Finding.text Finding.head Finding.fields
  simp only [List.append_assoc, List.forall_mem_append]
  refine ⟨?_, hf.concern.ascii, ?_, hf.kind.ascii, ?_, hsim, ?_, hev, ?_⟩ <;>
    exact forall_mem_of_all (by decide)

theorem ascii_findingsText {fs : List Finding} (hfs : ∀ f ∈ fs, f.Plain) :
    ∀ c ∈ findingsText fs, c.toNat < 128 := by
  intro c hc
  obtain ⟨f, hf, hc⟩ := List.mem_flatMap.1 hc
  exact (hfs f hf).ascii_text c hc

theorem Finding.text_head (f : Finding) : ∃ t, f.text = '-' :: t := by
  unfold Finding.text Finding.head
  rw [dash_label]
  exact ⟨_, rfl⟩

theorem calm_findingsText : ∀ fs : List Finding, Calm (findingsText fs)
  | [] => fun _ h => absurd h (Option.not_mem_none _)
  | f :: fs => by
    obtain ⟨t, ht⟩ := f.text_head
    unfold findingsText
    rw [List.flatMap_cons, ht, List.cons_append]
    intro c hc
    rw [List.dropWhile_cons, if_neg (by decide)] at hc
    cases hc
    decide

end Pairing

section Search

theorem not_opens_nil : ¬ Opens [] := by
  rintro ⟨z, hz, -⟩
  cases hz

theorem findAllFrom_concern_nil (fuel pos : Nat) (prev : Option Char) :
    findAllFrom .caseless concernPattern fuel false pos prev [] = [] := by
  cases fuel with
  | zero => rfl
  | succ fuel =>
    rw [findAllFrom, searchFrom,
      matchAt_none_of_not_opens (fun _ h => absurd h List.not_mem_nil) not_opens_nil]

theorem type_label : "  Type: ".toList = "  ".toList ++ 'T' :: "ype: ".toList := by decide

theorem itemFails_restLines (g : Finding) (t : List Char) :
    ItemFails (linesText g.restLines ++ t) := by
  have h : linesText g.restLines ++ t = '\n' :: "  ".toList ++ 'T' :: ("ype: ".toList ++ g.kind ++
      (linesText g.restLines.tail ++ t)) := by
    unfold Finding.restLines
    rw [linesText, List.flatMap_cons, ← linesText, type_label]
    simp only [List.cons_append, List.append_assoc, List.tail_cons]
  rw [h]
  exact itemFails_line _ (forall_mem_of_all (by decide)) (by decide) (by decide) _

/-- After a match took a finding's `- Concern:` line, the search passes over the rest of that
finding. -/
theorem findAllFrom_skip_rest {g : Finding} (hg : g.Plain) {t : List Char} (ht : Calm t)
    (hascii : ∀ c ∈ linesText g.restLines ++ '\n' :: t, c.toNat < 128) (fuel pos : Nat)
    (prev : Option Char) :
    ∃ prev', findAllFrom .caseless concernPattern fuel false pos prev
        (linesText g.restLines ++ '\n' :: t) =
      findAllFrom .caseless concernPattern fuel false (pos + ((linesText g.restLines).length + 1))
        prev' t := by
  have hq : linesText g.restLines ++ '\n' :: t = (linesText g.restLines ++ ['\n']) ++ t := by simp
  rw [hq]
  have hlen : (linesText g.restLines ++ ['\n']).length = (linesText g.restLines).length + 1 := by simp
  rw [← hlen]
  refine findAllFrom_skip _ _ fuel _ t pos prev fun j hj prev' => ?_
  rw [hlen] at hj
  rw [← List.drop_append_of_le_length (by rw [hlen]; omega), ← hq]
  exact matchAt_none_of_not_opens (fun c hc => hascii c (List.mem_of_mem_drop hc))
    (not_opens_lines g.restLines hg.restLines ht j hj) _ _

theorem Finding.lines_snd (f : Finding) : f.lines.map (·.2) = f.evidence := by
  simp [Finding.lines, Function.comp_def]

theorem length_head_fields_pos (f : Finding) (E : List Char) (pos : Nat) :
    (pos == pos + (f.head ++ f.fields ++ E).length) = false := by
  rw [List.length_append, Finding.length_head_fields]
  simp

/-- From the start of findings written one after another, the matches read as the findings
paired up. -/
theorem findAllFrom_findings (cs : List Char) : ∀ (fs : List Finding), (∀ f ∈ fs, f.Plain) →
    ∀ (fuel pos : Nat) (prev : Option Char), (pairUp fs).length < fuel →
      cs.drop pos = findingsText fs →
      (findAllFrom .caseless concernPattern fuel false pos prev (findingsText fs)).mapM
          (matchConcern cs) = (pairUp fs).mapM Finding.read
  | [], _, fuel, pos, prev, _, _ => by
    rw [findingsText, List.flatMap_nil, findAllFrom_concern_nil]
    rfl
  | [f], hfs, fuel, pos, prev, hfuel, hcs => by
    have hf := hfs f List.mem_cons_self
    obtain ⟨fuel, rfl⟩ : ∃ n, fuel = n + 1 := ⟨fuel - 1, by simp [pairUp] at hfuel; omega⟩
    have htext : findingsText [f] = f.head ++ f.fields ++ evidenceText f.lines ++ ['\n'] := by
      rw [findingsText, List.flatMap_cons, List.flatMap_nil, List.append_nil]
      rfl
    rw [htext] at hcs ⊢
    -- the last finding is matched alone, and its final line end holds no match
    obtain ⟨p, hm⟩ := matchAt_finding hf hf.lines_ne hf.lines (by simp) itemFails_newline pos prev
    obtain ⟨p', hskip⟩ := findAllFrom_skip .caseless concernPattern fuel ['\n'] []
      (pos + (f.head ++ f.fields ++ evidenceText f.lines).length) p fun j hj prev' => by
        obtain rfl : j = 0 := by simpa using hj
        exact matchAt_none_of_not_opens (forall_mem_of_all (by decide))
          (by rintro ⟨z, hz, -⟩; cases hz) _ _
    rw [findAllFrom, searchFrom_of_matchAt hm]
    dsimp only
    rw [length_head_fields_pos, List.append_nil] at *
    have hpair : pairUp [f] = [f] := by simp [pairUp]
    rw [hskip, findAllFrom_concern_nil, List.mapM_cons, List.mapM_nil, hpair, List.mapM_cons,
      List.mapM_nil, matchConcern_finding hf hf.lines_ne hf.lines hcs, Finding.lines_snd]
  | f :: g :: rest, hfs, fuel, pos, prev, hfuel, hcs => by
    have hf := hfs f List.mem_cons_self
    have hg := hfs g (List.mem_cons_of_mem f List.mem_cons_self)
    have hrest : ∀ h ∈ rest, h.Plain := fun h hh =>
      hfs h (List.mem_cons_of_mem f (List.mem_cons_of_mem g hh))
    obtain ⟨fuel, rfl⟩ : ∃ n, fuel = n + 1 := ⟨fuel - 1, by simp [pairUp] at hfuel; omega⟩
    -- the match takes the first finding and the next one's concern line as evidence
    have hls : ∀ l ∈ f.lines ++ [([], "Concern: ".toList ++ g.concern)], EvidencePlain l :=
      List.forall_mem_append.2 ⟨hf.lines, List.forall_mem_singleton.2
        (EvidencePlain.unindented hg.concern.concern_line)⟩
    have hne : f.lines ++ [([], "Concern: ".toList ++ g.concern)] ≠ [] := by simp
    have htext := Finding.text_pair f g (findingsText rest)
    have hascii := ascii_findingsText hfs
    rw [findingsText, List.flatMap_cons, List.flatMap_cons, ← findingsText, htext] at hcs hascii ⊢
    obtain ⟨u, hu⟩ : ∃ u, linesText g.restLines ++ '\n' :: findingsText rest = '\n' :: u := ⟨_, rfl⟩
    obtain ⟨p, hm⟩ := matchAt_finding hf hne hls (by rw [hu]; simp)
      (itemFails_restLines g ('\n' :: findingsText rest)) pos prev
    -- the search then passes over the rest of the second finding
    obtain ⟨p', hskip⟩ := findAllFrom_skip_rest hg (calm_findingsText rest)
      (fun c hc => hascii c (List.mem_append_right _ hc)) fuel _ p
    have hcs' : cs.drop (pos + (f.head ++ f.fields ++
        evidenceText (f.lines ++ [([], "Concern: ".toList ++ g.concern)])).length +
        ((linesText g.restLines).length + 1)) = findingsText rest := by
      rw [Nat.add_assoc, ← List.drop_drop, hcs, ← List.drop_drop, List.drop_left,
        show linesText g.restLines ++ '\n' :: findingsText rest =
          (linesText g.restLines ++ ['\n']) ++ findingsText rest by simp,
        List.drop_left' (by simp)]
    have ih := findAllFrom_findings cs rest hrest fuel _ p' (by simp [pairUp] at hfuel; omega) hcs'
    rw [findAllFrom, searchFrom_of_matchAt hm]
    dsimp only
    rw [length_head_fields_pos, hskip, pairUp, List.mapM_cons, List.mapM_cons, ih,
      matchConcern_finding hf hne hls hcs, List.map_append, Finding.lines_snd]
    rfl

end Search

section Check

/-- A check that a text is plain, to run on given findings. -/
def plainCheck (x : List Char) : Bool :=
  !x.isEmpty && x.all (fun c => decide (c.toNat < 128) && !isLineBreak c) &&
    (x.take 1 ++ x.reverse.take 1).all fun c => !isBlank c

theorem mem_take_one_of_head {l : List Char} {c : Char} (h : c ∈ l.head?) : c ∈ l.take 1 := by
  cases l with
  | nil => cases h
  | cons d l =>
    rw [List.head?_cons, Option.mem_some_iff] at h
    simp [h]

theorem PlainText.of_check {x : List Char} (h : plainCheck x = true) : PlainText x := by
  simp only [plainCheck, Bool.and_eq_true, List.isEmpty_eq_false_iff,
    List.all_eq_true, decide_eq_true_eq, Bool.not_eq_eq_eq_not, Bool.not_true, List.mem_append] at h
  obtain ⟨⟨hne, hall⟩, hends⟩ := h
  refine ⟨fun c hc => (hall c hc).1, fun c hc => (hall c hc).2, hne, ?_, ?_⟩
  · intro c hc
    exact hends c (.inl (mem_take_one_of_head hc))
  · intro c hc
    rw [← List.head?_reverse] at hc
    exact hends c (.inr (mem_take_one_of_head hc))

/-- A check that a finding is one the parser can read back, to run on given findings. -/
def Finding.check (f : Finding) : Bool :=
  plainCheck f.concern && plainCheck f.kind && decide (Quiet f.kind) && !f.similarity.isEmpty &&
    f.similarity.all (fun c => decide (c ∈ "0123456789.".toList)) && !f.evidence.isEmpty &&
    f.evidence.all fun e => plainCheck e && decide (Quiet e)

theorem Finding.Plain.of_check {f : Finding} (h : f.check = true) : f.Plain := by
  simp only [Finding.check, Bool.and_eq_true, List.isEmpty_eq_false_iff, List.all_eq_true,
    decide_eq_true_eq, Bool.not_eq_eq_eq_not, Bool.not_true] at h
  obtain ⟨⟨⟨⟨⟨⟨hc, hk⟩, hq⟩, hs⟩, hd⟩, he⟩, hev⟩ := h
  exact ⟨.of_check hc, .of_check hk, hq, hs, hd, he, fun e h => ⟨.of_check (hev e h).1, (hev e h).2⟩⟩

end Check

section Read

theorem length_le_findingsText : ∀ fs : List Finding, fs.length ≤ (findingsText fs).length
  | [] => Nat.zero_le _
  | f :: fs => by
    obtain ⟨t, ht⟩ := f.text_head
    have := length_le_findingsText fs
    rw [findingsText, List.flatMap_cons, ← findingsText, ht]
    simp only [List.length_cons, List.cons_append, List.length_append]
    omega

/-- Findings written one after another, as the stub writes them, are read back in pairs: each
match takes a finding with the next one's `- Concern:` line as one more piece of evidence, and
the rest of that next finding is passed over. -/
theorem concernsIn_findingsText (fs : List Finding) (hfs : ∀ f ∈ fs, f.Plain) :
    concernsIn (String.ofList (findingsText fs)) = (pairUp fs).mapM Finding.read := by
  rw [concernsIn_eq, findAll, String.toList_ofList]
  refine findAllFrom_findings _ fs hfs _ 0 none ?_ rfl
  have h1 := length_pairUp fs
  have h2 := length_le_findingsText fs
  omega

/-- Two findings, the second a conflict: the parser returns one record, the first finding with
the second's concern line as a last piece of evidence. -/
theorem concernsIn_drops_second_finding :
    let a : Finding := ⟨"a".toList, "Overlap".toList, "0.6".toList, ["x.py:1-2 (f)".toList]⟩
    let b : Finding := ⟨"b".toList, "Conflict".toList, "0.9".toList, ["y.py:3-4 (g)".toList]⟩
    (concernsIn (String.ofList (findingsText [a, b]))).toOption.map
        (·.map fun c => (c.concern, c.kind, c.evidence)) =
      some [("a", "Overlap", ["x.py:1-2 (f)", "Concern: b"])] := by
  intro a b
  rw [concernsIn_findingsText [a, b] fun f hf => by
    simp only [List.mem_cons, List.not_mem_nil, or_false] at hf
    rcases hf with rfl | rfl <;> exact Finding.Plain.of_check (by decide +kernel)]
  decide +kernel

end Read

end Taskflow.Plan
