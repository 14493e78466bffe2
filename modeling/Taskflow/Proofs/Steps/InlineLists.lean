import Taskflow.Steps.Strategy
import Taskflow.Proofs.Text.Pieces
import Taskflow.Proofs.Text.Frames
import Mathlib.Data.List.Basic
/-!
Inline lists: what the inline-list strategy reads from a text.
-/

namespace Taskflow.Steps

open Text Pattern

/-! ## Keeping items -/

section Keep

/-- One item read into the steps: kept, first letter raised, unless it is empty or already among
the steps as it stands. -/
def pushRaised (steps : List String) (t : String) : List String :=
  if t.isEmpty ∨ steps.contains t then steps else steps ++ [upperFirst t]

def RaisedApart (ts : List String) : Prop := ts.Pairwise fun a b => b ≠ upperFirst a

instance (ts : List String) : Decidable (RaisedApart ts) :=
  inferInstanceAs (Decidable (List.Pairwise _ _))

theorem pushRaised_of_new {steps : List String} {t : String} (ht : t ≠ "") (hnew : t ∉ steps) :
    pushRaised steps t = steps ++ [upperFirst t] := by
  simp [pushRaised, ht, hnew]

/-- Nonempty items, none an earlier one raised, are all kept, raised, after steps that hold none
of them. -/
theorem foldl_pushRaised {ts : List String} (hne : ∀ t ∈ ts, t ≠ "") (hts : RaisedApart ts) :
    ∀ acc : List String, (∀ t ∈ ts, t ∉ acc) →
      ts.foldl pushRaised acc = acc ++ ts.map upperFirst := by
  induction ts with
  | nil => simp
  | cons t ts ih =>
    intro acc hacc
    obtain ⟨hfirst, hrest⟩ := List.pairwise_cons.1 hts
    -- the raised first item is new to every later one
    have hacc' : ∀ u ∈ ts, u ∉ acc ++ [upperFirst t] := fun u hu h => by
      rcases List.mem_append.1 h with h | h
      · exact hacc u (List.mem_cons_of_mem t hu) h
      · exact hfirst u hu (List.mem_singleton.1 h)
    rw [List.foldl_cons, pushRaised_of_new (hne t List.mem_cons_self) (hacc t List.mem_cons_self),
      ih (fun u hu => hne u (List.mem_cons_of_mem t hu)) hrest _ hacc']
    simp

end Keep

/-! ## The two readings -/

section Readings

/-- The items of the dash searches, each stripped and cut before trailing commas and semicolons,
read into the steps. -/
def dashSteps (cs : List Char) : List String :=
  ((findAll {} dashItem cs).map fun m => stripEndOf [',', ';'] (strip (m.groupD cs 1))).foldl
    pushRaised []

/-- One part between semicolons read into the steps: stripped, it must open with a letter and
`)`, and what follows is the item. -/
def letterStep (steps : List String) (part : String) : List String :=
  match matchStart .caseless letterLead (strip part).toList with
  | some m => pushRaised steps (stripEndOf [','] (m.groupD (strip part).toList 1))
  | none => steps

/-- The dash items come first; only a text with a semicolon is read for letter items too. -/
theorem inlineSteps_eq (ss : List String) :
    inlineSteps ss =
      if !(join " " ss).contains ';' then dashSteps (join " " ss).toList
      else (splitOn (join " " ss) ";").foldl letterStep (dashSteps (join " " ss).toList) := by
  unfold inlineSteps dashSteps
  rw [List.foldl_map]
  rfl

theorem letterStep_space (steps : List String) (part : String) :
    letterStep steps (" " ++ part) = letterStep steps part := by
  unfold letterStep
  rw [strip_space_append]

end Readings

/-! ## Dash items -/

section Dash

/-- A line end, a comma or a semicolon: a character that ends a dash item. -/
def itemEnd (c : Char) : Bool := c = '\n' ∨ c = ',' ∨ c = ';'

theorem classAccepts_itemEnd (d : Char) :
    classAccepts {} ("\n,;".toList.map .single) d = itemEnd d := by
  simp [classAccepts, CharTest.accepts, itemEnd, eq_comm]

theorem itemChar_oneChar : OneChar {} (notChars "\n,;") (fun d => !itemEnd d) := by
  have h := OneChar.noneOf {} ("\n,;".toList.map .single)
  rwa [show classAccepts {} ("\n,;".toList.map .single) = itemEnd from
    funext classAccepts_itemEnd] at h

theorem dashItem_eq :
    dashItem = .cat (.lit '-') (.cat (.star blank false) (.group 1 (plus (notChars "\n,;")))) :=
  rfl

/-- A dash item where its dash stands, when the text after the item opens with a character that
ends it, or ends: the blanks after the dash are skipped and the item is group 1. -/
theorem matchAt_dash {gap item r : List Char} (hgap : ∀ c ∈ gap, isBlank c = true)
    (hne : item ≠ []) (hhead : ∀ c ∈ item.head?, isBlank c = false)
    (hitem : ∀ c ∈ item, itemEnd c = false) (hr : ∀ c ∈ r.head?, itemEnd c = true) (pos : Nat)
    (prev : Option Char) :
    ∃ prev', matchAt {} dashItem false pos prev ('-' :: (gap ++ (item ++ r))) =
      some ⟨pos, pos + 1 + gap.length + item.length,
        [(1, pos + 1 + gap.length, pos + 1 + gap.length + item.length)], prev', r⟩ := by
  let acc : Cursor → Bool := fun c => !(false && c.pos == pos)
  have hacc : ∀ c, acc c = true := fun _ => rfl
  have hgroup : ∀ prev', ∃ p, runFrames {} acc [.run (.group 1 (plus (notChars "\n,;")))]
      (pos + 1 + gap.length) prev' (item ++ r) [] =
        some ⟨pos + 1 + gap.length + item.length, p, r,
          [(1, pos + 1 + gap.length, pos + 1 + gap.length + item.length)]⟩ := fun prev' =>
    itemChar_oneChar.run_group_plus hacc hne (fun c hc => by simp [hitem c hc])
      (fun c hc => by simp [hr c hc]) 1 _ prev'
  have hfirst : ∀ c ∈ (item ++ r).head?, isBlank c = false := by
    rwa [List.head?_append_of_ne_nil _ hne]
  obtain ⟨p1, h1⟩ := blank_oneChar.star_word_of_isSome (g := acc) (σ := [])
    (k := [.run (.group 1 (plus (notChars "\n,;")))]) gap (item ++ r) (pos + 1) (some '-') hgap
    hfirst fun prev' => by
      obtain ⟨_, h⟩ := hgroup prev'
      rw [h]
      rfl
  obtain ⟨p2, h2⟩ := hgroup p1
  refine ⟨p2, ?_⟩
  rw [matchAt, dashItem_eq, run_cat, (OneChar.lit _ _).take (litAccepts_self _ _), run_cat, h1, h2]
  rfl

theorem matchAt_dash_nil (pos : Nat) (prev : Option Char) :
    matchAt {} dashItem false pos prev [] = none :=
  matchAt_cat_lit_nil {} '-' _ pos prev

theorem quietBefore_dash {x : List Char} (hx : '-' ∉ x) (t : List Char) :
    QuietBefore {} dashItem x t :=
  quietBefore_cat_lit rfl hx t

theorem findAllFrom_no_dash {t : List Char} (ht : '-' ∉ t) (fuel pos : Nat) (prev : Option Char) :
    findAllFrom {} dashItem fuel false pos prev t = [] := by
  cases fuel with
  | zero => rfl
  | succ fuel => rw [findAllFrom, searchFrom_none (quietBefore_dash ht []) matchAt_dash_nil]

/-- A dash item as it stands in a text: the blanks after the dash, the item, and the text after
the item up to the next dash. -/
structure DashPiece where
  gap : List Char
  item : List Char
  prose : List Char

/-- The piece as written: a dash, the blanks, the item and the text after it. -/
def DashPiece.text (d : DashPiece) : List Char := '-' :: (d.gap ++ (d.item ++ d.prose))

/-- The piece reads back as its item: blanks after the dash, then an item that opens with no
blank and holds no character that ends an item, then text without a dash that opens with such a
character. -/
structure DashPiece.Fits (d : DashPiece) : Prop where
  gap : ∀ c ∈ d.gap, isBlank c = true
  item_ne : d.item ≠ []
  item_head : ∀ c ∈ d.item.head?, isBlank c = false
  item : ∀ c ∈ d.item, itemEnd c = false
  prose_head : ∀ c ∈ d.prose.head?, itemEnd c = true
  prose : '-' ∉ d.prose

def DashPiece.step (d : DashPiece) : String := strip (String.ofList d.item)

theorem DashPiece.text_append (d : DashPiece) (r : List Char) :
    d.text ++ r = '-' :: (d.gap ++ (d.item ++ (d.prose ++ r))) := by
  simp [DashPiece.text]

theorem DashPiece.length_text (d : DashPiece) :
    d.text.length = 1 + d.gap.length + d.item.length + d.prose.length := by
  simp [DashPiece.text]
  omega

theorem length_le_flatMap_text (ds : List DashPiece) :
    ds.length ≤ (ds.flatMap DashPiece.text).length := by
  induction ds with
  | nil => simp
  | cons d ds ih =>
    simp only [List.flatMap_cons, List.length_append, List.length_cons, DashPiece.length_text]
    omega

theorem drop_dashPiece_item (lead : List Char) (d : DashPiece) (r : List Char) :
    (lead ++ (d.text ++ r)).drop (lead.length + 1 + d.gap.length) = d.item ++ (d.prose ++ r) := by
  have h : lead ++ (d.text ++ r) = (lead ++ '-' :: d.gap) ++ (d.item ++ (d.prose ++ r)) := by
    simp [DashPiece.text_append]
  rw [h, List.drop_left' (by simp; omega)]

theorem drop_dashPiece_prose (lead : List Char) (d : DashPiece) (r : List Char) :
    (lead ++ (d.text ++ r)).drop (lead.length + 1 + d.gap.length + d.item.length) =
      d.prose ++ r := by
  rw [← List.drop_drop, drop_dashPiece_item, List.drop_left' rfl]

/-- What follows a piece's item opens with a character that ends the item, or the text ends:
a piece whose prose is empty is the last. -/
theorem follows_item {d : DashPiece} {ds : List DashPiece} (hd : d.Fits)
    (hlast : ∀ e ∈ (d :: ds).dropLast, e.prose ≠ []) :
    ∀ c ∈ (d.prose ++ ds.flatMap DashPiece.text).head?, itemEnd c = true := by
  cases hp : d.prose with
  | cons c cs => simpa [hp] using hd.prose_head
  | nil =>
    cases ds with
    | nil => simp
    | cons e es => exact absurd hp (hlast d (by simp [List.dropLast_cons_cons]))

/-- From the start of dash-free prose followed by dash pieces, the searches find the pieces'
items, in order. -/
theorem findAllFrom_dashPieces (cs : List Char) (ds : List DashPiece) (lead : List Char)
    (fuel pos : Nat) (prev : Option Char) (hlead : '-' ∉ lead) (hds : ∀ d ∈ ds, d.Fits)
    (hlast : ∀ d ∈ ds.dropLast, d.prose ≠ []) (hfuel : ds.length < fuel)
    (hcs : cs.drop pos = lead ++ ds.flatMap DashPiece.text) :
    (findAllFrom {} dashItem fuel false pos prev (lead ++ ds.flatMap DashPiece.text)).map
      (·.groupD cs 1) = ds.map fun d => String.ofList d.item := by
  -- each round passes over the prose to the next dash, and the prose after that piece's item
  -- leads the rest
  induction ds generalizing lead fuel pos prev with
  | nil => simp [findAllFrom_no_dash hlead]
  | cons d ds ih =>
    obtain ⟨fuel, rfl⟩ : ∃ f, fuel = f + 1 := ⟨fuel - 1, by simp at hfuel; omega⟩
    have hd := hds d List.mem_cons_self
    rw [List.flatMap_cons] at hcs ⊢
    obtain ⟨p1, hskip⟩ := searchFrom_skip {} dashItem lead (d.text ++ ds.flatMap DashPiece.text)
      pos prev fun j hj p => quietBefore_dash hlead _ j hj _ p
    obtain ⟨p2, hm⟩ := matchAt_dash hd.gap hd.item_ne hd.item_head hd.item
      (follows_item hd hlast) (pos + lead.length) p1
    have hdrop : ∀ n, cs.drop (pos + n) = (lead ++ (d.text ++ ds.flatMap DashPiece.text)).drop n :=
      fun n => by rw [← List.drop_drop, hcs]
    have hitem : cs.drop (pos + lead.length + 1 + d.gap.length) =
        d.item ++ (d.prose ++ ds.flatMap DashPiece.text) := by
      simpa only [← Nat.add_assoc, drop_dashPiece_item] using hdrop (lead.length + 1 + d.gap.length)
    have hprose : cs.drop (pos + lead.length + 1 + d.gap.length + d.item.length) =
        d.prose ++ ds.flatMap DashPiece.text := by
      simpa only [← Nat.add_assoc, drop_dashPiece_prose] using
        hdrop (lead.length + 1 + d.gap.length + d.item.length)
    have hlast' : ∀ e ∈ ds.dropLast, e.prose ≠ [] := fun e he => by
      cases ds with
      | nil => simp at he
      | cons d' ds' => exact hlast e (by rw [List.dropLast_cons_cons]; exact List.mem_cons_of_mem _ he)
    have htail := ih d.prose fuel _ p2 hd.prose (fun e he => hds e (List.mem_cons_of_mem _ he))
      hlast' (by simpa using hfuel) hprose
    have hstep : (pos + lead.length == pos + lead.length + 1 + d.gap.length + d.item.length) =
        false := by simp; omega
    rw [DashPiece.text_append] at hskip
    rw [DashPiece.text_append, findAllFrom, hskip, searchFrom_of_matchAt hm]
    simp only [List.map_cons, Found.groupD_single, hitem, List.take_left', hstep, htail]

/-- The dash searches over a whole text of dash-free prose and dash pieces. -/
theorem findAll_dashPieces {lead : List Char} {ds : List DashPiece} (hlead : '-' ∉ lead)
    (hds : ∀ d ∈ ds, d.Fits) (hlast : ∀ d ∈ ds.dropLast, d.prose ≠ []) :
    (findAll {} dashItem (lead ++ ds.flatMap DashPiece.text)).map
      (·.groupD (lead ++ ds.flatMap DashPiece.text) 1) = ds.map fun d => String.ofList d.item := by
  have hlen : ds.length < 2 * (lead ++ ds.flatMap DashPiece.text).length + 2 := by
    have := length_le_flatMap_text ds
    simp only [List.length_append]
    omega
  rw [findAll]
  exact findAllFrom_dashPieces _ ds lead _ 0 none hlead hds hlast hlen List.drop_zero

theorem DashPiece.Fits.stripEndOf_step {d : DashPiece} (hd : d.Fits) :
    stripEndOf [',', ';'] d.step = d.step := by
  refine stripEndOf_eq_self fun c hc => ?_
  have hmem : c ∈ d.item := by
    have h := (strip_contiguous (String.ofList d.item)).subset (List.mem_of_getLast? hc)
    rwa [String.toList_ofList] at h
  have hc' : ¬ (c = '\n' ∨ c = ',' ∨ c = ';') := by simpa [itemEnd] using hd.item c hmem
  simp only [List.mem_cons, List.not_mem_nil, or_false]
  exact fun h => hc' (Or.inr h)

theorem DashPiece.Fits.step_ne {d : DashPiece} (hd : d.Fits) : d.step ≠ "" := by
  obtain ⟨c, cs, hc⟩ := List.exists_cons_of_ne_nil hd.item_ne
  have hcb := hd.item_head c (by simp [hc])
  rw [DashPiece.step, hc]
  exact strip_cons_ne_empty hcb cs

/-- Without a semicolon, a text of dash-free prose and dash pieces gives the pieces' items,
stripped and first letter raised, when none is an earlier one raised. -/
theorem inlineSteps_dashPieces {ss : List String} {lead : List Char} {ds : List DashPiece}
    (hss : (join " " ss).toList = lead ++ ds.flatMap DashPiece.text)
    (hsemi : ';' ∉ (join " " ss).toList) (hlead : '-' ∉ lead) (hds : ∀ d ∈ ds, d.Fits)
    (hlast : ∀ d ∈ ds.dropLast, d.prose ≠ []) (hapart : RaisedApart (ds.map DashPiece.step)) :
    inlineSteps ss = ds.map fun d => upperFirst d.step := by
  have hsteps : ((findAll {} dashItem (join " " ss).toList).map fun m =>
      stripEndOf [',', ';'] (strip (m.groupD (join " " ss).toList 1))) = ds.map DashPiece.step := by
    have h := congrArg (List.map fun t => stripEndOf [',', ';'] (strip t))
      (findAll_dashPieces hlead hds hlast)
    simp only [List.map_map, Function.comp_def, ← hss] at h
    rw [h]
    exact List.map_congr_left fun d hd => (hds d hd).stripEndOf_step
  have hne : ∀ t ∈ ds.map DashPiece.step, t ≠ "" := by
    simp only [List.mem_map]
    rintro t ⟨d, hd, rfl⟩
    exact (hds d hd).step_ne
  have hc : (join " " ss).contains ';' = false := by simpa using hsemi
  rw [inlineSteps_eq, hc, Bool.not_false, if_pos rfl, dashSteps, hsteps,
    foldl_pushRaised hne hapart [] (by simp), List.nil_append, List.map_map, Function.comp_def]

end Dash

/-! ## Hyphenated words -/

section Hyphen

theorem test_dashItem {lead : List Char} {d : DashPiece} (hlead : '-' ∉ lead) (hd : d.Fits) :
    Pattern.test {} dashItem (String.ofList (lead ++ d.text)) = true := by
  obtain ⟨p1, hskip⟩ := searchFrom_skip {} dashItem lead d.text 0 none
    fun j hj p => quietBefore_dash hlead _ j hj _ p
  obtain ⟨p2, hm⟩ := matchAt_dash hd.gap hd.item_ne hd.item_head hd.item hd.prose_head
    (0 + lead.length) p1
  rw [Pattern.test, search, String.toList_ofList, hskip, DashPiece.text, searchFrom_of_matchAt hm]
  rfl

/-- A dash inside a word, as in `e-mail`, starts an item like any other dash: without a
semicolon, the text after it up to the next line end or comma, stripped and first letter
raised, is the one step, and the strategy applies. -/
theorem inlineSteps_hyphen {ss : List String} {u w r : List Char}
    (hss : (join " " ss).toList = u ++ '-' :: (w ++ r)) (hsemi : ';' ∉ (join " " ss).toList)
    (hu : '-' ∉ u) (hd : (DashPiece.mk [] w r).Fits) (n : String) :
    inlineSteps ss = [upperFirst (strip (String.ofList w))] ∧
      Strategy.applies .inlineList n ss = true := by
  have htext : u ++ [DashPiece.mk [] w r].flatMap DashPiece.text = (join " " ss).toList := by
    simp [hss, DashPiece.text]
  refine ⟨inlineSteps_dashPieces htext.symm hsemi hu (by simpa using hd) (by simp)
    (List.pairwise_singleton _ _), ?_⟩
  have h := test_dashItem hu hd
  rw [← List.flatMap_singleton DashPiece.text, htext, String.ofList_toList] at h
  simp [Strategy.applies, h]

end Hyphen

/-! ## Dash lists -/

section DashList

/-- A list written with a dash and a blank before each item and a comma and a blank between
items: `- A, - B, ...`. -/
def dashList (items : List String) : String := ", ".intercalate (items.map ("- " ++ ·))

/-- An item of a dash list that reads back as it stands: nonempty, with no blank at either end,
and holding no line end, comma or semicolon. -/
structure DashListItem (a : String) : Prop where
  ne : a ≠ ""
  trimmed : Trimmed a.toList
  item : ∀ c ∈ a.toList, itemEnd c = false

/-- The pieces of a dash list: each item after a dash and a blank, with a comma and a blank
after it when another item follows. -/
def dashPieces : List String → List DashPiece
  | [] => []
  | [a] => [⟨[' '], a.toList, []⟩]
  | a :: b :: as => ⟨[' '], a.toList, [',', ' ']⟩ :: dashPieces (b :: as)

theorem dashList_cons_cons (a b : String) (as : List String) :
    dashList (a :: b :: as) = "- " ++ a ++ ", " ++ dashList (b :: as) := by
  simp only [dashList, List.map_cons, String.intercalate_cons_cons]

theorem dashList_toList (items : List String) :
    (dashList items).toList = (dashPieces items).flatMap DashPiece.text := by
  induction items using dashPieces.induct with
  | case1 => rfl
  | case2 a => simp [dashList, dashPieces, DashPiece.text]
  | case3 a b as ih =>
    rw [dashList_cons_cons, dashPieces, List.flatMap_cons, ← ih]
    simp [DashPiece.text]

/-- Every piece of a dash list is an item between a dash and a blank and, after it, nothing or a
comma and a blank. -/
theorem mem_dashPieces {items : List String} {d : DashPiece} (hd : d ∈ dashPieces items) :
    ∃ a ∈ items, ∃ prose, (prose = [] ∨ prose = [',', ' ']) ∧ d = ⟨[' '], a.toList, prose⟩ := by
  induction items using dashPieces.induct with
  | case1 => simp [dashPieces] at hd
  | case2 a =>
    simp only [dashPieces, List.mem_singleton] at hd
    exact ⟨a, List.mem_singleton_self a, [], by simp [hd]⟩
  | case3 a b as ih =>
    rw [dashPieces, List.mem_cons] at hd
    rcases hd with rfl | hd
    · exact ⟨a, List.mem_cons_self, [',', ' '], by simp⟩
    · obtain ⟨x, hx, h⟩ := ih hd
      exact ⟨x, List.mem_cons_of_mem a hx, h⟩

theorem dashPieces_dropLast (items : List String) :
    ∀ d ∈ (dashPieces items).dropLast, d.prose ≠ [] := by
  induction items using dashPieces.induct with
  | case1 => simp [dashPieces]
  | case2 a => simp [dashPieces]
  | case3 a b as ih =>
    intro d hd
    cases hb : dashPieces (b :: as) with
    | nil => cases as <;> simp [dashPieces] at hb
    | cons e es =>
      rw [dashPieces, hb, List.dropLast_cons_cons, List.mem_cons] at hd
      rcases hd with rfl | hd
      · simp
      · exact ih d (by rw [hb]; exact hd)

theorem DashListItem.fits {a : String} (ha : DashListItem a) {prose : List Char}
    (hp : prose = [] ∨ prose = [',', ' ']) : (DashPiece.mk [' '] a.toList prose).Fits where
  gap := by simp [isBlank]
  item_ne := by simpa using ha.ne
  item_head := ha.trimmed.1
  item := ha.item
  prose_head := by rcases hp with rfl | rfl <;> simp [itemEnd]
  prose := by rcases hp with rfl | rfl <;> simp

theorem dashPieces_step {items : List String} (h : ∀ a ∈ items, DashListItem a) :
    (dashPieces items).map DashPiece.step = items := by
  induction items using dashPieces.induct with
  | case1 => rfl
  | case2 a =>
    simp [dashPieces, DashPiece.step, strip_eq_self (h a (List.mem_singleton_self a)).trimmed]
  | case3 a b as ih =>
    rw [dashPieces, List.map_cons, ih fun x hx => h x (List.mem_cons_of_mem a hx)]
    simp [DashPiece.step, strip_eq_self (h a List.mem_cons_self).trimmed]

theorem semicolon_not_mem_dashList {items : List String} (h : ∀ a ∈ items, DashListItem a) :
    ';' ∉ (dashList items).toList := by
  rw [dashList_toList, List.mem_flatMap]
  rintro ⟨d, hd, hmem⟩
  obtain ⟨a, ha, prose, hp, rfl⟩ := mem_dashPieces hd
  have hsemi : ';' ∉ a.toList := fun hc => by simpa [itemEnd] using (h a ha).item ';' hc
  rcases hp with rfl | rfl <;> simp [DashPiece.text, hsemi] at hmem

/-- A dash list gives back its items, each with its first letter raised, when none is an earlier
one raised. -/
theorem inlineSteps_dashList {items : List String} (h : ∀ a ∈ items, DashListItem a)
    (hapart : RaisedApart items) : inlineSteps [dashList items] = items.map upperFirst := by
  have hjoin : join " " [dashList items] = dashList items := by simp [join]
  have hsteps := dashPieces_step h
  have hfits : ∀ d ∈ dashPieces items, d.Fits := fun d hd => by
    obtain ⟨a, ha, prose, hp, rfl⟩ := mem_dashPieces hd
    exact (h a ha).fits hp
  have htext : (join " " [dashList items]).toList = [] ++ (dashPieces items).flatMap DashPiece.text := by
    rw [hjoin, dashList_toList, List.nil_append]
  rw [inlineSteps_dashPieces htext (by rw [hjoin]; exact semicolon_not_mem_dashList h)
    List.not_mem_nil hfits (dashPieces_dropLast items) (by rwa [hsteps]),
    ← congrArg (List.map upperFirst) hsteps, List.map_map, Function.comp_def]

end DashList

/-! ## Letter lists -/

section LetterList

/-- An item of a letter list: its letter and its text. -/
structure Lettered where
  letter : Char
  text : String

def Lettered.written (x : Lettered) : String := String.singleton x.letter ++ ") " ++ x.text

/-- A list written with a letter and `)` before each item and a semicolon and a blank between
items: `a) A; b) B; ...`. -/
def letterList (xs : List Lettered) : String := "; ".intercalate (xs.map Lettered.written)

/-- A letter-list item that reads back as it stands: its letter is an ASCII letter, and its text
is nonempty, has no blank at either end, opens with an ASCII character and holds no line end,
dash, comma or semicolon. -/
structure Lettered.Fits (x : Lettered) : Prop where
  letter : x.letter.isAlpha = true
  ne : x.text ≠ ""
  trimmed : Trimmed x.text.toList
  head_ascii : ∀ c ∈ x.text.toList.head?, c.toNat < 128
  plain : ∀ c ∈ x.text.toList, c ≠ '\n' ∧ c ≠ '-' ∧ c ≠ ',' ∧ c ≠ ';'

theorem Lettered.toList_written (x : Lettered) :
    x.written.toList = x.letter :: ')' :: ' ' :: x.text.toList := by
  simp [Lettered.written]

theorem letterLead_eq :
    letterLead = .cat (.oneOf [.range 'a' 'z']) (.cat (.lit ')') (.cat (.star blank false)
      (.group 1 (plus .dot)))) := rfl

theorem ascii_of_isAlpha {c : Char} (h : c.isAlpha = true) : c.toNat < 128 := by
  delta Char.isAlpha Char.isUpper Char.isLower at h
  simp only [Bool.or_eq_true, Bool.and_eq_true, decide_eq_true_eq, ge_iff_le,
    UInt32.le_iff_toNat_le] at h
  have hZ : 'Z'.val.toNat = 90 := rfl
  have hz : 'z'.val.toNat = 122 := rfl
  have hc : c.toNat = c.val.toNat := rfl
  omega

theorem range_caseless {c : Char} (h : c.isAlpha = true) :
    classAccepts .caseless [.range 'a' 'z'] c = true :=
  ascii_of_fin (P := fun d => d.isAlpha = true → classAccepts .caseless [.range 'a' 'z'] d = true)
    (by decide) (ascii_of_isAlpha h) h

theorem isBlank_of_isAlpha {c : Char} (h : c.isAlpha = true) : isBlank c = false :=
  ascii_of_fin (P := fun d => d.isAlpha = true → isBlank d = false) (by decide)
    (ascii_of_isAlpha h) h

theorem Lettered.Fits.trimmed_written {x : Lettered} (hx : x.Fits) : Trimmed x.written.toList := by
  rw [Lettered.toList_written]
  exact Trimmed.prepend (w := [x.letter, ')', ' ']) (by simpa using isBlank_of_isAlpha hx.letter)
    hx.trimmed fun h => hx.ne (String.toList_eq_nil_iff.1 h)

theorem Lettered.Fits.mem_written {x : Lettered} (hx : x.Fits) {c : Char}
    (hc : c ∈ x.written.toList) : c ≠ '-' ∧ c ≠ ';' := by
  rw [Lettered.toList_written] at hc
  rcases List.mem_cons.1 hc with rfl | hc
  · have hl := hx.letter
    constructor <;> rintro h <;> rw [h] at hl <;> exact absurd hl (by decide)
  · simp only [List.mem_cons] at hc
    rcases hc with rfl | rfl | hc
    · decide
    · decide
    · exact ⟨(hx.plain c hc).2.1, (hx.plain c hc).2.2.2⟩

/-- The letter lead matches a written item whole, with its text as group 1: the letter and `)`
are taken, the greedy blanks stop at the text, which opens with no blank in either case, and
the group runs to the end. -/
theorem matchStart_written {x : Lettered} (hx : x.Fits) :
    ∃ p, matchStart .caseless letterLead x.written.toList =
      some ⟨0, 3 + x.text.toList.length, [(1, 3, 3 + x.text.toList.length)], p, []⟩ := by
  let acc : Cursor → Bool := fun c => !(false && c.pos == 0)
  have hacc : ∀ c, acc c = true := fun _ => rfl
  have hne : x.text.toList ≠ [] := fun h => hx.ne (String.toList_eq_nil_iff.1 h)
  have hhead : ∀ c ∈ x.text.toList.head?, classAccepts .caseless [.blank] c = false := fun c hc => by
    rw [blank_caseless (hx.head_ascii c hc)]
    exact hx.trimmed.1 c hc
  obtain ⟨p, hg⟩ := (OneChar.dot .caseless).run_group_plus (r := []) hacc hne
    (fun c hc => by simpa using (hx.plain c hc).1) (by simp) 1 (0 + 1 + 1 + 1) (some ' ')
  rw [List.append_nil] at hg
  refine ⟨p, ?_⟩
  rw [matchStart, matchAt, Lettered.toList_written, letterLead_eq, run_cat,
    (OneChar.oneOf _ _).take (range_caseless hx.letter), run_cat,
    (OneChar.lit _ _).take (litAccepts_self _ _), run_cat,
    blank_caseless_oneChar.star_cons (by rw [blank_caseless (by decide)]; decide), blank_caseless_oneChar.star_rest hhead, hg]
  rfl

theorem letterStep_written {x : Lettered} (hx : x.Fits) (steps : List String) :
    letterStep steps x.written = pushRaised steps x.text := by
  obtain ⟨p, hm⟩ := matchStart_written hx
  have hgroup : Found.groupD ⟨0, 3 + x.text.toList.length, [(1, 3, 3 + x.text.toList.length)], p,
      []⟩ x.written.toList 1 = x.text := by
    simp [Found.groupD_single, Lettered.toList_written]
  have hcut : stripEndOf [','] x.text = x.text := stripEndOf_eq_self fun c hc => by
    simpa using (hx.plain c (List.mem_of_getLast? hc)).2.2.1
  unfold letterStep
  rw [strip_eq_self hx.trimmed_written, hm]
  simp only [hgroup, hcut]

/-- Cut at its semicolons, a letter list gives its written items, each after the first with the
blank before it. -/
theorem splitOn_letterList {x : Lettered} {ys : List Lettered} (h : ∀ z ∈ x :: ys, z.Fits) :
    splitOn (letterList (x :: ys)) ";" = x.written :: ys.map fun y => " " ++ y.written := by
  have htext : (letterList (x :: ys)).toList =
      x.written.toList ++ (ys.map fun y => ' ' :: y.written.toList).flatMap (';' :: ·) := by
    rw [letterList, List.map_cons, toList_intercalate_cons, List.flatMap_map, List.flatMap_map]
    simp
  have hsemi : ∀ z ∈ x :: ys, ';' ∉ z.written.toList := fun z hz hc =>
    ((h z hz).mem_written hc).2 rfl
  unfold splitOn
  rw [htext, show (";" : String).toList = [';'] by simp,
    splitList_cons_flatMap (hsemi x List.mem_cons_self) ?_]
  · have hspace : ∀ y : Lettered, String.ofList (' ' :: y.written.toList) = " " ++ y.written :=
      fun y => by rw [← String.toList_inj]; simp
    simp only [List.map_cons, List.map_map, String.ofList_toList, Function.comp_def, hspace]
  · simp only [List.mem_map]
    rintro _ ⟨y, hy, rfl⟩ hc
    rcases List.mem_cons.1 hc with hc | hc
    · exact absurd hc (by decide)
    · exact hsemi y (List.mem_cons_of_mem x hy) hc

theorem dash_not_mem_letterList {xs : List Lettered} (h : ∀ x ∈ xs, x.Fits) :
    '-' ∉ (letterList xs).toList := by
  cases xs with
  | nil => simp [letterList]
  | cons x ys =>
    rw [letterList, List.map_cons, toList_intercalate_cons, List.mem_append, List.mem_flatMap]
    rintro (hc | ⟨_, hy, hc⟩)
    · exact ((h x List.mem_cons_self).mem_written hc).1 rfl
    · obtain ⟨y, hy', rfl⟩ := List.mem_map.1 hy
      rw [List.mem_append] at hc
      rcases hc with hc | hc
      · simp at hc
      · exact ((h y (List.mem_cons_of_mem x hy')).mem_written hc).1 rfl

/-- A letter list of two items or more gives back its items' texts, each with its first letter
raised, when none is an earlier one raised: it has a semicolon, no dash, and each part between
semicolons is read as its item. -/
theorem inlineSteps_letterList {xs : List Lettered} (hlen : 2 ≤ xs.length) (h : ∀ x ∈ xs, x.Fits)
    (hapart : RaisedApart (xs.map (·.text))) :
    inlineSteps [letterList xs] = xs.map fun x => upperFirst x.text := by
  obtain ⟨x, y, zs, rfl⟩ : ∃ x y zs, xs = x :: y :: zs := by
    rcases xs with _ | ⟨x, _ | ⟨y, zs⟩⟩
    · simp at hlen
    · simp at hlen
    · exact ⟨x, y, zs, rfl⟩
  have hjoin : join " " [letterList (x :: y :: zs)] = letterList (x :: y :: zs) := by simp [join]
  have hsemi : (letterList (x :: y :: zs)).contains ';' = true := by
    rw [String.contains_char_eq, decide_eq_true_iff, letterList, List.map_cons, List.map_cons,
      toList_intercalate_cons]
    simp
  have hdash : dashSteps (letterList (x :: y :: zs)).toList = [] := by
    rw [dashSteps, findAll, findAllFrom_no_dash (dash_not_mem_letterList h)]
    rfl
  have hne : ∀ t ∈ (x :: y :: zs).map (·.text), t ≠ "" := by
    simp only [List.mem_map]
    rintro t ⟨z, hz, rfl⟩
    exact (h z hz).ne
  -- the parts after the first carry the blank after a semicolon, which stripping drops
  have hrest : ∀ acc, (y :: zs).foldl (fun acc z => letterStep acc (" " ++ z.written)) acc =
      ((y :: zs).map (·.text)).foldl pushRaised acc := fun acc => by
    rw [List.foldl_map]
    exact List.foldl_ext _ _ _ fun acc z hz => by
      rw [letterStep_space, letterStep_written (h z (List.mem_cons_of_mem x hz))]
  rw [inlineSteps_eq, hjoin, hsemi, Bool.not_true, if_neg Bool.false_ne_true, hdash,
    splitOn_letterList h, List.foldl_cons, letterStep_written (h x List.mem_cons_self),
    List.foldl_map]
  calc List.foldl (fun acc z => letterStep acc (" " ++ z.written)) (pushRaised [] x.text) (y :: zs)
      = ((x :: y :: zs).map (·.text)).foldl pushRaised [] := by
        rw [hrest, List.map_cons (l := y :: zs), List.foldl_cons]
    _ = (x :: y :: zs).map fun x => upperFirst x.text := by
        rw [foldl_pushRaised hne hapart [] (by simp), List.nil_append, List.map_map,
          Function.comp_def]

end LetterList

/-! ## What the strategy reads -/

/-- The inline-list strategy reads every dash as the start of an item, the dash of a hyphenated
word included; it reads a dash list, and a letter list of two items or more, item by item. -/
theorem inlineSteps_reads_items (ss : List String) (u w r : List Char) (n : String)
    (items : List String) (xs : List Lettered) :
    ((join " " ss).toList = u ++ '-' :: (w ++ r) → ';' ∉ (join " " ss).toList → '-' ∉ u →
        (DashPiece.mk [] w r).Fits →
        inlineSteps ss = [upperFirst (strip (String.ofList w))] ∧
          Strategy.applies .inlineList n ss = true) ∧
    ((∀ a ∈ items, DashListItem a) → RaisedApart items →
      inlineSteps [dashList items] = items.map upperFirst) ∧
    (2 ≤ xs.length → (∀ x ∈ xs, x.Fits) → RaisedApart (xs.map (·.text)) →
      inlineSteps [letterList xs] = xs.map fun x => upperFirst x.text) :=
  ⟨fun hss hsemi hu hw => inlineSteps_hyphen hss hsemi hu hw n,
    fun hitems hapart => inlineSteps_dashList hitems hapart,
    fun hlen hxs hxapart => inlineSteps_letterList hlen hxs hxapart⟩

/-- The hyphen of e-mail starts an item the strategy reads as a step; a dash list and a letter
list of two items read back. -/
theorem inlineSteps_reads_email_and_lists :
    ((join " " ["send an e-mail"]).toList = "send an e".toList ++ '-' :: ("mail".toList ++ []) ∧
      ';' ∉ (join " " ["send an e-mail"]).toList ∧ '-' ∉ "send an e".toList ∧
      (DashPiece.mk [] "mail".toList []).Fits) ∧
    ((∀ a ∈ ["add a form", "run tests"], DashListItem a) ∧
      RaisedApart ["add a form", "run tests"]) ∧
    (2 ≤ [Lettered.mk 'a' "add a form", Lettered.mk 'b' "run tests"].length ∧
      (∀ x ∈ [Lettered.mk 'a' "add a form", Lettered.mk 'b' "run tests"], x.Fits) ∧
      RaisedApart ([Lettered.mk 'a' "add a form", Lettered.mk 'b' "run tests"].map (·.text))) ∧
    ((inlineSteps ["send an e-mail"] = [upperFirst (strip (String.ofList "mail".toList))] ∧
        Strategy.applies .inlineList "send an e-mail" ["send an e-mail"] = true) ∧
      inlineSteps [dashList ["add a form", "run tests"]] =
        ["add a form", "run tests"].map upperFirst ∧
      inlineSteps [letterList [Lettered.mk 'a' "add a form", Lettered.mk 'b' "run tests"]] =
        [Lettered.mk 'a' "add a form", Lettered.mk 'b' "run tests"].map fun x => upperFirst x.text) :=
  have hss : (join " " ["send an e-mail"]).toList =
      "send an e".toList ++ '-' :: ("mail".toList ++ []) := by decide +kernel
  have hsemi : ';' ∉ (join " " ["send an e-mail"]).toList := by decide +kernel
  have hu : '-' ∉ "send an e".toList := by decide +kernel
  have hw : (DashPiece.mk [] "mail".toList []).Fits :=
    ⟨by simp, by simp, by simp [isBlank], by simp [itemEnd], by simp, by simp⟩
  have hitems : ∀ a ∈ ["add a form", "run tests"], DashListItem a := by
    simp only [List.mem_cons, List.not_mem_nil, or_false, forall_eq_or_imp, forall_eq]
    exact ⟨⟨by decide, by simp [Trimmed, isBlank], by simp [itemEnd]⟩,
      ⟨by decide, by simp [Trimmed, isBlank], by simp [itemEnd]⟩⟩
  have hapart : RaisedApart ["add a form", "run tests"] := by decide +kernel
  have hxs : ∀ x ∈ [Lettered.mk 'a' "add a form", Lettered.mk 'b' "run tests"], x.Fits := by
    simp only [List.mem_cons, List.not_mem_nil, or_false, forall_eq_or_imp, forall_eq]
    exact ⟨⟨by decide, by decide, by simp [Trimmed, isBlank], by simp, by simp⟩,
      ⟨by decide, by decide, by simp [Trimmed, isBlank], by simp, by simp⟩⟩
  have hxapart : RaisedApart
      ([Lettered.mk 'a' "add a form", Lettered.mk 'b' "run tests"].map (·.text)) := by
    decide +kernel
  have h := inlineSteps_reads_items ["send an e-mail"] "send an e".toList "mail".toList []
    "send an e-mail" ["add a form", "run tests"]
    [Lettered.mk 'a' "add a form", Lettered.mk 'b' "run tests"]
  ⟨⟨hss, hsemi, hu, hw⟩, ⟨hitems, hapart⟩, ⟨by decide, hxs, hxapart⟩,
    h.1 hss hsemi hu hw, h.2.1 hitems hapart, h.2.2 (by decide) hxs hxapart⟩

end Taskflow.Steps
