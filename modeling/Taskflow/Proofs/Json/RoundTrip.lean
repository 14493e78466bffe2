import Taskflow.Json.Read
import Taskflow.Json.Write
/-!
Reading back what a task file holds.
-/

namespace Taskflow.Json

/-- Values without numbers whose objects repeat no key. -/
inductive Value.Plain : Value → Prop
  | null : Plain .null
  | bool (b : Bool) : Plain (.bool b)
  | str (s : String) : Plain (.str s)
  | arr {xs : List Value} : (∀ x ∈ xs, Plain x) → Plain (.arr xs)
  | obj {kvs : List (String × Value)} : (kvs.map (·.1)).Nodup → (∀ kv ∈ kvs, Plain kv.2) →
      Plain (.obj kvs)

/-- The text of a value in a task file at nesting `lvl`, as characters. -/
def fileText (lvl : Nat) (v : Value) : List Char := (Value.writeAt .file lvl v).toList

def gap (n : Nat) : List Char := '\n' :: List.replicate (2 * n) ' '

def escaped (cs : List Char) : List Char := cs.flatMap fun c => (escapeChar false c).toList

/-! ## Texts -/

theorem readText_plain {start pos : Nat} {acc rest : List Char} {c : Char} (h1 : c ≠ '"')
    (h2 : c ≠ '\\') (h3 : ¬ c.toNat < 0x20) :
    readText start (c :: rest) pos acc = readText start rest (pos + 1) (c :: acc) := by
  rw [readText.eq_def]
  split
  · contradiction
  · next heq => exact absurd (List.cons.inj heq).1 h1
  · next heq => exact absurd (List.cons.inj heq).1 h2
  · next heq =>
    obtain ⟨rfl, rfl⟩ := List.cons.inj heq
    simp [h3]

theorem hex4_read : ∀ n, n < 32 → (hex4 n).toList.length = 4 ∧ hex4? (hex4 n).toList = some n := by
  intro n hn
  simp only [hex4, String.toList_ofList]
  revert n
  decide

/-- One written character reads back as itself. -/
theorem readText_escapeChar (start pos : Nat) (acc rest : List Char) (c : Char) :
    readText start ((escapeChar false c).toList ++ rest) pos acc =
      readText start rest (pos + (escapeChar false c).length) (c :: acc) := by
  unfold escapeChar
  split
  · show readText start ('\\' :: '"' :: rest) pos acc = readText start rest (pos + 2) ('"' :: acc)
    rw [readText]
  · show readText start ('\\' :: '\\' :: rest) pos acc = readText start rest (pos + 2) ('\\' :: acc)
    rw [readText]
  · show readText start ('\\' :: 'n' :: rest) pos acc = readText start rest (pos + 2) ('\n' :: acc)
    rw [readText]
  · show readText start ('\\' :: 'r' :: rest) pos acc = readText start rest (pos + 2) ('\r' :: acc)
    rw [readText]
  · show readText start ('\\' :: 't' :: rest) pos acc = readText start rest (pos + 2) ('\t' :: acc)
    rw [readText]
  · show readText start ('\\' :: 'b' :: rest) pos acc =
      readText start rest (pos + 2) ('\x08' :: acc)
    rw [readText]
  · show readText start ('\\' :: 'f' :: rest) pos acc =
      readText start rest (pos + 2) ('\x0c' :: acc)
    rw [readText]
  · next hq hb _ _ _ _ _ =>
    split
    · next hc =>
      obtain ⟨hlen, hx⟩ := hex4_read c.toNat hc
      have hu : (unitEscape c.toNat).toList = '\\' :: 'u' :: (hex4 c.toNat).toList := by
        simp [unitEscape]
      have hn : ¬ 55296 ≤ c.toNat := by omega
      have hm : ¬ 56320 ≤ c.toNat := by omega
      rw [hu, List.cons_append, List.cons_append, readText]
      · have hl : (hex4 c.toNat).length = 4 := by rw [← String.length_toList]; exact hlen
        have h2 : "\\u".length = 2 := rfl
        simp [List.take_left' hlen, List.drop_left' hlen, hx, hn, hm, unitEscape, hl, h2]
      -- the escape letter `u` is none of the short escapes
      all_goals decide
    · next hc =>
      rw [if_neg (by simp)]
      simp only [String.toList_singleton, List.singleton_append, String.length_singleton]
      exact readText_plain hq hb hc

/-- The body of a written text, up to its closing quote, reads back as the text. -/
theorem readText_escaped (start : Nat) (r cs : List Char) :
    ∀ (pos : Nat) (acc : List Char), readText start (escaped cs ++ '"' :: r) pos acc =
      .ok (String.ofList (acc.reverse ++ cs), ⟨r, pos + (escaped cs).length + 1⟩) := by
  induction cs with
  | nil =>
    intro pos acc
    rw [escaped, List.flatMap_nil, List.nil_append, readText]
    simp
  | cons c cs ih =>
    intro pos acc
    have hs : escaped (c :: cs) = (escapeChar false c).toList ++ escaped cs := by
      simp [escaped]
    rw [hs, List.append_assoc, readText_escapeChar, ih]
    simp only [List.reverse_cons, List.append_assoc, List.singleton_append, List.length_append,
      String.length_toList]
    congr 3
    omega

theorem quoteText_toList (s : String) :
    (quoteText false s).toList = '"' :: escaped s.toList ++ ['"'] := by
  simp [quoteText, escaped, List.flatMap_map]

/-! ## Blanks -/

theorem skip_blanks {bl rest : List Char} (p : Nat) (hbl : ∀ c ∈ bl, isJsonBlank c = true)
    (hr : rest.takeWhile isJsonBlank = []) : Cursor.skip ⟨bl ++ rest, p⟩ = ⟨rest, p + bl.length⟩ := by
  have ht : (bl ++ rest).takeWhile isJsonBlank = bl := by
    rw [List.takeWhile_append_of_pos hbl, hr, List.append_nil]
  simp [Cursor.skip, ht]

theorem skip_solid {rest : List Char} (p : Nat) (hr : rest.takeWhile isJsonBlank = []) :
    Cursor.skip ⟨rest, p⟩ = ⟨rest, p⟩ := by
  simp [Cursor.skip, hr]

theorem takeWhile_blank_cons (c : Char) (cs : List Char) (h : isJsonBlank c = false) :
    (c :: cs).takeWhile isJsonBlank = [] := by
  simp [h]

theorem gap_blank (n : Nat) : ∀ c ∈ gap n, isJsonBlank c = true := by
  intro c hc
  simp only [gap, List.mem_cons, List.mem_replicate] at hc
  rcases hc with rfl | ⟨-, rfl⟩ <;> decide

/-- Blanks before a value are skipped. -/
theorem readValue_blanks {f p : Nat} {bl cs : List Char} (hbl : ∀ c ∈ bl, isJsonBlank c = true)
    (hcs : cs.takeWhile isJsonBlank = []) :
    readValue (f + 1) ⟨bl ++ cs, p⟩ = readValue (f + 1) ⟨cs, p + bl.length⟩ := by
  rw [readValue, readValue, skip_blanks p hbl hcs, skip_solid (p + bl.length) hcs]

/-! ## The text of a value -/

theorem intercalate_cons_eq {α : Type} (sep a : List α) (l : List (List α)) :
    sep.intercalate (a :: l) = a ++ l.flatMap (sep ++ ·) := by
  induction l generalizing a with
  | nil => simp
  | cons b l ih => rw [List.intercalate_cons_cons, ih]; simp

theorem map_attach_pair {β : Type} (l : List (String × Value)) (g : String → Value → β) :
    l.attach.map (fun kv => g kv.1.1 kv.1.2) = l.map (fun kv => g kv.1 kv.2) :=
  @List.attach_map_val _ _ l (fun kv => g kv.1 kv.2)

/-- The items after the first in an array's text, each after a comma and a line break. -/
def itemsText (lvl : Nat) (ys : List Value) : List Char :=
  ys.flatMap fun y => ',' :: gap lvl ++ fileText lvl y

/-- A member of an object in a task file: the quoted key, a colon and a space, the value. -/
def memberText (lvl : Nat) (kv : String × Value) : List Char :=
  (quoteText false kv.1).toList ++ ':' :: ' ' :: fileText lvl kv.2

def membersText (lvl : Nat) (kvs : List (String × Value)) : List Char :=
  kvs.flatMap fun kv => ',' :: gap lvl ++ memberText lvl kv

theorem fileText_null (lvl : Nat) : fileText lvl .null = ['n', 'u', 'l', 'l'] := by
  rw [fileText, Value.writeAt]; rfl

-- Unfolding the writer in an example, elaborated before the lemmas below, makes its equation
-- lemmas once rather than in each of their proofs at the same time.
example : fileText 3 .null = ['n', 'u', 'l', 'l'] := by
  rw [fileText, Value.writeAt]; rfl

theorem fileText_bool (lvl : Nat) (b : Bool) :
    fileText lvl (.bool b) = if b then ['t', 'r', 'u', 'e'] else ['f', 'a', 'l', 's', 'e'] := by
  rw [fileText, Value.writeAt]; cases b <;> rfl

theorem fileText_str (lvl : Nat) (s : String) :
    fileText lvl (.str s) = '"' :: escaped s.toList ++ ['"'] := by
  rw [fileText, Value.writeAt]; exact quoteText_toList s

theorem fileText_arr_nil (lvl : Nat) : fileText lvl (.arr []) = ['[', ']'] := by
  rw [fileText, Value.writeAt]; rfl

theorem fileText_obj_nil (lvl : Nat) : fileText lvl (.obj []) = ['{', '}'] := by
  rw [fileText, Value.writeAt]; rfl

theorem fileText_arr_cons (lvl : Nat) (x : Value) (xs : List Value) :
    fileText lvl (.arr (x :: xs)) =
      '[' :: gap (lvl + 1) ++ fileText (lvl + 1) x ++ itemsText (lvl + 1) xs ++ gap lvl ++ [']'] := by
  rw [fileText, Value.writeAt]
  · simp [WriteStyle.file, gap, intercalate_cons_eq, List.flatMap_map, itemsText, fileText]
  · simp

theorem fileText_obj_cons (lvl : Nat) (kv : String × Value) (kvs : List (String × Value)) :
    fileText lvl (.obj (kv :: kvs)) =
      '{' :: gap (lvl + 1) ++ memberText (lvl + 1) kv ++ membersText (lvl + 1) kvs ++ gap lvl ++
        ['}'] := by
  rw [fileText, Value.writeAt]
  · simp only [WriteStyle.file]
    rw [map_attach_pair (kv :: kvs)
      (fun a b => quoteText false a ++ ": " ++ Value.writeAt ⟨some 2, false⟩ (lvl + 1) b)]
    simp [WriteStyle.file, gap, intercalate_cons_eq, List.flatMap_map, membersText, memberText,
      fileText]
  · simp

def openers : List Char := ['n', 't', 'f', '"', '[', '{']

theorem openers_facts : ∀ c ∈ openers, isJsonBlank c = false ∧ c ≠ ']' ∧ c ≠ Char.ofNat 0xFEFF := by
  simp [openers, isJsonBlank]

theorem fileText_head {v : Value} (hv : v.Plain) (lvl : Nat) :
    ∃ c cs, fileText lvl v = c :: cs ∧ c ∈ openers := by
  cases hv with
  | null => exact ⟨'n', _, fileText_null lvl, by decide⟩
  | bool b => cases b <;> exact ⟨_, _, fileText_bool lvl _, by decide⟩
  | str s => exact ⟨'"', _, fileText_str lvl s, by decide⟩
  | @arr xs _ =>
    cases xs with
    | nil => exact ⟨'[', _, fileText_arr_nil lvl, by decide⟩
    | cons x xs => exact ⟨'[', _, fileText_arr_cons lvl x xs, by decide⟩
  | @obj kvs _ _ =>
    cases kvs with
    | nil => exact ⟨'{', _, fileText_obj_nil lvl, by decide⟩
    | cons kv kvs => exact ⟨'{', _, fileText_obj_cons lvl kv kvs, by decide⟩

theorem fileText_solid {v : Value} (hv : v.Plain) (lvl : Nat) (r : List Char) :
    (fileText lvl v ++ r).takeWhile isJsonBlank = [] := by
  obtain ⟨c, cs, hc, ho⟩ := fileText_head hv lvl
  rw [hc, List.cons_append]
  exact takeWhile_blank_cons c _ (openers_facts c ho).1

/-! ## Reading -/

/-- The text of `v` at any nesting, followed by anything, reads as `v` and leaves what follows,
when the fuel exceeds the text's length. -/
def ReadsBack (v : Value) : Prop :=
  ∀ (lvl fuel p : Nat) (r : List Char), (fileText lvl v).length < fuel →
    readValue fuel ⟨fileText lvl v ++ r, p⟩ = .ok (v, ⟨r, p + (fileText lvl v).length⟩)

theorem ReadsBack.after_blanks {v : Value} (hp : v.Plain) (h : ReadsBack v) {lvl fuel p : Nat}
    (bl r : List Char) (hbl : ∀ c ∈ bl, isJsonBlank c = true)
    (hf : bl.length + (fileText lvl v).length < fuel) :
    readValue fuel ⟨bl ++ (fileText lvl v ++ r), p⟩ =
      .ok (v, ⟨r, p + bl.length + (fileText lvl v).length⟩) := by
  obtain ⟨f, rfl⟩ : ∃ f, fuel = f + 1 := ⟨fuel - 1, by omega⟩
  rw [readValue_blanks hbl (fileText_solid hp lvl r), h lvl (f + 1) _ r (by omega)]

theorem setMember_fresh {kvs : List (String × Value)} {k : String} (x : Value)
    (h : k ∉ kvs.map (·.1)) : Value.setMember kvs k x = kvs ++ [(k, x)] := by
  have hk : kvs.any (·.1 == k) = false := by
    rw [List.any_eq_false]
    intro kv hkv hb
    exact h (List.mem_map.2 ⟨kv, hkv, by simpa using hb⟩)
  simp [Value.setMember, hk]

/-- The items of an array, from its first item to its closing bracket, read back in order; each
step of the reader takes one item and one unit of fuel. -/
theorem readItems_file {lvl : Nat} {ys : List Value} (hys : ∀ y ∈ ys, y.Plain ∧ ReadsBack y) :
    ∀ (y : Value) (bl : List Char) (fuel p : Nat) (acc : List Value) (r : List Char),
      y.Plain → ReadsBack y → (∀ c ∈ bl, isJsonBlank c = true) →
      bl.length + (fileText (lvl + 1) y).length + (itemsText (lvl + 1) ys).length +
        (gap lvl).length + 1 < fuel →
      readItems fuel
          ⟨bl ++ (fileText (lvl + 1) y ++ (itemsText (lvl + 1) ys ++ (gap lvl ++ ']' :: r))), p⟩ acc =
        .ok (.arr (acc.reverse ++ y :: ys), ⟨r, p + bl.length + (fileText (lvl + 1) y).length +
          (itemsText (lvl + 1) ys).length + (gap lvl).length + 1⟩) := by
  induction ys with
  | nil =>
    intro y bl fuel p acc r hy hr hbl hf
    obtain ⟨g, rfl⟩ : ∃ g, fuel = g + 1 := ⟨fuel - 1, by omega⟩
    have hv : readValue g ⟨bl ++ (fileText (lvl + 1) y ++ (gap lvl ++ ']' :: r)), p⟩ =
        .ok (y, ⟨gap lvl ++ ']' :: r, p + bl.length + (fileText (lvl + 1) y).length⟩) :=
      hr.after_blanks hy bl _ hbl (by simp [itemsText] at hf; omega)
    simp only [itemsText, List.flatMap_nil, List.nil_append, List.length_nil, Nat.add_zero]
    rw [readItems, hv]
    simp [skip_blanks _ (gap_blank lvl) (takeWhile_blank_cons ']' r (by decide)), Cursor.advance]
  | cons z zs ih =>
    intro y bl fuel p acc r hy hr hbl hf
    obtain ⟨hz, hzr⟩ := hys z (by simp)
    have hzs : ∀ y ∈ zs, y.Plain ∧ ReadsBack y := fun y hy => hys y (by simp [hy])
    obtain ⟨g, rfl⟩ : ∃ g, fuel = g + 1 := ⟨fuel - 1, by omega⟩
    have hi : itemsText (lvl + 1) (z :: zs) =
        ',' :: (gap (lvl + 1) ++ (fileText (lvl + 1) z ++ itemsText (lvl + 1) zs)) := by
      simp [itemsText]
    rw [hi] at hf ⊢
    simp only [List.cons_append, List.append_assoc]
    have hv : readValue g ⟨bl ++ (fileText (lvl + 1) y ++ (',' :: (gap (lvl + 1) ++
          (fileText (lvl + 1) z ++ (itemsText (lvl + 1) zs ++ (gap lvl ++ ']' :: r)))))), p⟩ =
        .ok (y, ⟨',' :: (gap (lvl + 1) ++ (fileText (lvl + 1) z ++ (itemsText (lvl + 1) zs ++
          (gap lvl ++ ']' :: r)))), p + bl.length + (fileText (lvl + 1) y).length⟩) :=
      hr.after_blanks hy bl _ hbl (by simp at hf; omega)
    rw [readItems, hv]
    simp only [skip_solid _ (takeWhile_blank_cons ',' _ (by decide)), Cursor.advance, List.drop_succ_cons,
      List.drop_zero]
    rw [ih hzs z (gap (lvl + 1)) g _ (y :: acc) r hz hzr (gap_blank _) (by simp at hf ⊢; omega)]
    simp only [List.reverse_cons, List.append_assoc, List.singleton_append, Except.ok.injEq,
      Prod.mk.injEq, Cursor.mk.injEq, true_and, List.length_cons, List.length_append]
    omega

theorem memberText_eq (lvl : Nat) (kv : String × Value) :
    memberText lvl kv = '"' :: (escaped kv.1.toList ++ '"' :: ':' :: ' ' :: fileText lvl kv.2) := by
  simp [memberText, quoteText_toList]

/-- The members of an object, from its first member to its closing brace, read back in order;
no key repeats, so each member is added at the end. -/
theorem readMembers_file {lvl : Nat} {kvs : List (String × Value)}
    (hkvs : ∀ kv ∈ kvs, kv.2.Plain ∧ ReadsBack kv.2) :
    ∀ (kv : String × Value) (fuel p : Nat) (acc : List (String × Value)) (r : List Char),
      kv.2.Plain → ReadsBack kv.2 → ((acc ++ kv :: kvs).map (·.1)).Nodup →
      (memberText (lvl + 1) kv).length + (membersText (lvl + 1) kvs).length + (gap lvl).length + 1 <
        fuel →
      readMembers fuel
          ⟨memberText (lvl + 1) kv ++ (membersText (lvl + 1) kvs ++ (gap lvl ++ '}' :: r)), p⟩ acc =
        .ok (.obj (acc ++ kv :: kvs), ⟨r, p + (memberText (lvl + 1) kv).length +
          (membersText (lvl + 1) kvs).length + (gap lvl).length + 1⟩) := by
  induction kvs with
  | nil =>
    intro kv fuel p acc r hp hr hk hf
    obtain ⟨g, rfl⟩ : ∃ g, fuel = g + 1 := ⟨fuel - 1, by omega⟩
    have hfresh : kv.1 ∉ acc.map (·.1) := by
      simp only [List.map_append, List.map_cons] at hk
      exact fun h => (List.nodup_append.1 hk).2.2 _ h _ (by simp) rfl
    have hv : readValue g ⟨' ' :: (fileText (lvl + 1) kv.2 ++ (gap lvl ++ '}' :: r)),
          p + 1 + (escaped kv.1.toList).length + 1 + 1⟩ =
        .ok (kv.2, ⟨gap lvl ++ '}' :: r, p + 1 + (escaped kv.1.toList).length + 1 + 1 + 1 +
          (fileText (lvl + 1) kv.2).length⟩) :=
      hr.after_blanks hp [' '] _ (by simp [isJsonBlank]) (by simp [memberText_eq] at hf ⊢; omega)
    simp only [membersText, List.flatMap_nil, List.nil_append, memberText_eq, List.cons_append,
      List.append_assoc] at hf ⊢
    rw [readMembers]
    simp only []
    rw [readText_escaped]
    simp only [List.nil_append, List.reverse_nil, String.ofList_toList,
      skip_solid _ (takeWhile_blank_cons ':' _ (by decide)), Cursor.advance, List.drop_succ_cons,
      List.drop_zero]
    rw [hv]
    simp [setMember_fresh _ hfresh,
      skip_blanks _ (gap_blank lvl) (takeWhile_blank_cons '}' r (by decide))]
    omega
  | cons kv' kvs ih =>
    intro kv fuel p acc r hp hr hk hf
    obtain ⟨hp', hr'⟩ := hkvs kv' (by simp)
    have hkvs' : ∀ kv ∈ kvs, kv.2.Plain ∧ ReadsBack kv.2 := fun kv h => hkvs kv (by simp [h])
    obtain ⟨g, rfl⟩ : ∃ g, fuel = g + 1 := ⟨fuel - 1, by omega⟩
    have hfresh : kv.1 ∉ acc.map (·.1) := by
      simp only [List.map_append, List.map_cons] at hk
      exact fun h => (List.nodup_append.1 hk).2.2 _ h _ (by simp) rfl
    obtain ⟨tail, ht⟩ : ∃ tail, memberText (lvl + 1) kv' = '"' :: tail := ⟨_, memberText_eq _ _⟩
    have hm : membersText (lvl + 1) (kv' :: kvs) =
        ',' :: (gap (lvl + 1) ++ (memberText (lvl + 1) kv' ++ membersText (lvl + 1) kvs)) := by
      simp [membersText]
    rw [hm] at hf ⊢
    simp only [memberText_eq (lvl + 1) kv, List.cons_append, List.append_assoc] at hf ⊢
    have hv : readValue g ⟨' ' :: (fileText (lvl + 1) kv.2 ++ (',' :: (gap (lvl + 1) ++
          (memberText (lvl + 1) kv' ++ (membersText (lvl + 1) kvs ++ (gap lvl ++ '}' :: r)))))),
          p + 1 + (escaped kv.1.toList).length + 1 + 1⟩ =
        .ok (kv.2, ⟨',' :: (gap (lvl + 1) ++ (memberText (lvl + 1) kv' ++
          (membersText (lvl + 1) kvs ++ (gap lvl ++ '}' :: r)))), p + 1 + (escaped kv.1.toList).length +
          1 + 1 + 1 + (fileText (lvl + 1) kv.2).length⟩) :=
      hr.after_blanks hp [' '] _ (by simp [isJsonBlank]) (by simp at hf ⊢; omega)
    rw [readMembers]
    simp only []
    rw [readText_escaped]
    simp only [List.nil_append, List.reverse_nil, String.ofList_toList,
      skip_solid _ (takeWhile_blank_cons ':' _ (by decide)), Cursor.advance, List.drop_succ_cons,
      List.drop_zero]
    rw [hv]
    simp only [setMember_fresh _ hfresh, skip_solid _ (takeWhile_blank_cons ',' _ (by decide)),
      List.drop_succ_cons, List.drop_zero]
    rw [skip_blanks _ (gap_blank (lvl + 1)) (by rw [ht, List.cons_append]; exact takeWhile_blank_cons '"' _ (by decide))]
    rw [ht]
    simp only [List.cons_append]
    rw [← List.cons_append, ← ht]
    rw [ih hkvs' kv' g _ (acc ++ [kv]) r hp' hr' (by simpa using hk) (by simp at hf ⊢; omega)]
    simp only [List.append_assoc, List.singleton_append, Except.ok.injEq, Prod.mk.injEq,
      Cursor.mk.injEq, true_and, List.length_cons, List.length_append]
    have hl : (memberText (lvl + 1) kv').length = tail.length + 1 := by rw [ht]; rfl
    omega

/-- Every plain value reads back from its text; the induction follows `Plain`, and the items and
members of a container are read by `readItems_file` and `readMembers_file`. -/
theorem readsBack_of_plain {v : Value} (hv : v.Plain) : ReadsBack v := by
  induction hv with
  | null =>
    intro lvl fuel p r hf
    obtain ⟨f, rfl⟩ : ∃ f, fuel = f + 1 := ⟨fuel - 1, by omega⟩
    rw [fileText_null, readValue]
    simp [Cursor.skip, Cursor.advance, isJsonBlank]
  | bool b =>
    intro lvl fuel p r hf
    obtain ⟨f, rfl⟩ : ∃ f, fuel = f + 1 := ⟨fuel - 1, by omega⟩
    rw [fileText_bool, readValue]
    cases b <;> simp [Cursor.skip, Cursor.advance, isJsonBlank]
  | str s =>
    intro lvl fuel p r hf
    obtain ⟨f, rfl⟩ : ∃ f, fuel = f + 1 := ⟨fuel - 1, by omega⟩
    rw [fileText_str]
    simp only [List.cons_append, List.append_assoc]
    rw [readValue, skip_solid _ (takeWhile_blank_cons '"' _ (by decide))]
    simp only []
    rw [readText_escaped]
    simp [Except.map]
    omega
  | @arr xs h ih =>
    intro lvl fuel p r hf
    obtain ⟨f, rfl⟩ : ∃ f, fuel = f + 1 := ⟨fuel - 1, by omega⟩
    cases xs with
    | nil =>
      rw [fileText_arr_nil, readValue]
      simp [Cursor.skip, Cursor.advance, isJsonBlank]
    | cons x xs =>
      obtain ⟨c, cs, hc, ho⟩ := fileText_head (h x (by simp)) (lvl + 1)
      have hxs : ∀ y ∈ xs, y.Plain ∧ ReadsBack y := fun y hy => ⟨h y (by simp [hy]), ih y (by simp [hy])⟩
      rw [fileText_arr_cons] at hf ⊢
      simp only [List.cons_append, List.append_assoc, List.nil_append] at hf ⊢
      rw [readValue, skip_solid _ (takeWhile_blank_cons '[' _ (by decide))]
      simp only [Cursor.advance, List.drop_succ_cons, List.drop_zero]
      rw [skip_blanks _ (gap_blank _) (fileText_solid (h x (by simp)) _ _)]
      rw [hc]
      split
      · next heq => exact absurd (List.cons.inj heq).1 (openers_facts c ho).2.1
      · have hi := @readItems_file lvl xs hxs x [] f (p + 1 + (gap (lvl + 1)).length) [] r (h x (by simp))
          (ih x (by simp)) (by simp) (by simp at hf ⊢; omega)
        rw [List.nil_append] at hi
        rw [← hc, hi]
        simp
        omega
  | @obj kvs hk h ih =>
    intro lvl fuel p r hf
    obtain ⟨f, rfl⟩ : ∃ f, fuel = f + 1 := ⟨fuel - 1, by omega⟩
    cases kvs with
    | nil =>
      rw [fileText_obj_nil, readValue]
      simp [Cursor.skip, Cursor.advance, isJsonBlank]
    | cons kv kvs =>
      have hkvs : ∀ kv' ∈ kvs, kv'.2.Plain ∧ ReadsBack kv'.2 :=
        fun kv' hm => ⟨h kv' (by simp [hm]), ih kv' (by simp [hm])⟩
      obtain ⟨tail, ht⟩ : ∃ tail, memberText (lvl + 1) kv = '"' :: tail := ⟨_, memberText_eq _ _⟩
      rw [fileText_obj_cons] at hf ⊢
      simp only [List.cons_append, List.append_assoc, List.nil_append] at hf ⊢
      rw [readValue, skip_solid _ (takeWhile_blank_cons '{' _ (by decide))]
      simp only [Cursor.advance, List.drop_succ_cons, List.drop_zero]
      rw [skip_blanks _ (gap_blank _) (by rw [ht, List.cons_append]; exact takeWhile_blank_cons '"' _ (by decide))]
      rw [ht]
      simp only [List.cons_append]
      rw [← List.cons_append, ← ht]
      rw [readMembers_file hkvs kv f _ [] r (h kv (by simp)) (ih kv (by simp)) (by simpa using hk)
        (by simp at hf ⊢; omega)]
      have hl : (memberText (lvl + 1) kv).length = tail.length + 1 := by rw [ht]; rfl
      simp
      omega

theorem read_write_file {v : Value} (hv : v.Plain) : read (Value.write .file v) = .ok v := by
  obtain ⟨c, cs, hc, ho⟩ := fileText_head hv 0
  have hb := readsBack_of_plain hv 0 ((fileText 0 v).length + 2) 0 [] (by omega)
  have hd : (Value.write .file v).toList = fileText 0 v := rfl
  have hh : (fileText 0 v).head? ≠ some (Char.ofNat 0xFEFF) := by
    rw [hc]; simpa using (openers_facts c ho).2.2
  rw [List.append_nil] at hb
  unfold read
  rw [hd, if_neg hh, hb]
  simp [Cursor.skip]

end Taskflow.Json
