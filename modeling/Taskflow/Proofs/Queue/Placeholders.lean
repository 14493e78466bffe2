import Taskflow.Queue.Preview
import Taskflow.Proofs.Time.Iso
import Taskflow.Proofs.Text.Replace
/-!
Filling a command's placeholders in one pass.
-/

namespace Taskflow.Queue

open Text

/-! ## One pass over a text -/

/-- The first entry of a table whose needle is not empty and starts the text. -/
def firstNeedle (table : List (List Char × List Char)) (s : List Char) :
    Option (List Char × List Char) :=
  table.find? fun e => !e.1.isEmpty && e.1.isPrefixOf s

/-- Fills a text in one pass from left to right: where a needle of the table starts, the value
of the first such entry replaces the needle and the pass resumes after it; elsewhere the
character stays. -/
def fillOnce (table : List (List Char × List Char)) : List Char → List Char
  | [] => []
  | c :: cs =>
    match firstNeedle table (c :: cs) with
    -- a needle is not empty: after `c` it takes `length - 1` more characters
    | some e => e.2 ++ fillOnce table (cs.drop (e.1.length - 1))
    | none => c :: fillOnce table cs
termination_by s => s.length
decreasing_by
  all_goals simp only [List.length_drop, List.length_cons]
  all_goals omega

section Pass

variable {table : List (List Char × List Char)}

theorem firstNeedle_some {s : List Char} {e : List Char × List Char}
    (h : firstNeedle table s = some e) : e ∈ table ∧ e.1 ≠ [] ∧ e.1 <+: s := by
  have hp := List.find?_some h
  simp only [Bool.and_eq_true, Bool.not_eq_true', List.isEmpty_eq_false_iff,
    List.isPrefixOf_iff_prefix] at hp
  exact ⟨List.mem_of_find?_eq_some h, hp.1, hp.2⟩

theorem firstNeedle_append_some {s : List Char} {e : List Char × List Char}
    (rest : List (List Char × List Char)) (h : firstNeedle table s = some e) :
    firstNeedle (table ++ rest) s = some e := by
  unfold firstNeedle at h ⊢
  rw [List.find?_append, h]
  rfl

theorem firstNeedle_append_none {s : List Char} (rest : List (List Char × List Char))
    (h : firstNeedle table s = none) : firstNeedle (table ++ rest) s = firstNeedle rest s := by
  unfold firstNeedle at h ⊢
  rw [List.find?_append, h]
  rfl

@[simp] theorem fillOnce_nil : fillOnce table [] = [] := by
  rw [fillOnce]

theorem fillOnce_of_some {c : Char} {cs : List Char} {e : List Char × List Char}
    (h : firstNeedle table (c :: cs) = some e) :
    fillOnce table (c :: cs) = e.2 ++ fillOnce table (cs.drop (e.1.length - 1)) := by
  rw [fillOnce, h]

theorem fillOnce_of_none {c : Char} {cs : List Char} (h : firstNeedle table (c :: cs) = none) :
    fillOnce table (c :: cs) = c :: fillOnce table cs := by
  rw [fillOnce, h]

@[simp] theorem fillOnce_empty (s : List Char) : fillOnce [] s = s := by
  induction s with
  | nil => exact fillOnce_nil
  | cons c cs ih => rw [fillOnce_of_none rfl, ih]

theorem head_eq_of_prefix_cons {n : List Char} {x c : Char} {cs : List Char} (hn : n.head? = some x)
    (hp : n <+: c :: cs) : x = c := by
  obtain ⟨b, rfl⟩ := List.head?_eq_some_iff.1 hn
  exact (List.cons_prefix_cons.1 hp).1

def Opens (table : List (List Char × List Char)) : Prop := ∀ e ∈ table, e.1.head? = some '<'

theorem fillOnce_append_of_open (ht : Opens table) {u : List Char} (hu : '<' ∉ u)
    (rest : List Char) : fillOnce table (u ++ rest) = u ++ fillOnce table rest := by
  induction u with
  | nil => rfl
  | cons c u ih =>
    have hc : c ≠ '<' := fun h => hu (h ▸ List.mem_cons_self)
    have hnone : firstNeedle table (c :: (u ++ rest)) = none := by
      cases h : firstNeedle table (c :: (u ++ rest)) with
      | none => rfl
      | some e =>
        obtain ⟨he, -, hp⟩ := firstNeedle_some h
        exact absurd (head_eq_of_prefix_cons (ht e he) hp).symm hc
    rw [List.cons_append, fillOnce_of_none hnone, ih fun h => hu (List.mem_cons_of_mem c h),
      List.cons_append]

/-- After a pass whose values are not empty and begin with characters `b` lacks, the text
starts with `b` only where it did before. -/
theorem prefix_of_prefix_fillOnce {b : List Char}
    (hv : ∀ e ∈ table, e.2 ≠ [] ∧ ∀ x ∈ e.2.head?, x ∉ b) {cs : List Char}
    (hb : b <+: fillOnce table cs) : b <+: cs := by
  induction cs generalizing b with
  | nil =>
    rw [fillOnce_nil, List.prefix_nil] at hb
    subst hb
    exact List.nil_prefix
  | cons c cs ih =>
    rcases b with _ | ⟨y, b⟩
    · exact List.nil_prefix
    cases h : firstNeedle table (c :: cs) with
    | some e =>
      -- the value's first character would be `y`, which the value may not begin with
      rw [fillOnce_of_some h] at hb
      obtain ⟨hne, hhead⟩ := hv e (firstNeedle_some h).1
      obtain ⟨x, xs, hx⟩ := List.exists_cons_of_ne_nil hne
      rw [hx, List.cons_append, List.cons_prefix_cons] at hb
      exact absurd (hb.1 ▸ List.mem_cons_self) (hhead x (by rw [hx]; rfl))
    | none =>
      rw [fillOnce_of_none h, List.cons_prefix_cons] at hb
      have hv' : ∀ e ∈ table, e.2 ≠ [] ∧ ∀ x ∈ e.2.head?, x ∉ b := fun e he =>
        ⟨(hv e he).1, fun x hx hxb => (hv e he).2 x hx (List.mem_cons_of_mem y hxb)⟩
      exact List.cons_prefix_cons.2 ⟨hb.1, ih hv' hb.2⟩

end Pass

/-! ## Replacing one needle -/

section Replace

/-- A stretch without the needle's first character is copied. -/
theorem replaceList_append_of_open {old : List Char} {x : Char} (hx : old.head? = some x)
    {u : List Char} (hu : x ∉ u) (new rest : List Char) :
    replaceList old new (u ++ rest) = u ++ replaceList old new rest := by
  induction u with
  | nil => rfl
  | cons c u ih =>
    have hc : ¬ old <+: c :: (u ++ rest) := fun hp =>
      hu (head_eq_of_prefix_cons hx hp ▸ List.mem_cons_self)
    rw [List.cons_append, replaceList_of_not_prefix hc, ih fun h => hu (List.mem_cons_of_mem c h),
      List.cons_append]

theorem mem_replaceList {old new s : List Char} {x : Char} (hx : x ∈ replaceList old new s) :
    x ∈ s ∨ x ∈ new := by
  fun_induction replaceList old new s with
  | case1 => simp at hx
  | case2 c cs h ih =>
    rcases List.mem_append.1 hx with hx | hx
    · exact .inr hx
    · exact (ih hx).imp_left fun h' => List.mem_of_mem_drop h'
  | case3 c cs h ih =>
    rcases List.mem_cons.1 hx with rfl | hx
    · exact .inl List.mem_cons_self
    · exact (ih hx).imp_left (List.mem_cons_of_mem c)

end Replace

/-! ## Replacing the needles in turn -/

section Turn

variable {table : List (List Char × List Char)}

/-- Replacing a needle `<` then `b` after a pass: the needle is found only where the text held
it, never inside or against a value, so the replacement is the pass with the needle's entry
added last. -/
theorem replaceList_fillOnce {b : List Char} (hb : '<' ∉ b) (v : List Char) (ht : Opens table)
    (hv : ∀ e ∈ table, '<' ∉ e.2 ∧ e.2 ≠ [] ∧ ∀ x ∈ e.2.head?, x ∉ b) :
    ∀ s, replaceList ('<' :: b) v (fillOnce table s) = fillOnce (table ++ [('<' :: b, v)]) s
  | [] => by rw [fillOnce_nil, fillOnce_nil, replaceList_nil]
  | c :: cs => by
    cases h : firstNeedle table (c :: cs) with
    | some e =>
      -- an earlier needle starts here: its value holds no `<`, so it is copied
      have he := (firstNeedle_some h).1
      rw [fillOnce_of_some h, fillOnce_of_some (firstNeedle_append_some _ h),
        replaceList_append_of_open rfl (hv e he).1,
        replaceList_fillOnce hb v ht hv (cs.drop (e.1.length - 1))]
    | none =>
      have hlast := firstNeedle_append_none [('<' :: b, v)] h
      rw [fillOnce_of_none h]
      by_cases hp : ('<' :: b) <+: c :: cs
      · -- the needle starts here and its `b` is copied by the pass
        obtain ⟨hc, r, hr⟩ : c = '<' ∧ ∃ r, b ++ r = cs := by
          obtain ⟨hc, hbcs⟩ := List.cons_prefix_cons.1 hp
          exact ⟨hc.symm, hbcs⟩
        have hlen : r.length ≤ cs.length := by
          rw [← hr, List.length_append]
          omega
        subst hc
        have hbcs : b <+: cs := (List.cons_prefix_cons.1 hp).2
        have hnew : firstNeedle [('<' :: b, v)] ('<' :: cs) = some ('<' :: b, v) := by
          simp [firstNeedle, List.isPrefixOf_iff_prefix, hbcs]
        rw [fillOnce_of_some (hlast.trans hnew), ← hr, fillOnce_append_of_open ht hb,
          ← List.cons_append, replaceList_of_prefix (List.cons_ne_nil _ _), List.length_cons,
          Nat.add_sub_cancel, List.drop_left, replaceList_fillOnce hb v ht hv r]
      · have hnone : firstNeedle [('<' :: b, v)] (c :: cs) = none := by
          simp [firstNeedle, List.isPrefixOf_iff_prefix, hp]
        have hq : ¬ ('<' :: b) <+: c :: fillOnce table cs := fun hq => by
          obtain ⟨hc, hbq⟩ := List.cons_prefix_cons.1 hq
          have hvb : ∀ e ∈ table, e.2 ≠ [] ∧ ∀ x ∈ e.2.head?, x ∉ b := fun e he =>
            ⟨(hv e he).2.1, (hv e he).2.2⟩
          exact hp (List.cons_prefix_cons.2 ⟨hc, prefix_of_prefix_fillOnce hvb hbq⟩)
        rw [fillOnce_of_none (hlast.trans hnone), replaceList_of_not_prefix hq,
          replaceList_fillOnce hb v ht hv cs]
termination_by s => s.length
decreasing_by
  all_goals simp only [List.length_drop, List.length_cons]
  all_goals omega

/-- A table filled in turn as in one pass: every needle is `<` followed by characters other
than `<`, and every value is not empty, holds no `<` and begins with a character that no needle
holds. -/
structure Separated (table : List (List Char × List Char)) : Prop where
  needle : ∀ e ∈ table, ∃ b, e.1 = '<' :: b ∧ '<' ∉ b
  value : ∀ e ∈ table, '<' ∉ e.2 ∧ e.2 ≠ [] ∧ ∀ x ∈ e.2.head?, ∀ f ∈ table, x ∉ f.1

theorem Separated.opens (h : Separated table) : Opens table := fun e he => by
  obtain ⟨b, hb, -⟩ := h.needle e he
  rw [hb]
  rfl

theorem Separated.left {rest : List (List Char × List Char)} (h : Separated (table ++ rest)) :
    Separated table where
  needle e he := h.needle e (List.mem_append_left _ he)
  value e he := by
    obtain ⟨h1, h2, h3⟩ := h.value e (List.mem_append_left _ he)
    exact ⟨h1, h2, fun x hx f hf => h3 x hx f (List.mem_append_left _ hf)⟩

/-- Replacing the needles of a separated table one after another, each in the text the
earlier ones left, fills the text in one pass. -/
theorem foldl_replaceList_eq_fillOnce (h : Separated table) (s : List Char) :
    table.foldl (fun s e => replaceList e.1 e.2 s) s = fillOnce table s := by
  induction table using List.reverseRecOn with
  | nil => exact (fillOnce_empty s).symm
  | append_singleton t e ih =>
    obtain ⟨b, hb, hnb⟩ := h.needle e (List.mem_append_right _ List.mem_cons_self)
    -- the values before the last entry begin with characters its needle lacks
    have hv : ∀ f ∈ t, '<' ∉ f.2 ∧ f.2 ≠ [] ∧ ∀ x ∈ f.2.head?, x ∉ b := fun f hf => by
      obtain ⟨h1, h2, h3⟩ := h.value f (List.mem_append_left _ hf)
      refine ⟨h1, h2, fun x hx hxb => h3 x hx e (List.mem_append_right _ List.mem_cons_self) ?_⟩
      rw [hb]
      exact List.mem_cons_of_mem '<' hxb
    rw [List.foldl_append, List.foldl_cons, List.foldl_nil, ih h.left]
    obtain ⟨n, v⟩ := e
    dsimp only at hb ⊢
    subst hb
    exact replaceList_fillOnce hnb v h.left.opens hv s

end Turn

/-! ## The command's placeholders -/

/-- The placeholders of a command and their values, in the order they are filled: the task id
four ways, the phase two ways, and the command's number two ways when one is given. -/
def placeholders (taskId phase : String) (sub : Option String) : List (String × String) :=
  [("<task_id ReplaceAll>", taskId), ("<task_id Replace All>", taskId), ("<task_id>", taskId),
    ("<TASK_ID>", taskId), ("<PHASE_INDEX>", phase), ("<phase_index>", phase)] ++
  match sub with
  | some n => [("<SUB_INDEX>", n), ("<sub_index>", n)]
  | none => []

def charTable (ps : List (String × String)) : List (List Char × List Char) :=
  ps.map fun p => (p.1.toList, p.2.toList)

theorem fillPlaceholders_eq (command taskId phase : String) (sub : Option String) :
    fillPlaceholders command taskId phase sub =
      (placeholders taskId phase sub).foldl (fun c p => Text.replace c p.1 p.2) command := by
  cases sub <;> rfl

theorem foldl_replace (ps : List (String × String)) (s : String) :
    ps.foldl (fun c p => Text.replace c p.1 p.2) s =
      String.ofList ((charTable ps).foldl (fun s e => replaceList e.1 e.2 s) s.toList) := by
  induction ps generalizing s with
  | nil => simp [charTable]
  | cons p ps ih =>
    rw [List.foldl_cons, ih]
    simp only [charTable, List.map_cons, List.foldl_cons, Text.replace, String.toList_ofList]

/-- The names of the placeholders. -/
def placeholderNames : List String :=
  ["<task_id ReplaceAll>", "<task_id Replace All>", "<task_id>", "<TASK_ID>", "<PHASE_INDEX>",
    "<phase_index>", "<SUB_INDEX>", "<sub_index>"]

/-- Whether a name is `<` followed by characters that are neither `<`, a digit nor `-`. -/
def plainName (n : List Char) : Bool :=
  n.head? == some '<' && n.tail.all fun x => x != '<' && !x.isDigit && x != '-'

theorem plainName_names : placeholderNames.all (fun n => plainName n.toList) = true := by
  decide +kernel

theorem eq_of_plainName {n : List Char} (h : plainName n = true) :
    ∃ b, n = '<' :: b ∧ ∀ x ∈ b, x ≠ '<' ∧ ¬ x.isDigit ∧ x ≠ '-' := by
  simp only [plainName, Bool.and_eq_true, beq_iff_eq] at h
  obtain ⟨b, rfl⟩ := List.head?_eq_some_iff.1 h.1
  refine ⟨b, rfl, fun x hx => ?_⟩
  have hx' := List.all_eq_true.1 h.2 x hx
  simpa [and_assoc] using hx'

theorem mem_placeholderNames {taskId phase : String} {sub : Option String}
    {e : String × String} (he : e ∈ placeholders taskId phase sub) : e.1 ∈ placeholderNames := by
  cases sub <;>
    simp only [placeholders, List.cons_append, List.nil_append, List.append_nil, List.mem_cons,
      List.not_mem_nil, or_false] at he <;>
    rcases he with rfl | rfl | rfl | rfl | rfl | rfl | rfl | rfl <;> simp [placeholderNames]

theorem mem_placeholder_values {taskId phase : String} {sub : Option String}
    {e : String × String} (he : e ∈ placeholders taskId phase sub) :
    e.2 = taskId ∨ e.2 = phase ∨ ∃ n ∈ sub, e.2 = n := by
  cases sub <;>
    simp only [placeholders, List.cons_append, List.nil_append, List.append_nil, List.mem_cons,
      List.not_mem_nil, or_false] at he <;>
    rcases he with rfl | rfl | rfl | rfl | rfl | rfl | rfl | rfl <;> simp

/-- A value that can take no part in a placeholder: not empty, without `<`, and beginning with
a digit or `-`. -/
structure Inert (v : List Char) : Prop where
  ne_nil : v ≠ []
  no_open : '<' ∉ v
  head : ∀ x ∈ v.head?, x.isDigit ∨ x = '-'

/-- With inert values the placeholders are filled in turn as in one pass. -/
theorem separated_placeholders {taskId phase : String} {sub : Option String}
    (hid : Inert taskId.toList) (hph : Inert phase.toList) (hsub : ∀ n ∈ sub, Inert n.toList) :
    Separated (charTable (placeholders taskId phase sub)) := by
  have hname : ∀ f ∈ charTable (placeholders taskId phase sub),
      ∃ b, f.1 = '<' :: b ∧ ∀ x ∈ b, x ≠ '<' ∧ ¬ x.isDigit ∧ x ≠ '-' := by
    intro f hf
    obtain ⟨e, he, rfl⟩ := List.mem_map.1 hf
    exact eq_of_plainName (List.all_eq_true.1 plainName_names e.1 (mem_placeholderNames he))
  have hinert : ∀ f ∈ charTable (placeholders taskId phase sub), Inert f.2 := by
    intro f hf
    obtain ⟨e, he, rfl⟩ := List.mem_map.1 hf
    rcases mem_placeholder_values he with h | h | ⟨n, hn, h⟩ <;> dsimp only <;> rw [h]
    · exact hid
    · exact hph
    · exact hsub n hn
  refine ⟨fun f hf => ?_, fun f hf => ?_⟩
  · obtain ⟨b, hb, hx⟩ := hname f hf
    exact ⟨b, hb, fun h => (hx '<' h).1 rfl⟩
  · obtain ⟨hne, hopen, hhead⟩ := hinert f hf
    refine ⟨hopen, hne, fun x hx g hg hxg => ?_⟩
    obtain ⟨b, hb, hbx⟩ := hname g hg
    rw [hb] at hxg
    rcases List.mem_cons.1 hxg with rfl | hxb
    · rcases hhead '<' hx with h | h <;> simp at h
    · rcases hhead x hx with h | h
      · exact (hbx x hxb).2.1 h
      · exact (hbx x hxb).2.2 h

theorem inert_toString_int (i : Int) : Inert (toString i).toList := by
  have hdigits : ∀ m : Nat, ∀ x ∈ (Nat.repr m).toList, x.isDigit := fun m x hx => by
    rw [Nat.toList_repr] at hx
    exact Nat.isDigit_of_mem_toDigits (by decide) (by decide) hx
  have hopen : ∀ m : Nat, '<' ∉ (Nat.repr m).toList := fun m h => by
    have := hdigits m '<' h
    simp at this
  have hne : ∀ m : Nat, (Nat.repr m).toList ≠ [] := fun m => by
    rw [Nat.toList_repr]
    exact Nat.toDigits_ne_nil
  cases i with
  | ofNat m =>
    show Inert (Nat.repr m).toList
    refine ⟨hne m, hopen m, fun x hx => .inl (hdigits m x (List.mem_of_mem_head? hx))⟩
  | negSucc m =>
    show Inert ("-" ++ Nat.repr (m + 1)).toList
    rw [String.toList_append]
    refine ⟨by simp, ?_, fun x hx => .inr (by simp at hx; exact hx.symm)⟩
    simpa using hopen (m + 1)

/-- An identifier the store makes from a description without `<` is inert: it begins with the
year's first digit, and its other characters are digits, `T`, `_` or the description's. -/
theorem inert_newId (stamp : Time.Civil) {d : String} (hd : '<' ∉ d.toList) :
    Inert (newId stamp d).toList := by
  have hstr : ∀ s : String, toString s = s := fun _ => rfl
  have hyear : (toString stamp.year).toList = Nat.toDigits 10 stamp.year := by
    rw [Nat.toString_eq_ofList_toDigits, String.toList_ofList]
  obtain ⟨y, ys, hy⟩ := List.exists_cons_of_ne_nil (@Nat.toDigits_ne_nil stamp.year 10)
  have hdigit : ∀ x ∈ Nat.toDigits 10 stamp.year, x.isDigit := fun x hx =>
    Nat.isDigit_of_mem_toDigits (by decide) (by decide) hx
  have hhead : (newId stamp d).toList.head? = some y := by
    simp only [newId, Time.Civil.compact, String.toList_append, hyear, hy, List.cons_append,
      List.head?_cons]
  have hnd : ('<' : Char).isDigit = false := by decide
  refine ⟨fun h => by simp [h] at hhead, fun hx => ?_, fun x hx => ?_⟩
  · simp only [newId, Time.Civil.compact, String.toList_append, List.mem_append, hstr] at hx
    rcases hx with ((((((((hx | hx) | hx) | hx) | hx) | hx) | hx) | hx) | hx)
    · rw [hyear] at hx
      exact absurd (hdigit _ hx) (by rw [hnd]; decide)
    · exact absurd (Time.isDigit_of_mem_pad hx) (by rw [hnd]; decide)
    · exact absurd (Time.isDigit_of_mem_pad hx) (by rw [hnd]; decide)
    · simp at hx
    · exact absurd (Time.isDigit_of_mem_pad hx) (by rw [hnd]; decide)
    · exact absurd (Time.isDigit_of_mem_pad hx) (by rw [hnd]; decide)
    · exact absurd (Time.isDigit_of_mem_pad hx) (by rw [hnd]; decide)
    · simp at hx
    · simp only [Text.take, Text.replace, String.toList_ofList] at hx
      rcases mem_replaceList (List.mem_of_mem_take hx) with h | h
      · exact hd h
      · simp at h
  · rw [hhead, Option.mem_some_iff] at hx
    subst hx
    exact .inl (hdigit y (hy ▸ List.mem_cons_self))

/-- Every identifier the store makes from a description without `<`, with any phase and any
command number, has its placeholders filled as in one pass: each placeholder of the command is
replaced by its value, and no value is read again. -/
theorem fillPlaceholders_one_pass (stamp : Time.Civil) {d : String} (hd : '<' ∉ d.toList)
    (command : String) (phase : Int) (sub : Option Int) :
    fillPlaceholders command (newId stamp d) (toString phase) (sub.map toString) =
      String.ofList (fillOnce (charTable (placeholders (newId stamp d) (toString phase)
        (sub.map toString))) command.toList) := by
  rw [fillPlaceholders_eq, foldl_replace, foldl_replaceList_eq_fillOnce]
  refine separated_placeholders (inert_newId stamp hd) (inert_toString_int phase) fun n hn => ?_
  cases sub with
  | none => simp at hn
  | some i =>
    rw [Option.map_some, Option.mem_some_iff] at hn
    rw [← hn]
    exact inert_toString_int i

/-- The identifier of `write docs` is filled in one pass; an identifier holding
`<PHASE_INDEX>` is filled again, as its description does not meet the theorem's condition. -/
theorem fillPlaceholders_one_pass_write_docs :
    '<' ∉ "write docs".toList ∧
      fillPlaceholders "cd <task_id> && make <PHASE_INDEX>.<sub_index>"
          (newId { year := 2025, month := 1, day := 15, hour := 20 } "write docs") (toString (3 : Int))
          ((some (2 : Int)).map toString) =
        String.ofList (fillOnce (charTable (placeholders
          (newId { year := 2025, month := 1, day := 15, hour := 20 } "write docs") (toString (3 : Int))
          ((some (2 : Int)).map toString))) "cd <task_id> && make <PHASE_INDEX>.<sub_index>".toList) ∧
      fillPlaceholders "echo <task_id>" "20250115T200000_<PHASE_INDEX>" "0" none =
        "echo 20250115T200000_0" :=
  ⟨by decide, fillPlaceholders_one_pass _ (by decide) _ _ _, by decide +kernel⟩

end Taskflow.Queue
