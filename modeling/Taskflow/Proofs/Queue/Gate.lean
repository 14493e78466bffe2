import Taskflow.Proofs.Queue.Edits
import Taskflow.Proofs.Command.Args
import Mathlib
/-!
The deep analysis gate, and the todo it guards.
-/

namespace Taskflow.Queue

open Json Workspace Command

/-! ## What the gate asks -/

/-- The analysis linked to an execution task: the first entry whose `source_task_id` is the
task's id, else the first whose id starts with the task's id and `_analysis_`. -/
def linkedAnalysis (entries : List Value) (id : Value) : Option Value :=
  (entries.find? fun a => (a.getD "source_task_id" .null).same id).or
    (entries.find? fun a =>
      Text.startsWith (a.getD "id" (.str "")).display (id.display ++ "_analysis_"))

/-- The check of a phase that holds the gate. -/
inductive Hold where
  | notDone
  | missingSections
  | blocking
  deriving DecidableEq, Repr

/-- The gate's message for the phase at position `i` failing a check. -/
def Hold.message (i : Nat) : Hold → String
  | .notDone => s!"Analysis phase {i} not done."
  | .missingSections => s!"Analysis phase {i} missing 'Decision Gate' or 'IMPORTANT NOTE:'."
  | .blocking => s!"Analysis phase {i} contains blocking Findings (Conflict/Duplicate)."

/-- A phase's text, empty when it has none. -/
def phaseText (td : Value) : String :=
  match td.getD "text" (.str "") with
  | .str s => s
  | _ => ""

/-- A text names a blocking finding: `Type:`, blanks, then Conflict or Duplicate, in any case. -/
def namesBlocking (s : String) : Bool :=
  Text.Pattern.test .caseless (blockingPattern "Conflict") s ||
    Text.Pattern.test .caseless (blockingPattern "Duplicate") s

/-- The first check a phase fails, in the gate's order: done, both sections, no blocking
finding. -/
def phaseHold (td : Value) : Option Hold :=
  if !(td.getD "done" .null).truthy then some .notDone
  else if !(Text.has (phaseText td) "IMPORTANT NOTE:" && Text.has (phaseText td) "Decision Gate")
    then some .missingSections
  else if namesBlocking (phaseText td) then some .blocking
  else none

/-- The first phase that fails a check, counting positions from `i`, with the check. -/
def firstHold (phases : List Value) (i : Nat) : Option (Nat × Hold) :=
  (phases.zipIdx i).findSome? fun p => (phaseHold p.1).map (p.2, ·)

/-- The gate's answer on the entries of an analysis file. -/
def gateAnswer (entries : List Value) (id : Value) : Bool × String :=
  match linkedAnalysis entries id with
  | none => (false,
      "No analysis found in analysis_active.json for this execution task (missing source_task_id link).")
  | some a =>
    match a.getD "todos" (.arr []) with
    | .arr (td :: tds) =>
      match firstHold (td :: tds) 0 with
      | some (i, h) => (false, h.message i)
      | none => (true, "Deep Analysis Gate passed.")
    | _ => (false, "Analysis task has no phases.")

theorem firstHold_nil (i : Nat) : firstHold [] i = none := rfl

theorem firstHold_cons (td : Value) (tds : List Value) (i : Nat) :
    firstHold (td :: tds) i = match phaseHold td with
      | some h => some (i, h)
      | none => firstHold tds (i + 1) := by
  simp only [firstHold, List.zipIdx_cons, List.findSome?_cons]
  cases phaseHold td <;> rfl

/-- The first failing phase fails its check, and every phase before it passes them all. -/
theorem firstHold_eq_some {phases : List Value} {i j : Nat} {h : Hold}
    (hf : firstHold phases i = some (j, h)) :
    ∃ pre td post, phases = pre ++ td :: post ∧ j = i + pre.length ∧ phaseHold td = some h ∧
      ∀ td' ∈ pre, phaseHold td' = none := by
  induction phases generalizing i with
  | nil => cases hf
  | cons td tds ih =>
    rw [firstHold_cons] at hf
    cases hp : phaseHold td with
    | some h' =>
      rw [hp] at hf
      cases hf
      exact ⟨[], td, tds, rfl, rfl, hp, fun _ h => nomatch h⟩
    | none =>
      rw [hp] at hf
      obtain ⟨pre, td', post, rfl, rfl, hh, hpre⟩ := ih hf
      refine ⟨td :: pre, td', post, rfl, by simp only [List.length_cons]; omega, hh, ?_⟩
      intro t ht
      rcases List.mem_cons.1 ht with rfl | ht
      · exact hp
      · exact hpre t ht

theorem firstHold_eq_none {phases : List Value} {i : Nat} :
    firstHold phases i = none ↔ ∀ td ∈ phases, phaseHold td = none := by
  induction phases generalizing i with
  | nil => simp [firstHold_nil]
  | cons td tds ih =>
    rw [firstHold_cons]
    cases hp : phaseHold td with
    | some h => simp [hp]
    | none => simp [hp, ih]

/-- A phase that fails a check after phases that pass them all is the first that fails. -/
theorem firstHold_prefix {pre post : List Value} {td : Value} {h : Hold} (i : Nat)
    (hpre : ∀ td' ∈ pre, phaseHold td' = none) (hh : phaseHold td = some h) :
    firstHold (pre ++ td :: post) i = some (i + pre.length, h) := by
  induction pre generalizing i with
  | nil => rw [List.nil_append, firstHold_cons, hh]; rfl
  | cons td' pre ih =>
    rw [List.cons_append, firstHold_cons, hpre td' List.mem_cons_self]
    dsimp only
    rw [ih (i + 1) fun t ht => hpre t (List.mem_cons_of_mem _ ht), List.length_cons]
    congr 2
    omega

/-- The gate passes exactly when the linked analysis has phases and every phase passes every
check. -/
theorem gateAnswer_passes_iff (entries : List Value) (id : Value) :
    (gateAnswer entries id).1 = true ↔ ∃ a tds, linkedAnalysis entries id = some a ∧
      a.getD "todos" (.arr []) = .arr tds ∧ tds ≠ [] ∧ ∀ td ∈ tds, phaseHold td = none := by
  unfold gateAnswer
  cases hl : linkedAnalysis entries id with
  | none => simp
  | some a =>
    dsimp only
    split
    · next td tds htodos =>
      cases hf : firstHold (td :: tds) 0 with
      | some p =>
        -- a phase fails, so not every phase passes
        obtain ⟨j, h⟩ := p
        obtain ⟨pre, td', post, hsplit, -, hh, -⟩ := firstHold_eq_some hf
        refine ⟨fun h => absurd h Bool.false_ne_true, ?_⟩
        rintro ⟨a', tds', ha', htd, -, hall⟩
        cases ha'
        rw [htodos] at htd
        cases htd
        rw [hall td' (hsplit ▸ List.mem_append_right pre List.mem_cons_self)] at hh
        cases hh
      | none =>
        exact ⟨fun _ => ⟨a, td :: tds, rfl, htodos, List.cons_ne_nil _ _, firstHold_eq_none.1 hf⟩,
          fun _ => rfl⟩
    · next hno =>
      refine ⟨fun h => absurd h Bool.false_ne_true, ?_⟩
      rintro ⟨a', tds, ha', htd, hne, -⟩
      cases ha'
      obtain ⟨td, tds', rfl⟩ := List.exists_cons_of_ne_nil hne
      exact (hno td tds' htd).elim

/-- When a phase fails, the answer names the first failing phase and the first check it fails. -/
theorem gateAnswer_first_hold {entries : List Value} {id a td : Value} {pre post : List Value}
    {h : Hold} (hl : linkedAnalysis entries id = some a)
    (ht : a.getD "todos" (.arr []) = .arr (pre ++ td :: post))
    (hpre : ∀ td' ∈ pre, phaseHold td' = none) (hh : phaseHold td = some h) :
    gateAnswer entries id = (false, h.message pre.length) := by
  obtain ⟨td₀, tds, hp⟩ := List.exists_cons_of_ne_nil (List.append_ne_nil_of_right_ne_nil pre
    (List.cons_ne_nil td post))
  unfold gateAnswer
  rw [hl]
  dsimp only
  rw [ht, hp]
  dsimp only
  rw [← hp, firstHold_prefix 0 hpre hh, Nat.zero_add]

/-! ## The search for the linked analysis -/

theorem lookup_obj (kvs : List (String × Value)) (k : String) (d : Value) :
    (Value.obj kvs).lookup k d = .ok ((Value.obj kvs).getD k d) := rfl

theorem ok_bind {ε α β : Type} (v : α) (f : α → Except ε β) : (Except.ok v >>= f) = f v := rfl

theorem eq_obj_of_isObj {v : Value} (h : v.isObj = true) : ∃ kvs, v = .obj kvs := by
  cases v <;> simp_all [Value.isObj]

theorem getD_of_not_obj {v : Value} (h : v.isObj = false) (k : String) (d : Value) :
    v.getD k d = d := by
  cases v <;> simp_all [Value.isObj, Value.getD, Value.get?]

theorem lookup_of_not_obj {v : Value} (h : v.isObj = false) (k : String) (d : Value) :
    ∃ e, v.lookup k d = .error e := by
  cases v <;> simp_all [Value.isObj, Value.lookup]

section Search

variable (k : String) (d : Value) (P : Value → Bool)

/-- The loop that returns the first entry whose member `k` passes `P`, reading the member with
a lookup that faults on an entry that is not an object. -/
abbrev searchLoop (entries : List Value) : Except Fault (Option (Option Value) × Unit) :=
  forIn entries ((none : Option (Option Value)), ()) (fun a _ => do
    let v ← a.lookup k d
    if P v = true then pure (ForInStep.done (some (some a), ()))
    else pure (ForInStep.yield (none, ())))

/-- The entries the search reads before it stops. -/
abbrev searched (entries : List Value) : List Value :=
  entries.takeWhile fun a => !P (a.getD k d)

/-- A search whose entries read are objects finds the first entry whose member passes. -/
theorem searchLoop_eq {entries : List Value} (hd : P d = false)
    (hobj : ∀ a ∈ searched k d P entries, a.isObj = true) :
    searchLoop k d P entries = .ok ((entries.find? fun a => P (a.getD k d)).map some, ()) := by
  induction entries with
  | nil => rfl
  | cons a rest ih =>
    by_cases hp : P (a.getD k d) = true
    · -- an entry that passes is an object, since a missing member reads as `d`
      have ha : a.isObj = true := by
        cases h : a.isObj
        · rw [getD_of_not_obj h, hd] at hp
          cases hp
        · rfl
      obtain ⟨kvs, rfl⟩ := eq_obj_of_isObj ha
      simp only [searchLoop, List.forIn_cons, lookup_obj, ok_bind, hp, ↓reduceIte, pure_bind,
        List.find?_cons]
      rfl
    · have ha : a.isObj = true := hobj a (by simp [searched, hp])
      obtain ⟨kvs, rfl⟩ := eq_obj_of_isObj ha
      have hp' : P ((Value.obj kvs).getD k d) = false := by simpa using hp
      have hrest : ∀ a' ∈ searched k d P rest, a'.isObj = true := fun a' h' =>
        hobj a' (by
          simp only [searched, List.takeWhile_cons, hp', Bool.not_false, ↓reduceIte]
          exact List.mem_cons_of_mem _ h')
      simp only [searchLoop, List.forIn_cons, lookup_obj, ok_bind, hp, Bool.false_eq_true,
        ↓reduceIte, pure_bind]
      simp only [searchLoop] at ih
      rw [ih hrest]
      simp only [List.find?_cons, hp']

/-- A search that ends finds the first entry whose member passes. -/
theorem searchLoop_ok {entries : List Value} {r : Option (Option Value) × Unit}
    (h : searchLoop k d P entries = .ok r) :
    r = ((entries.find? fun a => P (a.getD k d)).map some, ()) := by
  induction entries with
  | nil => exact (Except.ok.inj h).symm
  | cons a rest ih =>
    cases ha : a.isObj
    · obtain ⟨e, he⟩ := lookup_of_not_obj ha k d
      simp [searchLoop, List.forIn_cons, he, bind, Except.bind] at h
    · obtain ⟨kvs, rfl⟩ := eq_obj_of_isObj ha
      by_cases hp : P ((Value.obj kvs).getD k d) = true
      · simp only [searchLoop, List.forIn_cons, lookup_obj, ok_bind, hp, ↓reduceIte, pure_bind] at h
        simp only [List.find?_cons, hp]
        exact (Except.ok.inj h).symm
      · simp only [searchLoop, List.forIn_cons, lookup_obj, ok_bind, hp, Bool.false_eq_true,
          ↓reduceIte, pure_bind] at h
        have hp' : P ((Value.obj kvs).getD k d) = false := by simpa using hp
        simp only [List.find?_cons, hp']
        exact ih h

end Search

theorem same_str_null (id : String) : Value.null.same (.str id) = false := rfl

theorem startsWith_empty_link (id : String) : Text.startsWith "" (id ++ "_analysis_") = false := by
  cases h : (id ++ "_analysis_").toList with
  | nil => simp at h
  | cons c cs => simp [Text.startsWith, h]

/-- Entries are read up to the first linked by `source_task_id`, or all of them. -/
abbrev sourceSearched (entries : List Value) (id : String) : List Value :=
  searched "source_task_id" .null (fun v => v.same (.str id)) entries

theorem findAnalysis_ok {entries : List Value} {id : String} {r : Option Value}
    (h : findAnalysis entries (.str id) = .ok r) : r = linkedAnalysis entries (.str id) := by
  unfold findAnalysis at h
  obtain ⟨s, hs, h⟩ := bind_eq_ok.1 h
  rw [searchLoop_ok _ _ _ hs] at h
  unfold linkedAnalysis
  cases hfirst : entries.find? fun a => (a.getD "source_task_id" .null).same (.str id) with
  | some a =>
    rw [hfirst] at h
    exact (Except.ok.inj h).symm
  | none =>
    rw [hfirst] at h
    obtain ⟨s', hs', h⟩ := bind_eq_ok.1 h
    rw [searchLoop_ok _ _ _ hs'] at h
    simp only [Option.none_or]
    cases hsecond : entries.find? fun a =>
      Text.startsWith (a.getD "id" (.str "")).display ((Value.str id).display ++ "_analysis_") <;>
      · rw [hsecond] at h
        exact (Except.ok.inj h).symm

theorem findAnalysis_eq {entries : List Value} {id : String}
    (hobj : ∀ a ∈ sourceSearched entries id, a.isObj = true) :
    findAnalysis entries (.str id) = .ok (linkedAnalysis entries (.str id)) := by
  unfold findAnalysis linkedAnalysis
  have hsource := searchLoop_eq "source_task_id" .null (fun v => v.same (.str id)) (same_str_null id) hobj
  simp only [searchLoop] at hsource
  rw [hsource, ok_bind]
  cases hfirst : entries.find? fun a => (a.getD "source_task_id" .null).same (.str id) with
  | some a => rfl
  | none =>
    -- nothing is linked by source, so the first search read every entry
    have hall : ∀ a ∈ entries, a.isObj = true := fun a ha => hobj a (by
      rw [sourceSearched, searched, List.takeWhile_eq_self_iff.2 fun b hb => by
        simpa using List.find?_eq_none.1 hfirst b hb]
      exact ha)
    have hid := searchLoop_eq "id" (.str "")
      (fun v => Text.startsWith v.display ((Value.str id).display ++ "_analysis_"))
      (startsWith_empty_link id) fun a ha => hall a ((List.takeWhile_sublist _).subset ha)
    simp only [searchLoop] at hid
    dsimp only
    rw [hid, ok_bind]
    cases entries.find? fun a =>
      Text.startsWith (a.getD "id" (.str "")).display ((Value.str id).display ++ "_analysis_") <;> rfl

theorem linkedAnalysis_isObj {entries : List Value} {id : String} {a : Value}
    (h : linkedAnalysis entries (.str id) = some a) : a.isObj = true := by
  cases ha : a.isObj
  · unfold linkedAnalysis at h
    rcases Option.or_eq_some_iff.1 h with h | ⟨-, h⟩
    · have := List.find?_some h
      rw [getD_of_not_obj ha] at this
      cases this
    · have := List.find?_some h
      rw [getD_of_not_obj ha] at this
      simp [Value.display, Text.startsWith] at this
  · rfl

/-! ## The loop over phases -/

/-- What one phase does to the gate's loop at position `i`: stop with the check it fails, or
go on to the next position. -/
def phaseStep (td : Value) (i : Nat) : ForInStep (Option (Bool × String) × Nat) :=
  match phaseHold td with
  | some h => .done (some (false, h.message i), i)
  | none => .yield (none, i + 1)

/-- One round of the gate's loop, as the gate runs it on the phase at position `i`. -/
def phaseRun (td : Value) (i : Nat) : Except Fault (ForInStep (Option (Bool × String) × Nat)) := do
  let txt ← td.lookup "text" (.str "")
  if !(← td.lookup "done" .null).truthy then return .done (some (false, Hold.message i .notDone), i)
  if !(← hasSections txt) then return .done (some (false, Hold.message i .missingSections), i)
  if ← hasBlocking txt then return .done (some (false, Hold.message i .blocking), i)
  return .yield (none, i + 1)

section Loop

variable {f : Value → Option (Bool × String) × Nat → Except Fault (ForInStep (Option (Bool × String) × Nat))}

/-- The gate's answer from its loop: the first failing phase's message, or none. -/
abbrev holdAnswer (phases : List Value) (i : Nat) : Option (Bool × String) :=
  (firstHold phases i).map fun p => (false, p.2.message p.1)

/-- A loop whose rounds, when they end, end as `phaseStep` says, ends with the first failing
phase's message. -/
theorem phaseLoop_ok (hf : ∀ td i r, f td (none, i) = .ok r → r = phaseStep td i) :
    ∀ (phases : List Value) (i : Nat) (s : Option (Bool × String) × Nat),
      forIn phases (none, i) f = .ok s → s.1 = holdAnswer phases i
  | [], i, s, h => by
    cases h
    rfl
  | td :: tds, i, s, h => by
    rw [List.forIn_cons] at h
    obtain ⟨r, hr, h⟩ := bind_eq_ok.1 h
    rw [hf td i r hr] at h
    unfold phaseStep at h
    cases hp : phaseHold td with
    | some hold =>
      rw [hp] at h
      cases h
      simp only [holdAnswer, firstHold_cons, hp, Option.map_some]
    | none =>
      rw [hp] at h
      rw [phaseLoop_ok hf tds (i + 1) s h]
      simp only [holdAnswer, firstHold_cons, hp]

/-- A loop whose rounds all end as `phaseStep` says ends with the first failing phase's
message. -/
theorem phaseLoop_eq :
    ∀ (phases : List Value) (i : Nat), (∀ td ∈ phases, ∀ i, f td (none, i) = .ok (phaseStep td i)) →
      ∃ k, forIn phases (none, i) f = .ok (holdAnswer phases i, k)
  | [], i, _ => ⟨i, rfl⟩
  | td :: tds, i, hf => by
    rw [List.forIn_cons, hf td List.mem_cons_self i, ok_bind]
    unfold phaseStep
    cases hp : phaseHold td with
    | some hold => exact ⟨i, by simp only [holdAnswer, firstHold_cons, hp, Option.map_some]; rfl⟩
    | none =>
      obtain ⟨k, hk⟩ := phaseLoop_eq tds (i + 1) fun td' h' => hf td' (List.mem_cons_of_mem _ h')
      exact ⟨k, by simpa only [holdAnswer, firstHold_cons, hp] using hk⟩

/-- What follows such a loop sees the first failing phase's message. -/
theorem phaseLoop_bind {β : Type} {phases : List Value} {i : Nat}
    (hf : ∀ td ∈ phases, ∀ i, f td (none, i) = .ok (phaseStep td i))
    {g : Option (Bool × String) × Nat → Except Fault β} {c : Except Fault β}
    (hg : ∀ k, g (holdAnswer phases i, k) = c) : (forIn phases (none, i) f >>= g) = c := by
  obtain ⟨k, hk⟩ := phaseLoop_eq phases i hf
  rw [hk, ok_bind, hg]

end Loop

/-! ## One phase -/

theorem text_or_empty (s : String) :
    (if (Value.str s).truthy then Value.str s else .str "") = .str s := by
  by_cases h : s.isEmpty
  · simp [Value.truthy, String.isEmpty_iff.1 h]
  · simp [Value.truthy, h]

theorem hasSections_text (s : String) :
    hasSections (.str s) = .ok (Text.has s "IMPORTANT NOTE:" && Text.has s "Decision Gate") := by
  unfold hasSections
  rw [text_or_empty]
  simp only [Value.holds, ok_bind]
  cases Text.has s "IMPORTANT NOTE:" <;> rfl

theorem hasSections_falsy {txt : Value} (h : txt.truthy = false) : hasSections txt = .ok false := by
  unfold hasSections
  rw [h]
  rfl

theorem hasBlocking_text (s : String) : hasBlocking (.str s) = .ok (namesBlocking s) := by
  unfold hasBlocking
  rw [text_or_empty]
  rfl

theorem text_of_checks {txt : Value} {b : Bool} (h1 : hasSections txt = .ok true)
    (h2 : hasBlocking txt = .ok b) : ∃ s, txt = .str s := by
  cases ht : txt.truthy
  · rw [hasSections_falsy ht] at h1
    cases h1
  · unfold hasBlocking at h2
    rw [ht] at h2
    cases txt with
    | str s => exact ⟨s, rfl⟩
    | _ => cases h2

theorem has_empty_note : Text.has "" "IMPORTANT NOTE:" = false := rfl

/-- A phase whose text shows both sections has that text. -/
theorem text_of_sections {td : Value}
    (h : (Text.has (phaseText td) "IMPORTANT NOTE:" && Text.has (phaseText td) "Decision Gate") = true) :
    td.getD "text" (.str "") = .str (phaseText td) := by
  unfold phaseText at h ⊢
  cases hv : td.getD "text" (.str "") with
  | str s => rfl
  | _ => simp only [hv, has_empty_note, Bool.false_and, Bool.false_eq_true] at h

theorem phaseRun_ok {td : Value} {i : Nat} {r : ForInStep (Option (Bool × String) × Nat)}
    (h : phaseRun td i = .ok r) : r = phaseStep td i := by
  unfold phaseRun at h
  obtain ⟨txt, htxt, h⟩ := bind_eq_ok.1 h
  -- only an object has a text to look up
  cases hobj : td.isObj
  · obtain ⟨e, he⟩ := lookup_of_not_obj hobj "text" (.str "")
    rw [he] at htxt
    cases htxt
  obtain ⟨kvs, rfl⟩ := eq_obj_of_isObj hobj
  rw [lookup_obj] at htxt
  cases htxt
  rw [lookup_obj, ok_bind] at h
  unfold phaseStep phaseHold
  cases hdone : ((Value.obj kvs).getD "done" .null).truthy
  · simp only [hdone, Bool.not_false, ↓reduceIte, pure, Except.pure, Except.ok.injEq] at h
    exact h.symm
  simp only [hdone, Bool.not_true, Bool.false_eq_true, ↓reduceIte] at h ⊢
  obtain ⟨a, ha, h⟩ := bind_eq_ok.1 h
  cases a
  · -- the sections are missing: a text that showed both would have passed
    simp only [Bool.not_false, ↓reduceIte, pure, Except.pure, Except.ok.injEq] at h
    subst h
    have hsec : (Text.has (phaseText (.obj kvs)) "IMPORTANT NOTE:" &&
        Text.has (phaseText (.obj kvs)) "Decision Gate") = false := by
      cases hc : (Text.has (phaseText (.obj kvs)) "IMPORTANT NOTE:" &&
          Text.has (phaseText (.obj kvs)) "Decision Gate")
      · rfl
      · rw [text_of_sections hc, hasSections_text, hc] at ha
        cases ha
    simp only [hsec, Bool.not_false, ↓reduceIte]
  · simp only [Bool.not_true, Bool.false_eq_true, ↓reduceIte] at h
    obtain ⟨b, hb, h⟩ := bind_eq_ok.1 h
    -- both checks ran, so the text is a text
    obtain ⟨s, hs⟩ := text_of_checks ha hb
    have hp : phaseText (.obj kvs) = s := by simp only [phaseText, hs]
    rw [hs, hasSections_text] at ha
    rw [hs, hasBlocking_text] at hb
    rw [hp, Except.ok.inj ha, Except.ok.inj hb]
    cases b <;>
      simp only [Bool.not_true, Bool.false_eq_true, ↓reduceIte, pure, Except.pure,
        Except.ok.injEq] at h ⊢ <;> exact h.symm

/-- A phase the gate reads without a fault: an object whose text is a text, or false. -/
def ReadablePhase (td : Value) : Prop :=
  td.isObj = true ∧
    ((∃ s, td.getD "text" (.str "") = .str s) ∨ (td.getD "text" (.str "")).truthy = false)

theorem phaseRun_eq {td : Value} (h : ReadablePhase td) (i : Nat) :
    phaseRun td i = .ok (phaseStep td i) := by
  obtain ⟨hobj, htext⟩ := h
  obtain ⟨kvs, rfl⟩ := eq_obj_of_isObj hobj
  unfold phaseRun phaseStep phaseHold
  rw [lookup_obj, ok_bind, lookup_obj, ok_bind]
  cases hdone : ((Value.obj kvs).getD "done" .null).truthy
  · rfl
  simp only [Bool.not_true, Bool.false_eq_true, ↓reduceIte]
  rcases htext with ⟨s, hs⟩ | hfalse
  · -- a text: both checks read it
    have hp : phaseText (.obj kvs) = s := by simp only [phaseText, hs]
    rw [hs, hasSections_text, ok_bind, hasBlocking_text, hp]
    cases Text.has s "IMPORTANT NOTE:" && Text.has s "Decision Gate"
    · rfl
    · cases namesBlocking s <;> rfl
  · -- a false text has no sections
    have hp : phaseText (.obj kvs) = "" := by
      unfold phaseText
      cases hv : (Value.obj kvs).getD "text" (.str "") with
      | str s => simp_all [Value.truthy, String.isEmpty_iff]
      | _ => rfl
    rw [hasSections_falsy hfalse, ok_bind, hp, has_empty_note]
    rfl

theorem phaseRun_of_not_obj {td : Value} (h : td.isObj = false) (i : Nat) :
    ∃ e, phaseRun td i = .error e := by
  obtain ⟨e, he⟩ := lookup_of_not_obj h "text" (.str "")
  exact ⟨e, by simp only [phaseRun, he]; rfl⟩

/-! ## The gate's verdict -/

theorem gateVerdict_ok {entries : List Value} {id : String} {v : Bool × String}
    (h : gateVerdict entries (.str id) = .ok v) : v = gateAnswer entries (.str id) := by
  unfold gateVerdict at h
  obtain ⟨r, hr, h⟩ := bind_eq_ok.1 h
  rw [findAnalysis_ok hr] at h
  unfold gateAnswer
  cases hl : linkedAnalysis entries (.str id) with
  | none =>
    rw [hl] at h
    exact (Except.ok.inj h).symm
  | some a =>
    rw [hl] at h
    obtain ⟨kvs, rfl⟩ := eq_obj_of_isObj (linkedAnalysis_isObj hl)
    dsimp only at h ⊢
    rw [lookup_obj, ok_bind] at h
    generalize (Value.obj kvs).getD "todos" (.arr []) = todos at h ⊢
    cases ht : todos.truthy
    · -- a false todo list has no phases
      simp only [ht, Bool.not_false, ↓reduceIte, pure, Except.pure, Except.ok.injEq] at h
      subst h
      split
      · simp [Value.truthy] at ht
      · rfl
    simp only [ht, Bool.not_true, Bool.false_eq_true, ↓reduceIte] at h
    obtain ⟨phases, hphases, hloop⟩ := bind_eq_ok.1 h
    clear h
    obtain ⟨st, hst, hend⟩ := bind_eq_ok.1 hloop
    clear hloop
    -- the loop's first round faults on a phase that is not an object
    have first_obj : ∀ x xs, phases = x :: xs → x.isObj = true := fun x xs hx => by
      cases hx' : x.isObj
      · obtain ⟨e, he⟩ := phaseRun_of_not_obj hx' 0
        rw [hx, List.forIn_cons] at hst
        obtain ⟨r', hr', -⟩ := bind_eq_ok.1 hst
        exact absurd (he.symm.trans hr') (by simp)
      · rfl
    cases todos with
    | arr xs =>
      cases hphases
      obtain ⟨td, tds, rfl⟩ := List.exists_cons_of_ne_nil (by simpa [Value.truthy] using ht)
      rw [phaseLoop_ok (fun td i r hr => phaseRun_ok hr) _ _ _ hst] at hend
      dsimp only
      cases hf : firstHold (td :: tds) 0 with
      | none =>
        simp only [holdAnswer, hf, Option.map_none, pure, Except.pure, Except.ok.injEq] at hend
        exact hend.symm
      | some p =>
        simp only [holdAnswer, hf, Option.map_some, pure, Except.pure, Except.ok.injEq] at hend
        exact hend.symm
    | obj kvs' =>
      obtain ⟨kv, kvs'', rfl⟩ := List.exists_cons_of_ne_nil (by simpa [Value.truthy] using ht)
      cases hphases
      exact absurd (first_obj _ _ rfl) (by simp [Value.isObj])
    | str s =>
      obtain ⟨c, cs, hcs⟩ := List.exists_cons_of_ne_nil
        (by simpa [Value.truthy, String.isEmpty_iff] using ht : s.toList ≠ [])
      simp only [Value.elems, hcs, List.map_cons, Except.ok.injEq] at hphases
      exact absurd (first_obj _ _ hphases.symm) (by simp [Value.isObj])
    | _ => cases hphases

/-- Analysis entries the gate reads without a fault for the task `id`: the entries its search
reads are objects, and the linked analysis's phases, when it has any, are a list of phases it
reads. -/
structure Readable (entries : List Value) (id : String) : Prop where
  searched : ∀ a ∈ sourceSearched entries id, a.isObj = true
  phases : ∀ a, linkedAnalysis entries (.str id) = some a → (a.getD "todos" (.arr [])).truthy = true →
    ∃ tds, a.getD "todos" (.arr []) = .arr tds ∧ ∀ td ∈ tds, ReadablePhase td

theorem gateVerdict_readable {entries : List Value} {id : String} (hr : Readable entries id) :
    gateVerdict entries (.str id) = .ok (gateAnswer entries (.str id)) := by
  unfold gateVerdict gateAnswer
  rw [findAnalysis_eq hr.searched, ok_bind]
  cases hl : linkedAnalysis entries (.str id) with
  | none => rfl
  | some a =>
    obtain ⟨kvs, rfl⟩ := eq_obj_of_isObj (linkedAnalysis_isObj hl)
    have hph := hr.phases _ hl
    dsimp only
    rw [lookup_obj, ok_bind]
    generalize (Value.obj kvs).getD "todos" (.arr []) = todos at hph ⊢
    cases ht : todos.truthy
    · -- a false todo list has no phases
      simp only [Bool.not_false, ↓reduceIte]
      split
      · simp [Value.truthy] at ht
      · rfl
    obtain ⟨tds, rfl, hall⟩ := hph ht
    obtain ⟨td, tds', rfl⟩ := List.exists_cons_of_ne_nil (by simpa [Value.truthy] using ht)
    simp only [Bool.not_true, Bool.false_eq_true, ↓reduceIte, Value.elems, ok_bind]
    refine phaseLoop_bind (fun td' h' i => phaseRun_eq (hall td' h') i) fun k => ?_
    dsimp only
    cases hf : firstHold (td :: tds') 0 <;> simp only [holdAnswer, hf, Option.map_none, Option.map_some] <;> rfl

/-! ## Marking a todo done from the command line -/

/-- `done` with two arguments either stops at the reading, or reads them as the task and the
index on the execution queue. -/
theorem parseCommands_done (id idx : String) :
    parseCommands commandGrammars ["done", id, idx] = .failed ∨
      parseCommands commandGrammars ["done", id, idx] = .help ∨
      parseCommands commandGrammars ["done", id, idx] = .parsed [("cmd", .text "done"),
        ("task_id", .text id), ("index", .text idx), ("mode", .text "execution")] := by
  have hword : ({} : Grammar).classify "done" = .positional := rfl
  have hfind : commandGrammars.find? (·.1 == "done") =
      some ("done", { options := [modeOpt], positionals := ["task_id", "index"] }) := rfl
  simp only [parseCommands, parseCommands.go, hword, hfind]
  cases hp : Grammar.parse { options := [modeOpt], positionals := ["task_id", "index"] } [id, idx] with
  | failed => exact .inl rfl
  | help => exact .inr (.inl rfl)
  | parsed vs =>
    -- both arguments were read as positional, so the mode is its default
    right; right
    rw [Grammar.parse_positionals _ hp rfl]
    rfl

/-- The gate reads the analysis file and changes nothing. -/
theorem triple_gate (F : Files) (id : Value) :
    Triple (fun w => w.files = F) (gate id)
      (fun r w => w.files = F ∧ gateVerdict (analysisEntries F.analysis) id = .ok r)
      (fun w => w.files = F) := by
  intro w hw
  subst hw
  have hrun : (gate id).run.run w =
      (lift (gateVerdict (analysisEntries w.files.analysis) id)).run.run w := rfl
  rw [hrun]
  cases gateVerdict (analysisEntries w.files.analysis) id with
  | ok r => exact ⟨rfl, rfl⟩
  | error e => rfl

theorem done_keeps_tasks_unless_gate (w : Workspace) (id idx : String)
    (hgate : ∀ msg, gateVerdict (analysisEntries w.files.analysis) (.str id) ≠ .ok (true, msg)) :
    ((runTodoCommand ["done", id, idx]).run.run w).2.files.tasks = w.files.tasks := by
  have key : Triple (fun w' => w'.files = w.files) (runTodoCommand ["done", id, idx])
      (fun _ w' => w'.files = w.files) (fun w' => w'.files = w.files) := by
    unfold runTodoCommand
    rcases parseCommands_done id idx with h | h | h <;> rw [h]
    · exact Triple.ret _ fun w' hw' => by rw [hw']
    · exact Triple.ret _ fun w' hw' => by rw [hw']
    refine Triple.bind ?_ fun _ => Triple.ret _ fun _ h => h
    unfold runCommand
    -- the command reads its task, index and mode from the parsed values
    have hcmd : textOf [("cmd", Given.text "done"), ("task_id", Given.text id),
        ("index", Given.text idx), ("mode", Given.text "execution")] "cmd" = some "done" := rfl
    have hmode : textOf [("cmd", Given.text "done"), ("task_id", Given.text id),
        ("index", Given.text idx), ("mode", Given.text "execution")] "mode" = some "execution" := rfl
    have hindex : textOf [("cmd", Given.text "done"), ("task_id", Given.text id),
        ("index", Given.text idx), ("mode", Given.text "execution")] "index" = some idx := rfl
    have htask : textOf [("cmd", Given.text "done"), ("task_id", Given.text id),
        ("index", Given.text idx), ("mode", Given.text "execution")] "task_id" = some id := rfl
    simp only [hcmd, hmode, hindex, htask, Option.getD_some, beq_self_eq_true, ↓reduceIte]
    have hsay : ∀ line, Keeps (·.files) (say line) := fun _ => Keeps.update fun _ => rfl
    have keep : ∀ w₁ w₂ : Workspace, w₂.files = w₁.files → w₁.files = w.files → w₂.files = w.files :=
      fun _ _ h₂ h₁ => h₂.trans h₁
    have huse : Keeps (·.files) (useQueue (ofMode "execution")) := Keeps.update fun _ => rfl
    refine Triple.bind (huse.triple keep) fun _ => ?_
    refine Triple.bind ((keeps_readIndex hsay "done" idx).triple keep) fun r => ?_
    cases r with
    | none => exact Triple.ret _ fun w' hw' => by rw [hw']
    | some i =>
      refine Triple.bind (triple_gate w.files (.str id)) fun v => Triple.pure_pre fun hv => ?_
      cases hok : v.1
      · -- a gate that does not pass only prints
        simp only [Bool.not_false, ↓reduceIte]
        exact Triple.bind ((hsay _).triple keep) fun _ => Triple.ret _ fun w' hw' => by rw [hw']
      · obtain ⟨b, msg⟩ := v
        cases hok
        exact absurd hv (hgate msg)
  have hrun := key w rfl
  revert hrun
  rcases (runTodoCommand ["done", id, idx]).run.run w with ⟨_ | _, w'⟩ <;> exact congrArg Files.tasks

/-! ## The gate guards marking done -/

/-- Marking a todo done leaves the tasks file as it is unless the gate passes, and the gate passes
exactly when every phase of the linked analysis passes its checks. -/
theorem gate_guards_done (id : String) :
    (∀ (w : Workspace) (idx : String),
      (∀ msg, gateVerdict (analysisEntries w.files.analysis) (.str id) ≠ .ok (true, msg)) →
      ((runTodoCommand ["done", id, idx]).run.run w).2.files.tasks = w.files.tasks) ∧
    (∀ entries v, gateVerdict entries (.str id) = .ok v → v = gateAnswer entries (.str id)) ∧
    (∀ entries, Readable entries id →
      gateVerdict entries (.str id) = .ok (gateAnswer entries (.str id))) ∧
    (∀ entries, (gateAnswer entries (.str id)).1 = true ↔ ∃ a tds,
      linkedAnalysis entries (.str id) = some a ∧ a.getD "todos" (.arr []) = .arr tds ∧
        tds ≠ [] ∧ ∀ td ∈ tds, phaseHold td = none) ∧
    (∀ entries a pre td post h, linkedAnalysis entries (.str id) = some a →
      a.getD "todos" (.arr []) = .arr (pre ++ td :: post) →
      (∀ td' ∈ pre, phaseHold td' = none) → phaseHold td = some h →
      gateAnswer entries (.str id) = (false, h.message pre.length)) :=
  ⟨fun w idx => done_keeps_tasks_unless_gate w id idx, fun _ _ h => gateVerdict_ok h,
    fun _ => gateVerdict_readable, fun entries => gateAnswer_passes_iff entries _,
    fun _ _ _ _ _ _ => gateAnswer_first_hold⟩

/-- An analysis linked to the task whose only phase is not done: the gate answers, and names
that phase. -/
theorem gate_guards_done_phase_not_done :
    gateVerdict [.obj [("source_task_id", .str "t"), ("todos", .arr [.obj [("done", .bool false)]])]]
      (.str "t") = .ok (false, "Analysis phase 0 not done.") := by
  have hl : linkedAnalysis [.obj [("source_task_id", .str "t"),
      ("todos", .arr [.obj [("done", .bool false)]])]] (.str "t") =
      some (.obj [("source_task_id", .str "t"), ("todos", .arr [.obj [("done", .bool false)]])]) := rfl
  have hread : Readable [.obj [("source_task_id", .str "t"),
      ("todos", .arr [.obj [("done", .bool false)]])]] "t" := by
    -- the linked analysis comes first, so no entry is searched before it
    refine ⟨fun a ha => absurd (show a ∈ ([] : List Value) from ha) List.not_mem_nil, fun a ha _ => ?_⟩
    rw [hl] at ha
    cases ha
    refine ⟨_, rfl, fun td htd => ?_⟩
    rw [List.mem_singleton] at htd
    subst htd
    exact ⟨rfl, .inl ⟨"", rfl⟩⟩
  rw [(gate_guards_done "t").2.2.1 _ hread]
  rfl

/-- A number ahead of the linked analysis makes the gate fault, although that analysis passes
every check. -/
theorem gateVerdict_faults_before_link :
    (gateAnswer [.int 5, .obj [("source_task_id", .str "t"), ("todos", .arr [.obj [("done", .bool true),
      ("text", .str "IMPORTANT NOTE: ok. Decision Gate: go.")]])]] (.str "t")).1 = true ∧
    gateVerdict [.int 5, .obj [("source_task_id", .str "t"), ("todos", .arr [.obj [("done", .bool true),
      ("text", .str "IMPORTANT NOTE: ok. Decision Gate: go.")]])]] (.str "t") =
      .error (.noMethod "int" "get") := by
  have hpass : phaseHold (.obj [("done", .bool true),
      ("text", .str "IMPORTANT NOTE: ok. Decision Gate: go.")]) = none := by
    have hnote : Text.has "IMPORTANT NOTE: ok. Decision Gate: go." "IMPORTANT NOTE:" = true := by
      decide
    have hgate : Text.has "IMPORTANT NOTE: ok. Decision Gate: go." "Decision Gate" = true := by
      decide
    have hblock : namesBlocking "IMPORTANT NOTE: ok. Decision Gate: go." = false := by cbv
    have htext : phaseText (.obj [("done", .bool true),
        ("text", .str "IMPORTANT NOTE: ok. Decision Gate: go.")]) =
        "IMPORTANT NOTE: ok. Decision Gate: go." := rfl
    have hdone : ((Value.obj [("done", .bool true),
        ("text", .str "IMPORTANT NOTE: ok. Decision Gate: go.")]).getD "done" .null).truthy = true :=
      rfl
    unfold phaseHold
    rw [htext, hdone, hnote, hgate, hblock]
    rfl
  refine ⟨(gateAnswer_passes_iff _ _).2 ⟨_, _, rfl, rfl, List.cons_ne_nil _ _, fun td htd => ?_⟩,
    by cbv⟩
  rw [List.mem_singleton] at htd
  rw [htd, hpass]

end Taskflow.Queue
