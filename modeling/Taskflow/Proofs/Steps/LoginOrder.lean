import Taskflow.Steps.Login
/-!
Where completing the login workflow puts its canonical steps.
-/

namespace Taskflow.Steps

open Text

def isBranch (s : String) : Bool := startsWith s "[CONDITIONAL]"

def ActionsFirst (xs : List String) : Prop :=
  xs.Pairwise fun a b => isBranch a = true → isBranch b = true

instance (xs : List String) : Decidable (ActionsFirst xs) :=
  inferInstanceAs (Decidable (List.Pairwise _ xs))

def lacks (c : String) (xs : List String) : Bool := !xs.any fun s => has s c

/-- The slot of the endpoint step: after the first step that names a schema, else after the first
step. -/
def endpointSlot (xs : List String) : Nat := (xs.findIdx? fun s => has s "schema").getD 0 + 1

/-- Completion puts the endpoint step behind a branch: the text names `/login`, no step has the
endpoint, the schema step is not inserted, and a branch stands before the endpoint's slot. -/
def EndpointAfterBranch (text : String) (steps : List String) : Prop :=
  ¬ (has (lower text) "database schema" = true ∧ lacks schemaStep steps = true) ∧
    has (lower text) "/login" = true ∧ lacks endpointStep steps = true ∧
    ∃ b ∈ steps.take (endpointSlot steps), isBranch b = true

instance (text : String) (steps : List String) : Decidable (EndpointAfterBranch text steps) :=
  inferInstanceAs (Decidable (¬ (_ ∧ _) ∧ _ ∧ _ ∧ ∃ b ∈ steps.take (endpointSlot steps), _))

/-- The canonical steps that completion inserts, in the order it tries them. -/
def loginInserts (text : String) (steps : List String) : List String :=
  (if has (lower text) "database schema" ∧ lacks schemaStep steps then [schemaStep] else []) ++
    (if has (lower text) "/login" ∧ lacks endpointStep steps then [endpointStep] else []) ++
    (if has (lower text) "login form" ∧ lacks formStep steps then [formStep] else [])

/-- The canonical steps are actions, the schema step names the schema, and none names a later
one; one kernel evaluation checks them all. -/
theorem canonicalSteps_facts :
    isBranch schemaStep = false ∧ isBranch endpointStep = false ∧ isBranch formStep = false ∧
      has schemaStep "schema" = true ∧ has schemaStep endpointStep = false ∧
      has schemaStep formStep = false ∧ has endpointStep formStep = false := by
  decide +kernel

theorem schemaStep_action : isBranch schemaStep = false := canonicalSteps_facts.1

theorem endpointStep_action : isBranch endpointStep = false := canonicalSteps_facts.2.1

theorem formStep_action : isBranch formStep = false := canonicalSteps_facts.2.2.1

theorem schemaStep_names_schema : has schemaStep "schema" = true := canonicalSteps_facts.2.2.2.1

theorem schemaStep_lacks_endpoint : has schemaStep endpointStep = false :=
  canonicalSteps_facts.2.2.2.2.1

theorem schemaStep_lacks_form : has schemaStep formStep = false := canonicalSteps_facts.2.2.2.2.2.1

theorem endpointStep_lacks_form : has endpointStep formStep = false :=
  canonicalSteps_facts.2.2.2.2.2.2

theorem lacks_cons {c x : String} {xs : List String} (hx : has x c = false) :
    lacks c (x :: xs) = lacks c xs := by
  simp [lacks, hx]

theorem insertAt_perm (xs : List String) (i : Nat) (x : String) :
    (insertAt xs i x).Perm (x :: xs) := by
  unfold insertAt
  conv => rhs; rw [← List.take_append_drop i xs]
  exact List.perm_middle

theorem sublist_insertAt (xs : List String) (i : Nat) (x : String) :
    xs.Sublist (insertAt xs i x) := by
  have h := (List.Sublist.refl (xs.take i)).append (List.sublist_cons_self x (xs.drop i))
  rwa [List.take_append_drop] at h

theorem lacks_insertAt {c x : String} {xs : List String} (hx : has x c = false) (i : Nat) :
    lacks c (insertAt xs i x) = lacks c xs := by
  rw [lacks, (insertAt_perm xs i x).any_eq, ← lacks, lacks_cons hx]

/-! ## Actions before branches -/

theorem actionsFirst_cons {a : String} {xs : List String} (ha : isBranch a = false)
    (h : ActionsFirst xs) : ActionsFirst (a :: xs) :=
  List.pairwise_cons.2 ⟨fun _ _ hb => absurd hb (by simp [ha]), h⟩

/-- An action inserted into a list whose actions come first keeps them first exactly when no
branch stands before its slot. -/
theorem actionsFirst_insertAt_iff {xs : List String} (h : ActionsFirst xs) {x : String}
    (hx : isBranch x = false) (i : Nat) :
    ActionsFirst (insertAt xs i x) ↔ ∀ b ∈ xs.take i, isBranch b = false := by
  have hxs := h
  unfold ActionsFirst at hxs
  rw [← List.take_append_drop i xs, List.pairwise_append] at hxs
  obtain ⟨htake, hdrop, hcross⟩ := hxs
  unfold ActionsFirst insertAt
  rw [List.pairwise_append, List.pairwise_cons]
  constructor
  · rintro ⟨-, -, hc⟩ b hb
    cases hbr : isBranch b
    · rfl
    · simpa [hx] using hc b hb x List.mem_cons_self hbr
  · intro hall
    refine ⟨htake, ⟨fun _ _ hb => absurd hb (by simp [hx]), hdrop⟩, fun a ha b hb hab => ?_⟩
    simp [hall a ha] at hab

/-- Past an action, the slot of the first branch moves one place on. -/
theorem firstBranch_cons_action {a : String} (ha : isBranch a = false) (xs : List String) :
    ((a :: xs).findIdx? isBranch).getD (a :: xs).length =
      (xs.findIdx? isBranch).getD xs.length + 1 := by
  rw [List.findIdx?_cons, ha]
  cases xs.findIdx? isBranch <;> simp

theorem take_firstBranch (xs : List String) :
    ∀ b ∈ xs.take ((xs.findIdx? isBranch).getD xs.length), isBranch b = false := by
  induction xs with
  | nil => simp
  | cons a xs ih =>
    cases ha : isBranch a with
    | true => simp [List.findIdx?_cons, ha]
    | false =>
      simp only [firstBranch_cons_action ha, List.take_succ_cons, List.mem_cons]
      rintro b (rfl | hb)
      · exact ha
      · exact ih b hb

theorem drop_firstBranch {xs : List String} (h : ActionsFirst xs) :
    ∀ b ∈ xs.drop ((xs.findIdx? isBranch).getD xs.length), isBranch b = true := by
  induction xs with
  | nil => simp
  | cons a xs ih =>
    obtain ⟨hhead, htail⟩ := List.pairwise_cons.1 h
    cases ha : isBranch a with
    | true =>
      simp only [List.findIdx?_cons, ha, if_true, Option.getD_some, List.drop_zero, List.mem_cons]
      rintro b (rfl | hb)
      · exact ha
      · exact hhead b hb ha
    | false =>
      rw [firstBranch_cons_action ha, List.drop_succ_cons]
      exact ih htail

/-- Inserting an action before the first branch keeps the actions first. -/
theorem actionsFirst_insert_firstBranch {xs : List String} (h : ActionsFirst xs) {x : String}
    (hx : isBranch x = false) :
    ActionsFirst (insertAt xs ((xs.findIdx? isBranch).getD xs.length) x) :=
  (actionsFirst_insertAt_iff h hx _).2 (take_firstBranch xs)

/-- Actions taken in order from a list whose actions come first are taken from before its first
branch. -/
theorem sublist_take_firstBranch {xs l : List String} (h : ActionsFirst xs) (hl : l.Sublist xs)
    (hact : ∀ a ∈ l, isBranch a = false) :
    l.Sublist (xs.take ((xs.findIdx? isBranch).getD xs.length)) := by
  rw [← List.take_append_drop ((xs.findIdx? isBranch).getD xs.length) xs] at hl
  obtain ⟨l₁, l₂, rfl, h₁, h₂⟩ := List.sublist_append_iff.1 hl
  cases l₂ with
  | nil => simpa using h₁
  | cons b l₂ =>
    have hb : isBranch b = true := drop_firstBranch h b (h₂.subset List.mem_cons_self)
    simp [hact b (by simp)] at hb

/-! ## Completing the workflow -/

/-- The schema stage: the schema step goes first when the text names a database schema and no
step has it. -/
def withSchema (t : String) (steps : List String) : List String :=
  if has t "database schema" ∧ lacks schemaStep steps then schemaStep :: steps else steps

/-- The endpoint stage: the endpoint step goes to its slot when the text names `/login` and no
step has it. -/
def withEndpoint (t : String) (steps : List String) : List String :=
  if has t "/login" ∧ lacks endpointStep steps then insertAt steps (endpointSlot steps) endpointStep
  else steps

/-- The form stage: the form step goes before the first branch when the text names a login form
and no step has it. -/
def withForm (t : String) (steps : List String) : List String :=
  if has t "login form" ∧ lacks formStep steps then
    insertAt steps ((steps.findIdx? isBranch).getD steps.length) formStep
  else steps

theorem completeLogin_eq (text : String) (steps : List String) :
    completeLogin text steps =
      withForm (lower text) (withEndpoint (lower text) (withSchema (lower text) steps)) := rfl

theorem lacks_withSchema {c : String} (hc : has schemaStep c = false) (t : String)
    (steps : List String) : lacks c (withSchema t steps) = lacks c steps := by
  unfold withSchema
  split
  · exact lacks_cons hc
  · rfl

theorem lacks_withEndpoint {c : String} (hc : has endpointStep c = false) (t : String)
    (steps : List String) : lacks c (withEndpoint t steps) = lacks c steps := by
  unfold withEndpoint
  split
  · exact lacks_insertAt hc _
  · rfl

theorem endpointSlot_schema (xs : List String) : endpointSlot (schemaStep :: xs) = 1 := by
  simp [endpointSlot, List.findIdx?_cons, schemaStep_names_schema]

/-- The form stage keeps the actions first, and inserts nothing into a list that does not
already have them first. -/
theorem actionsFirst_withForm_iff (t : String) (steps : List String) :
    ActionsFirst (withForm t steps) ↔ ActionsFirst steps := by
  unfold withForm
  split
  · exact ⟨fun h => h.sublist (sublist_insertAt _ _ _),
      fun h => actionsFirst_insert_firstBranch h formStep_action⟩
  · rfl

/-- After the schema stage the endpoint stage keeps the actions first exactly when the endpoint
step does not land behind a branch. -/
theorem actionsFirst_withEndpoint_iff (text : String) {steps : List String}
    (h : ActionsFirst steps) :
    ActionsFirst (withEndpoint (lower text) (withSchema (lower text) steps)) ↔
      ¬ EndpointAfterBranch text steps := by
  by_cases hs : has (lower text) "database schema" = true ∧ lacks schemaStep steps = true
  · -- the schema step is inserted first, so the endpoint goes right after it
    have hs1 : withSchema (lower text) steps = schemaStep :: steps := by rw [withSchema, if_pos hs]
    have h1 : ActionsFirst (schemaStep :: steps) := actionsFirst_cons schemaStep_action h
    have hnot : ¬ EndpointAfterBranch text steps := fun he => he.1 hs
    rw [hs1, iff_true_intro hnot, iff_true, withEndpoint]
    split
    · refine (actionsFirst_insertAt_iff h1 endpointStep_action _).2 ?_
      rw [endpointSlot_schema]
      simpa using schemaStep_action
    · exact h1
  · have hs1 : withSchema (lower text) steps = steps := by rw [withSchema, if_neg hs]
    rw [hs1, withEndpoint]
    split
    · next he =>
      rw [actionsFirst_insertAt_iff h endpointStep_action]
      unfold EndpointAfterBranch
      simp only [hs, not_false_eq_true, he.1, he.2, true_and, not_exists, not_and,
        Bool.not_eq_true]
    · next he =>
      exact iff_of_true h fun ⟨_, hl, hla, _⟩ => he ⟨hl, hla⟩

/-- The schema and endpoint steps that completion inserts stand in that order after the
endpoint stage. -/
theorem schema_endpoint_sublist (t : String) (steps : List String) :
    ((if has t "database schema" ∧ lacks schemaStep steps then [schemaStep] else []) ++
        (if has t "/login" ∧ lacks endpointStep steps then [endpointStep] else [])).Sublist
      (withEndpoint t (withSchema t steps)) := by
  unfold withEndpoint
  rw [lacks_withSchema schemaStep_lacks_endpoint]
  by_cases hs : has t "database schema" = true ∧ lacks schemaStep steps = true
  · have hs1 : withSchema t steps = schemaStep :: steps := by rw [withSchema, if_pos hs]
    rw [if_pos hs, hs1]
    split
    · rw [endpointSlot_schema]
      simp [insertAt]
    · simp
  · rw [if_neg hs, List.nil_append]
    split
    · exact List.singleton_sublist.2 ((insertAt_perm _ _ _).mem_iff.2 List.mem_cons_self)
    · simp

/-- In a list whose actions come first, completion keeps the actions first exactly when the
endpoint step does not land behind a branch; and then the canonical steps it inserts stand in
the order it tries them: schema, endpoint, form. -/
theorem completeLogin_actions_first_iff (text : String) {steps : List String}
    (h : ActionsFirst steps) :
    (ActionsFirst (completeLogin text steps) ↔ ¬ EndpointAfterBranch text steps) ∧
      (¬ EndpointAfterBranch text steps →
        (loginInserts text steps).Sublist (completeLogin text steps)) := by
  have key := actionsFirst_withEndpoint_iff text h
  rw [completeLogin_eq, actionsFirst_withForm_iff]
  refine ⟨key, fun hnot => ?_⟩
  have h2 := key.2 hnot
  have hpre := schema_endpoint_sublist (lower text) steps
  unfold loginInserts withForm
  rw [lacks_withEndpoint endpointStep_lacks_form, lacks_withSchema schemaStep_lacks_form]
  by_cases hf : has (lower text) "login form" = true ∧ lacks formStep steps = true
  · -- the form step goes before the first branch, behind every inserted action
    have hact : ∀ a ∈ (if has (lower text) "database schema" ∧ lacks schemaStep steps then
        [schemaStep] else []) ++
        (if has (lower text) "/login" ∧ lacks endpointStep steps then [endpointStep] else []),
        isBranch a = false := by
      intro a ha
      rw [List.mem_append] at ha
      rcases ha with ha | ha <;> split at ha <;>
        simp_all [schemaStep_action, endpointStep_action]
    rw [if_pos hf, if_pos hf, insertAt]
    exact (sublist_take_firstBranch h2 hpre hact).append
      (List.cons_sublist_cons.2 (List.nil_sublist _))
  · rw [if_neg hf, if_neg hf, List.append_nil]
    exact hpre

/-- A lone branch and a text naming `/login`: the endpoint step lands behind the branch, so the
completed steps do not keep their actions first. -/
theorem completeLogin_endpoint_behind_branch :
    ActionsFirst ["[CONDITIONAL] If a: b"] ∧
      ((ActionsFirst (completeLogin "/login" ["[CONDITIONAL] If a: b"]) ↔
          ¬ EndpointAfterBranch "/login" ["[CONDITIONAL] If a: b"]) ∧
        (¬ EndpointAfterBranch "/login" ["[CONDITIONAL] If a: b"] →
          (loginInserts "/login" ["[CONDITIONAL] If a: b"]).Sublist
            (completeLogin "/login" ["[CONDITIONAL] If a: b"]))) ∧
      ¬ ActionsFirst (completeLogin "/login" ["[CONDITIONAL] If a: b"]) ∧
      completeLogin "/login" ["[CONDITIONAL] If a: b"] =
        ["[CONDITIONAL] If a: b", "Create /login POST endpoint"] := by
  have hfirst : ActionsFirst ["[CONDITIONAL] If a: b"] := by decide +kernel
  have hiff := completeLogin_actions_first_iff "/login" hfirst
  have hafter : EndpointAfterBranch "/login" ["[CONDITIONAL] If a: b"] := by decide +kernel
  exact ⟨hfirst, hiff, fun h => hiff.1.1 h hafter, by decide +kernel⟩

end Taskflow.Steps
