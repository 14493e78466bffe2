import Taskflow.Steps.Extract
import Mathlib
/-!
The two lanes of step extraction, and what each gives.
-/

namespace Taskflow.Text

theorem has_self (s : String) : has s s = true := by
  unfold has
  cases s.toList with
  | nil => rfl
  | cons c cs => simp [occursIn]

end Taskflow.Text

namespace Taskflow.Steps

open Json

theorem fallbackSteps_ne_nil (task : String) : fallbackSteps task ≠ [] := by
  unfold fallbackSteps
  dsimp only
  split
  · -- no keyword rule fired: Compose steps, or one generic step
    split
    · simp [composeSteps]
    · split <;> simp
  · assumption

theorem ruleSteps_ne_nil (task : String) : ruleSteps task ≠ [] := by
  unfold ruleSteps
  dsimp only
  split
  · exact fallbackSteps_ne_nil task
  · assumption

/-! ## The rules lane's steps are distinct -/

theorem collect_nodup (xs : List String) {acc : List String} (h : acc.Nodup) :
    (xs.foldl (fun acc x => if acc.contains x then acc else acc ++ [x]) acc).Nodup := by
  induction xs generalizing acc with
  | nil => exact h
  | cons x xs ih =>
    rw [List.foldl_cons]
    split
    · exact ih h
    · next hx =>
      have hnew : x ∉ acc := fun hm => hx (List.contains_iff_mem.2 hm)
      refine ih (List.nodup_append.2 ⟨h, List.nodup_singleton x, fun a ha b hb => ?_⟩)
      rw [List.mem_singleton.1 hb]
      exact fun e => hnew (e ▸ ha)

/-- The steps of the strategies that apply, collected in order, are distinct. -/
theorem strategySteps_nodup (n : String) (ss : List String) (sts : List Strategy)
    {acc : List String} (h : acc.Nodup) :
    (sts.foldl (fun acc st => if st.applies n ss then
      (st.steps ss).foldl (fun acc x => if acc.contains x then acc else acc ++ [x]) acc
      else acc) acc).Nodup := by
  induction sts generalizing acc with
  | nil => exact h
  | cons st sts ih =>
    rw [List.foldl_cons]
    split
    · exact ih (collect_nodup _ h)
    · exact ih h

theorem not_mem_of_lacks {c : String} {xs : List String}
    (h : (!xs.any fun s => Text.has s c) = true) : c ∉ xs := fun hc => by
  have hany : xs.any (fun s => Text.has s c) = true := List.any_eq_true.2 ⟨c, hc, Text.has_self c⟩
  simp [hany] at h

theorem insertAt_nodup {xs : List String} (h : xs.Nodup) {x : String} (hx : x ∉ xs) (i : Nat) :
    (insertAt xs i x).Nodup := by
  unfold insertAt
  rw [List.perm_middle.nodup_iff, List.take_append_drop]
  exact List.nodup_cons.2 ⟨hx, h⟩

theorem completeLogin_nodup (text : String) {steps : List String} (h : steps.Nodup) :
    (completeLogin text steps).Nodup := by
  unfold completeLogin
  extract_lets t lacks s1 s2 s3
  have h1 : s1.Nodup := by
    simp only [s1]
    split
    · next hc => exact List.nodup_cons.2 ⟨not_mem_of_lacks hc.2, h⟩
    · exact h
  have h2 : s2.Nodup := by
    simp only [s2]
    split
    · next hc => exact insertAt_nodup h1 (not_mem_of_lacks hc.2) _
    · exact h1
  simp only [s3]
  split
  · next hc => exact insertAt_nodup h2 (not_mem_of_lacks hc.2) _
  · exact h2

theorem nodup_ite {c : Prop} [Decidable c] {a b : List String} (ha : a.Nodup) (hb : b.Nodup) :
    (if c then a else b).Nodup := by
  split
  · exact ha
  · exact hb

theorem keywordSteps_nodup (t : String) : (keywordSteps t).Nodup := by
  unfold keywordSteps
  -- a chain of fourteen rules: take each branch, then check its canned list
  repeat' apply nodup_ite
  all_goals decide

theorem fallbackSteps_nodup (task : String) : (fallbackSteps task).Nodup := by
  unfold fallbackSteps
  dsimp only
  split
  · -- no keyword rule fired: Compose steps, or one generic step
    split
    · simp [composeSteps]
    · split <;> simp
  · exact keywordSteps_nodup _

theorem ruleSteps_nodup (task : String) : (ruleSteps task).Nodup := by
  unfold ruleSteps
  dsimp only
  split
  · exact fallbackSteps_nodup task
  · exact completeLogin_nodup _ (strategySteps_nodup _ _ _ List.nodup_nil)

/-! ## Which lane answers -/

theorem extract_rules {task : String} {model : Option ModelReply}
    (h : Task.Lane.ofScore (Task.laneScore task) = .rules) :
    extract task model = ((ruleSteps task).map .str, false) := by
  unfold extract
  rw [h]

theorem extract_no_model (task : String) :
    extract task none = ((ruleSteps task).map .str, false) := by
  unfold extract
  cases Task.Lane.ofScore (Task.laneScore task) <;> rfl

theorem extract_model {task : String} {reply : ModelReply}
    (h : Task.Lane.ofScore (Task.laneScore task) = .model) :
    extract task (some reply) = (modelSteps task reply, true) := by
  unfold extract
  rw [h]

/-- The rules lane gives a nonempty list of distinct steps, and without a model the extractor
answers with exactly that list, not having asked a model. -/
theorem ruleSteps_nonempty_distinct (task : String) :
    ruleSteps task ≠ [] ∧ (ruleSteps task).Nodup ∧
      extract task none = ((ruleSteps task).map .str, false) :=
  ⟨ruleSteps_ne_nil task, ruleSteps_nodup task, extract_no_model task⟩

/-- A step read from a model's list item is a text, or the item's `step_description` or
`description`. -/
theorem itemStep_text_or_field (item : Value) :
    (∃ s, itemStep item = .str s) ∨ item.get? "step_description" = some (itemStep item) ∨
      item.get? "description" = some (itemStep item) := by
  unfold itemStep
  split
  · next kvs =>
    split
    · next d hd => exact .inr (.inl hd)
    · split
      · next d hd => exact .inr (.inr hd)
      · -- the first text member longer than five characters, else the item as it shows
        split
        · next kv hkv =>
          have hp := List.find?_some hkv
          revert hp
          cases kv.2 <;> simp
        · exact .inl ⟨_, rfl⟩
  · exact .inl ⟨_, rfl⟩
  · exact .inl ⟨_, rfl⟩

/-- A value the model lane copies from its reply as a step: the `step_description` or
`description` of an item of the reply's `steps` list. -/
def CopiedField (reply : ModelReply) (v : Value) : Prop :=
  ∃ kvs items item, reply = .answered (.obj kvs) ∧ (Value.obj kvs).get? "steps" = some (.arr items) ∧
    item ∈ items ∧ (item.get? "step_description" = some v ∨ item.get? "description" = some v)

theorem replySteps_text_or_copied {reply : ModelReply} {xs : List Value}
    (h : replySteps reply = some xs) : ∀ v ∈ xs, (∃ s, v = .str s) ∨ CopiedField reply v := by
  intro v hv
  -- a step read from free text is a text; only a `steps` list copies members
  have text_steps : ∀ raw, v ∈ (stepsInText raw).map Value.str → ∃ s, v = .str s := fun raw h => by
    obtain ⟨s, -, rfl⟩ := List.mem_map.1 h
    exact ⟨s, rfl⟩
  rcases reply with w | _
  · simp only [replySteps] at h
    split at h
    · cases h
    cases w with
    | obj kvs =>
      simp only at h
      split at h
      · next items hsteps =>
        cases h
        obtain ⟨item, hitem, rfl⟩ := List.mem_map.1 hv
        exact (itemStep_text_or_field item).imp_right fun hf => ⟨kvs, items, item, rfl, hsteps, hitem, hf⟩
      · cases h
      · split at h
        · cases h
          exact .inl (text_steps _ hv)
        · cases h
    | str s =>
      cases h
      exact .inl (text_steps _ hv)
    | _ => cases h
  · cases h

/-- The steps of a task are empty exactly when the model lane runs and its reply reads as an
empty list; every step is a text, or a description field the model lane copied from its
reply. -/
theorem extract_steps_empty_iff (task : String) (model : Option ModelReply) :
    ((extract task model).1 = [] ↔ Task.Lane.ofScore (Task.laneScore task) = .model ∧
      ∃ reply, model = some reply ∧ replySteps reply = some []) ∧
    ∀ v ∈ (extract task model).1, (∃ s, v = .str s) ∨
      ∃ reply, model = some reply ∧ CopiedField reply v := by
  -- the rules lane's steps are texts and never empty
  have rules : ((ruleSteps task).map Value.str = [] ↔ False) ∧
      ∀ v ∈ (ruleSteps task).map Value.str, ∃ s, v = .str s :=
    ⟨by simp only [List.map_eq_nil_iff, ruleSteps_ne_nil], fun v hv => by
      obtain ⟨s, -, hs⟩ := List.mem_map.1 hv
      exact ⟨s, hs.symm⟩⟩
  cases hlane : Task.Lane.ofScore (Task.laneScore task) with
  | rules =>
    rw [extract_rules hlane]
    dsimp only
    exact ⟨rules.1.trans (by simp), fun v hv => .inl (rules.2 v hv)⟩
  | model =>
    cases model with
    | none =>
      rw [extract_no_model]
      dsimp only
      exact ⟨rules.1.trans (by simp), fun v hv => .inl (rules.2 v hv)⟩
    | some reply =>
      -- the model lane: the reply's list, or the rules lane's when it reads as none
      rw [extract_model hlane, modelSteps]
      dsimp only
      cases hr : replySteps reply with
      | none =>
        rw [Option.getD_none]
        exact ⟨rules.1.trans (by simp [hr]), fun v hv => .inl (rules.2 v hv)⟩
      | some xs =>
        rw [Option.getD_some]
        refine ⟨?_, fun v hv => (replySteps_text_or_copied hr v hv).imp_right fun h => ⟨reply, rfl, h⟩⟩
        simp [hr]

/-- A task of lane score above 3, answered by the model with an empty `steps` list, has no
steps. -/
theorem extract_steps_empty_reply :
    (extract "implement the authentication api if the database is ready"
      (some (.answered (.obj [("steps", .arr [])])))).1 = [] :=
  (extract_steps_empty_iff _ _).1.2 ⟨by decide +kernel, _, rfl, rfl⟩

end Taskflow.Steps
