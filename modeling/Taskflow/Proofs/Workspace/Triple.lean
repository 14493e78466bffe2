import Taskflow.Workspace.Basic
/-!
Reasoning about workspace actions.
-/

namespace Taskflow.Workspace

/-- From `P`, the action returns `a` in a workspace satisfying `Q a`, or faults in one
satisfying `E`. -/
def Triple {α : Type} (P : Workspace → Prop) (act : WorkspaceM α) (Q : α → Workspace → Prop)
    (E : Workspace → Prop) : Prop :=
  ∀ w, P w → match act.run.run w with
    | (.ok a, w') => Q a w'
    | (.error _, w') => E w'

def Keeps {α β : Type} (π : Workspace → β) (act : WorkspaceM α) : Prop :=
  ∀ w, π (act.run.run w).2 = π w

section Run

variable {α β : Type}

theorem run_bind_eq (x : WorkspaceM α) (f : α → WorkspaceM β) (w : Workspace) :
    (x >>= f).run.run w = match x.run.run w with
      | (.ok a, w') => (f a).run.run w'
      | (.error e, w') => (.error e, w') := by
  simp only [ExceptT.run_bind, StateT.run_bind]
  rcases x.run.run w with ⟨_ | a, w'⟩ <;> rfl

@[simp] theorem run_lift_ok (a : α) (w : Workspace) :
    (lift (.ok a : Except Fault α)).run.run w = (.ok a, w) := rfl

@[simp] theorem run_lift_error (e : Fault) (w : Workspace) :
    (lift (.error e : Except Fault α)).run.run w = (.error e, w) := rfl

theorem run_attempt (act : WorkspaceM α) (w : Workspace) :
    (attempt act).run.run w = (.ok (act.run.run w).1, (act.run.run w).2) := by
  have hm : act.map (@Except.ok Fault α) = (@Except.ok Fault α <$> act : WorkspaceM _) := rfl
  rcases h : act.run.run w with ⟨_ | a, w'⟩ <;>
    simp only [attempt, hm, ExceptT.run_tryCatch, ExceptT.run_map, StateT.run_bind,
      StateT.run_map, h] <;> rfl

end Run

namespace Triple

variable {α β : Type} {P P' : Workspace → Prop} {Q Q' : α → Workspace → Prop}
  {E E' : Workspace → Prop} {act : WorkspaceM α}

theorem conseq (h : Triple P act Q E) (hp : ∀ w, P' w → P w) (hq : ∀ a w, Q a w → Q' a w)
    (he : ∀ w, E w → E' w) : Triple P' act Q' E' := by
  intro w hw
  have h1 := h w (hp w hw)
  revert h1
  rcases act.run.run w with ⟨_ | a, w'⟩
  · exact he w'
  · exact hq a w'

/-- Two triples of one action hold together. -/
theorem and {P₂ : Workspace → Prop} {Q₂ : α → Workspace → Prop} {E₂ : Workspace → Prop}
    (h₁ : Triple P act Q E) (h₂ : Triple P₂ act Q₂ E₂) :
    Triple (fun w => P w ∧ P₂ w) act (fun a w => Q a w ∧ Q₂ a w) (fun w => E w ∧ E₂ w) := by
  rintro w ⟨hw, hw₂⟩
  have h1 := h₁ w hw
  have h2 := h₂ w hw₂
  revert h1 h2
  rcases act.run.run w with ⟨_ | a, w'⟩
  · exact And.intro
  · exact And.intro

theorem exists_pre {γ : Type} {P : γ → Workspace → Prop} (h : ∀ c, Triple (P c) act Q E) :
    Triple (fun w => ∃ c, P c w) act Q E := by
  rintro w ⟨c, hc⟩
  exact h c w hc

theorem ret (a : α) (h : ∀ w, P w → Q a w) : Triple P (pure a) Q E := h

theorem fault (e : Fault) (h : ∀ w, P w → E w) : Triple P (throw e : WorkspaceM α) Q E := h

theorem bind {R : β → Workspace → Prop} {f : α → WorkspaceM β} (hx : Triple P act Q E)
    (hf : ∀ a, Triple (Q a) (f a) R E) : Triple P (act >>= f) R E := by
  intro w hw
  have h1 := hx w hw
  rw [run_bind_eq]
  revert h1
  rcases act.run.run w with ⟨_ | a, w'⟩
  · exact id
  · exact hf a w'

theorem ite {c : Prop} [Decidable c] {a b : WorkspaceM α} (ha : c → Triple P a Q E)
    (hb : ¬ c → Triple P b Q E) : Triple P (if c then a else b) Q E := by
  by_cases h : c
  · rw [if_pos h]
    exact ha h
  · rw [if_neg h]
    exact hb h

theorem read {f : Workspace → α} (h : ∀ w, P w → Q (f w) w) :
    Triple P (do return f (← get)) Q E := h

theorem get_bind {f : Workspace → WorkspaceM β} {R : β → Workspace → Prop}
    (h : ∀ w, P w → Triple P (f w) R E) : Triple P (get >>= f) R E := by
  intro w hw
  rw [run_bind_eq]
  exact h w hw w hw

theorem update {R : Unit → Workspace → Prop} {g : Workspace → Workspace}
    (h : ∀ w, P w → R () (g w)) : Triple P (modify g : WorkspaceM Unit) R E := h

theorem lift_result {r : Except Fault α} (h : ∀ w, P w → ∀ a, r = .ok a → Q a w)
    (he : ∀ w, P w → (∀ a, r ≠ .ok a) → E w) : Triple P (lift r) Q E := by
  intro w hw
  cases r with
  | ok a => exact h w hw a rfl
  | error e => exact he w hw (fun _ h => by cases h)

theorem lift_ok (r : Except Fault α) :
    Triple P (lift r) (fun a w => P w ∧ r = .ok a) (fun w => P w ∧ ∀ a, r ≠ .ok a) :=
  lift_result (fun _ hw _ ha => ⟨hw, ha⟩) (fun _ hw ha => ⟨hw, ha⟩)

/-- A step that may fail, then the rest: a fault of the step must satisfy `E`, and the rest
runs knowing what the step gave. -/
theorem lift_bind {r : Except Fault α} {R : β → Workspace → Prop} {f : α → WorkspaceM β}
    (he : ∀ e, r = .error e → ∀ w, P w → E w) (hf : ∀ a, r = .ok a → Triple P (f a) R E) :
    Triple P (lift r >>= f) R E := by
  intro w hw
  rw [run_bind_eq]
  cases r with
  | error e => exact he e rfl w hw
  | ok a => exact hf a rfl w hw

theorem lift_ok_bind {r : Except Fault α} {a : α} {R : β → Workspace → Prop} {f : α → WorkspaceM β}
    (hr : r = .ok a) (h : Triple P (f a) R E) : Triple P (lift r >>= f) R E := by
  subst hr
  exact lift_bind (fun _ he => nomatch he) fun _ ha => by
    cases ha
    exact h

theorem lift_error_bind {r : Except Fault α} {e : Fault} {R : β → Workspace → Prop}
    {f : α → WorkspaceM β} (hr : r = .error e) (h : ∀ w, P w → E w) : Triple P (lift r >>= f) R E := by
  subst hr
  exact lift_bind (fun _ _ => h) fun _ ha => nomatch ha

/-- A caught action returns its outcome; a fault in it becomes an error value. -/
theorem attempt {R : Except Fault α → Workspace → Prop} (h : Triple P act Q E)
    (hq : ∀ a w, Q a w → R (.ok a) w) (he : ∀ e w, E w → R (.error e) w) :
    Triple P (Workspace.attempt act) R E' := by
  intro w hw
  have h1 := h w hw
  rw [run_attempt]
  revert h1
  rcases act.run.run w with ⟨_ | a, w'⟩
  · exact he _ w'
  · exact hq a w'

/-- A caught action that keeps an invariant, whether it returns or faults, keeps it and never
faults. -/
theorem attempt_stays (h : Triple P act (fun _ => P) P) :
    Triple P (Workspace.attempt act) (fun _ => P) E :=
  attempt h (fun _ _ hw => hw) (fun _ _ hw => hw)

theorem attempt_ok (h : Triple P act Q (fun _ => False)) :
    Triple P (Workspace.attempt act) (fun r w => ∃ a, Q a w ∧ r = .ok a) E :=
  attempt h (fun a _ hw => ⟨a, hw, rfl⟩) (fun _ _ hw => hw.elim)

theorem of_pre (h : ∀ w, P w → Triple (fun w' => w' = w) act Q E) : Triple P act Q E :=
  fun w hw => h w hw w rfl

theorem run_ok (h : Triple P act Q (fun _ => False)) {w : Workspace} (hw : P w) :
    ∃ a, (act.run.run w).1 = .ok a ∧ Q a (act.run.run w).2 := by
  have hrun := h w hw
  rcases hr : act.run.run w with ⟨_ | a, w'⟩ <;> rw [hr] at hrun
  · exact hrun.elim
  · exact ⟨a, rfl, hrun⟩

/-- An action that cannot fault from the one workspace `w`, and returns nothing, ends in a
workspace satisfying `Q`. -/
theorem run_unit {act : WorkspaceM Unit} {w : Workspace} {Q : Workspace → Prop}
    (h : Triple (· = w) act (fun _ => Q) (fun _ => False)) :
    ∃ w', act.run.run w = (.ok (), w') ∧ Q w' := by
  obtain ⟨⟨⟩, hr, hq⟩ := run_ok h rfl
  exact ⟨_, Prod.ext hr rfl, hq⟩

/-- A step from one workspace, then the rest from where the step ended, knowing its run. -/
theorem bind_run {w : Workspace} {R : β → Workspace → Prop} {f : α → WorkspaceM β}
    {E' : Workspace → Prop} (h : Triple P act Q E) (hw : P w) (he : ∀ w', E w' → E' w')
    (hf : ∀ a w', Q a w' → act.run.run w = (.ok a, w') → Triple (· = w') (f a) R E') :
    Triple (· = w) (act >>= f) R E' := by
  intro w₀ h₀
  rw [h₀, run_bind_eq]
  have h1 := h w hw
  revert h1
  rcases hr : act.run.run w with ⟨_ | a, w'⟩
  · exact he w'
  · exact fun hq => hf a w' hq hr w' rfl

theorem pure_pre {φ : Prop} (h : φ → Triple P act Q E) : Triple (fun w => P w ∧ φ) act Q E := by
  rintro w ⟨hw, hφ⟩
  exact h hφ w hw

/-- A caught action that does not fault, then the rest on the value it returned. -/
theorem attempt_ok_bind {R : β → Workspace → Prop} {f : Except Fault α → WorkspaceM β}
    (h : Triple P act Q (fun _ => False)) (hf : ∀ a, Triple (Q a) (f (.ok a)) R E) :
    Triple P (Workspace.attempt act >>= f) R E :=
  bind (attempt_ok h) fun _ => exists_pre fun a => pure_pre fun hr => by
    subst hr
    exact hf a

/-- A fold over a list keeps an invariant that each step keeps. -/
theorem foldlM {I : β → Workspace → Prop} {f : β → α → WorkspaceM β} :
    ∀ (xs : List α) (b : β), (∀ b x, x ∈ xs → Triple (I b) (f b x) I E) →
      Triple (I b) (xs.foldlM f b) I E
  | [], b, _ => ret b fun _ h => h
  | x :: xs, b, h => by
    rw [List.foldlM_cons]
    exact bind (h b x List.mem_cons_self) fun b' =>
      foldlM xs b' fun b'' y hy => h b'' y (List.mem_cons_of_mem x hy)

/-- A loop over a list, with an invariant on the items done so far: each step from the
invariant after `pre` gives it after `pre ++ [x]`, or after the whole list when it stops. -/
theorem forIn_prefix (I : List α → β → Workspace → Prop) {xs : List α}
    {f : α → β → WorkspaceM (ForInStep β)}
    (h : ∀ pre x suf b, xs = pre ++ x :: suf → Triple (I pre b) (f x b)
      (fun r w => match r with
        | .yield b' => I (pre ++ [x]) b' w
        | .done b' => I xs b' w) E) (b : β) :
    Triple (I [] b) (ForIn.forIn xs b f) (I xs) E := by
  -- the loop over the rest of the list, from any point of it
  suffices ∀ suf pre b, xs = pre ++ suf → Triple (I pre b) (ForIn.forIn suf b f) (I xs) E from
    this xs [] b rfl
  intro suf
  induction suf with
  | nil =>
    intro pre b hxs
    rw [List.append_nil] at hxs
    subst hxs
    exact ret b fun _ hw => hw
  | cons x suf ih =>
    intro pre b hxs
    rw [List.forIn_cons]
    refine bind (h pre x suf b hxs) fun r => ?_
    cases r with
    | done b' => exact ret b' fun _ hw => hw
    | yield b' => exact ih (pre ++ [x]) b' (by rw [hxs, List.append_assoc]; rfl)

end Triple

namespace Keeps

variable {α β γ : Type} {π : Workspace → γ} {act : WorkspaceM α}

theorem triple {P : Workspace → Prop} (h : Keeps π act) (hp : ∀ w w', π w' = π w → P w → P w') :
    Triple P act (fun _ => P) P := by
  intro w hw
  have h1 := hp w _ (h w) hw
  revert h1
  rcases act.run.run w with ⟨_ | a, w'⟩
  · exact id
  · exact id

theorem ret (a : α) : Keeps π (pure a) := fun _ => rfl

theorem fault (e : Fault) : Keeps π (throw e : WorkspaceM α) := fun _ => rfl

theorem lift (r : Except Fault α) : Keeps π (Workspace.lift r) := by
  intro w
  cases r <;> rfl

theorem bind {f : α → WorkspaceM β} (hx : Keeps π act) (hf : ∀ a, Keeps π (f a)) :
    Keeps π (act >>= f) := by
  intro w
  have h1 := hx w
  rw [run_bind_eq]
  revert h1
  rcases act.run.run w with ⟨_ | a, w'⟩
  · exact id
  · intro h1
    exact (hf a w').trans h1

theorem ite {p : Prop} [Decidable p] {a b : WorkspaceM α} (ha : Keeps π a) (hb : Keeps π b) :
    Keeps π (if p then a else b) := by
  split
  · exact ha
  · exact hb

theorem read {f : Workspace → α} : Keeps π (do return f (← get)) := fun _ => rfl

theorem of_triple (h : ∀ w₀, Triple (· = w₀) act (fun _ w => π w = π w₀) (fun w => π w = π w₀)) :
    Keeps π act := by
  intro w₀
  have h1 := h w₀ w₀ rfl
  revert h1
  rcases act.run.run w₀ with ⟨_ | a, w'⟩ <;> exact id

theorem comp {δ : Type} (h : Keeps π act) (f : γ → δ) : Keeps (f ∘ π) act :=
  fun w => congrArg f (h w)

theorem update {g : Workspace → Workspace} (h : ∀ w, π (g w) = π w) :
    Keeps π (modify g : WorkspaceM Unit) := h

theorem attempt (h : Keeps π act) : Keeps π (Workspace.attempt act) := by
  intro w
  rw [run_attempt]
  exact h w

theorem foldlM {f : β → α → WorkspaceM β} :
    ∀ (xs : List α) (b : β), (∀ b x, Keeps π (f b x)) → Keeps π (xs.foldlM f b)
  | [], b, _ => ret b
  | x :: xs, b, h => by
    rw [List.foldlM_cons]
    exact bind (h b x) fun b' => foldlM xs b' h

theorem forIn {f : α → β → WorkspaceM (ForInStep β)} (h : ∀ x b, Keeps π (f x b)) :
    ∀ (xs : List α) (b : β), Keeps π (ForIn.forIn xs b f)
  | [], b => ret b
  | x :: xs, b => by
    rw [List.forIn_cons]
    refine bind (h x b) fun r => ?_
    cases r with
    | done b' => exact ret b'
    | yield b' => exact forIn h xs b'

end Keeps

end Taskflow.Workspace
