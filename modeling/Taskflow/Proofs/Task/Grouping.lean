import Taskflow.Proofs.Task.Rerun
/-!
Grouping a task's subtasks, and the todos of a task a run creates.
-/

namespace Taskflow.Task

open Json Workspace Queue

/-! ## The groups -/

section Groups

variable {subs : List Subtask} {task : String}

/-- The two shapes of a grouping: one group of all the subtasks, or the configuration subtasks
and, when there are any, the others. -/
theorem groupSubtasks_cases (subs : List Subtask) (task : String) :
    (∃ heading, groupSubtasks subs task = [(heading, subs)]) ∨
      groupSubtasks subs task = ("Configuration and setup tasks", subs.filter isConfig) ::
        (if (subs.filter (!isConfig ·)).isEmpty then []
          else [("Implementation and validation tasks", subs.filter (!isConfig ·))]) := by
  unfold groupSubtasks
  split
  · exact .inl ⟨_, rfl⟩
  · split
    · exact .inr rfl
    · exact .inl ⟨_, rfl⟩

/-- Every subtask lands in exactly one group: the groups' subtasks, group after group, are the
subtasks rearranged. -/
theorem groupSubtasks_perm (subs : List Subtask) (task : String) :
    ((groupSubtasks subs task).flatMap (·.2)).Perm subs := by
  rcases groupSubtasks_cases subs task with ⟨heading, hg⟩ | hg
  · simp [hg]
  · rw [hg]
    -- the configuration subtasks and the others are a filter and its complement
    have hsplit := List.filter_append_perm isConfig subs
    split
    · next hnone =>
      rw [List.isEmpty_iff] at hnone
      simpa [hnone] using hsplit
    · simpa using hsplit

theorem groupSubtasks_sublist : ∀ g ∈ groupSubtasks subs task, g.2.Sublist subs := by
  intro g hg
  rcases groupSubtasks_cases subs task with ⟨heading, he⟩ | he
  · rw [he, List.mem_singleton] at hg
    subst hg
    exact List.Sublist.refl subs
  · rw [he] at hg
    rcases List.mem_cons.1 hg with rfl | hg
    · exact List.filter_sublist
    · split at hg
      · cases hg
      · rw [List.mem_singleton.1 hg]
        exact List.filter_sublist

end Groups

/-! ## A run that creates the task -/

section Created

variable {c : Time.Civil} {L : List Value} {d : String}

/-- A run at clock `c` on a store with no open task described `d`, whose tasks all have ids
other than the one the run makes, creates the task with one todo per group, in order. -/
theorem triple_executeTask_new (hL : Tidy L)
    (hopen : ∀ t ∈ L, (t.getD "status" .null).same (.str "completed") = false →
      ∃ v, t.item "description" = .ok v ∧ v.same (.str d) = false)
    (hids : OthersIds (newId (Time.manila c).civil d) L) :
    Triple (StoreAt .execution c L) (executeTask d)
      (fun _ => StoreAt .execution c (fresh c L ++ [taskRecord (newId (Time.manila c).civil d) d
        (todosOf ((groupsOf d).map groupText)) (Time.manila c).iso]))
      (fun _ => False) := by
  have hothers : OthersIds (newId (Time.manila c).civil d) (fresh c L) :=
    fun u hu => hids u (List.mem_filter.1 hu).1
  -- the task is new, so none of its groups' headings is among its todos
  exact (triple_executeTask fresh_fresh hothers hL.fresh (triple_findOrCreate_new hL hopen)
    (rfl : presentOf none = .ok [])).conseq (fun _ h => h)
    (fun _ _ h => by rwa [List.nil_append, addedTexts_nil] at h) (fun _ h => h)

end Created

/-- Grouping gives every subtask to exactly one group, in order, and a run that creates its task
adds one todo per group: the heading, then the subtasks numbered from one. -/
theorem groups_partition_subtasks (subs : List Subtask) (d : String) (w : Workspace)
    (c : Time.Civil) (L : List Value) :
    (((groupSubtasks subs d).flatMap (·.2)).Perm subs ∧
      ∀ g ∈ groupSubtasks subs d, g.2.Sublist subs) ∧
    (StoreAt .execution c L w → Tidy L →
      (∀ t ∈ L, (t.getD "status" .null).same (.str "completed") = false →
        ∃ v, t.item "description" = .ok v ∧ v.same (.str d) = false) →
      OthersIds (newId (Time.manila c).civil d) L →
      StoreAt .execution c (fresh c L ++ [taskRecord (newId (Time.manila c).civil d) d
          (todosOf ((groupSubtasks (chunk d none).subtasks d).map
            fun g => groupTodoText g.1 (g.2.map (·.description))))
          (Time.manila c).iso])
        ((executeTask d).run.run w).2) :=
  ⟨⟨groupSubtasks_perm subs d, groupSubtasks_sublist⟩, fun hw hL hopen hids => by
    obtain ⟨_, -, hrun⟩ := Triple.run_ok (triple_executeTask_new hL hopen hids) hw
    exact hrun⟩

/-- A run on the empty store, on the description of a one-step task. -/
theorem groups_partition_subtasks_empty_store :
    let w : Workspace := { clock := { year := 2025, month := 1, day := 15, hour := 12 } }
    let d := "fix typo quick simple"
    StoreAt .execution w.clock [] w ∧
    StoreAt .execution w.clock ([] ++ [taskRecord (newId (Time.manila w.clock).civil d) d
        (todosOf ((groupSubtasks (chunk d none).subtasks d).map
          fun g => groupTodoText g.1 (g.2.map (·.description))))
        (Time.manila w.clock).iso])
      ((executeTask d).run.run w).2 := by
  intro w d
  have hw : StoreAt .execution w.clock [] w := ⟨rfl, rfl, rfl⟩
  exact ⟨hw, (groups_partition_subtasks [] d w w.clock []).2 hw
    (fun _ h => (List.not_mem_nil h).elim) (fun _ h => (List.not_mem_nil h).elim)
    (fun _ h => (List.not_mem_nil h).elim)⟩

end Taskflow.Task
