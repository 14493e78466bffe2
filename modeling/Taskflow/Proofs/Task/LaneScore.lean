import Taskflow.Proofs.Steps.Lanes
import Taskflow.Proofs.Text.Pieces
/-!
The lane score of a task description, and which lane a description without indicator phrases
takes.
-/

namespace Taskflow.Task

open Text

def indicatorPhrases : List String :=
  simplePhrases ++ laneComplexPhrases ++ conditionalPhrases ++ parallelPhrases

/-- The points a description earns by its size: one past 100 characters and one more past 200,
one past 20 words and two more past 40. -/
def sizePoints (task : String) : Nat :=
  (if task.length > 100 then 1 else 0) + (if task.length > 200 then 1 else 0) +
    (if (words task).length > 20 then 1 else 0) + (if (words task).length > 40 then 2 else 0)

theorem sizePoints_le_five (task : String) : sizePoints task ≤ 5 := by
  unfold sizePoints
  split_ifs <;> omega

theorem countPresent_eq_zero {phrases : List String} {t : String}
    (h : ∀ p ∈ phrases, ¬ p.toList <:+: t.toList) : countPresent phrases t = 0 := by
  unfold countPresent
  rw [List.length_eq_zero_iff, List.filter_eq_nil_iff]
  intro p hp hhas
  exact h p hp (has_iff.1 hhas)

/-- A description in which no indicator occurs scores its size points. -/
theorem laneScore_of_no_indicator {task : String}
    (h : ∀ p ∈ indicatorPhrases, ¬ p.toList <:+: (lower task).toList) :
    laneScore task = sizePoints task := by
  have none_of : ∀ ps, (∀ p ∈ ps, p ∈ indicatorPhrases) → countPresent ps (lower task) = 0 :=
    fun ps hps => countPresent_eq_zero fun p hp => h p (hps p hp)
  have hs := none_of simplePhrases fun p hp => by simp [indicatorPhrases, hp]
  have hc := none_of laneComplexPhrases fun p hp => by simp [indicatorPhrases, hp]
  have hk := none_of conditionalPhrases fun p hp => by simp [indicatorPhrases, hp]
  have hl := none_of parallelPhrases fun p hp => by simp [indicatorPhrases, hp]
  have h5 := sizePoints_le_five task
  unfold laneScore
  dsimp only
  rw [hs, hc, hk, hl]
  unfold sizePoints at h5 ⊢
  split_ifs <;> omega

/-- Size points send a description to the model lane exactly past 100 characters and 40
words: without both, they add up to 3 at most. -/
theorem ofScore_sizePoints (task : String) :
    Lane.ofScore (sizePoints task) = .model ↔ 100 < task.length ∧ 40 < (words task).length := by
  unfold Lane.ofScore sizePoints
  split_ifs <;> simp <;> omega

end Taskflow.Task

namespace Taskflow.Steps

open Text

theorem extract_asks_model_iff (task : String) (reply : ModelReply) :
    (extract task (some reply)).2 = true ↔ Task.Lane.ofScore (Task.laneScore task) = .model := by
  cases hlane : Task.Lane.ofScore (Task.laneScore task) with
  | rules => simp [extract_rules hlane]
  | model => simp [extract_model hlane]

/-- A description in which no indicator phrase occurs, as a word or inside one, scores only its
size points, and the extractor hands it to the model exactly when it is longer than 100
characters and 40 words. -/
theorem extract_routes_without_indicators (task : String)
    (h : ∀ p ∈ Task.indicatorPhrases, ¬ p.toList <:+: (lower task).toList) :
    Task.laneScore task = Task.sizePoints task ∧
      ∀ reply, ((extract task (some reply)).2 = true ↔
        100 < task.length ∧ 40 < (words task).length) := by
  refine ⟨Task.laneScore_of_no_indicator h, fun reply => ?_⟩
  rw [extract_asks_model_iff, Task.laneScore_of_no_indicator h, Task.ofScore_sizePoints]

/-- A short description free of indicators scores nothing and stays on the rules lane. -/
theorem extract_routes_without_indicators_tidy_docs :
    (∀ p ∈ Task.indicatorPhrases, ¬ p.toList <:+: (lower "tidy the docs").toList) ∧
      Task.laneScore "tidy the docs" = Task.sizePoints "tidy the docs" ∧
      ∀ reply, ((extract "tidy the docs" (some reply)).2 = true ↔
        100 < "tidy the docs".length ∧ 40 < (words "tidy the docs").length) := by
  have h : ∀ p ∈ Task.indicatorPhrases, ¬ p.toList <:+: (lower "tidy the docs").toList := by
    decide +kernel
  exact ⟨h, extract_routes_without_indicators _ h⟩

/-- Indicators inside longer words count: `rest` in `restaurant` and `if` in `notify` give a
description of three short words, none an indicator, the score 5 and the model lane. -/
theorem laneScore_counts_inside_words :
    Task.indicatorPhrases.filter (has (lower "notify the restaurant")) = ["rest", "if"] ∧
      words "notify the restaurant" = ["notify", "the", "restaurant"] ∧
      Task.sizePoints "notify the restaurant" = 0 ∧ Task.laneScore "notify the restaurant" = 5 ∧
      Task.Lane.ofScore (Task.laneScore "notify the restaurant") = .model := by
  decide +kernel

end Taskflow.Steps
