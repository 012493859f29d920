import BalineseChart.Proofs.Segmentation.Cutting

/-!
# What an evaluation counts

The outcomes of an evaluation are those of the grammatical sentences and then those of the
ungrammatical ones, each in order. An outcome comes from its own sentence alone: its verdict is
the grammar's on the sentence as it was given, although it is trimmed first
(`getElem?_outcomes_evaluate`).

Each outcome is of one of four kinds, and each kind is counted on its own (`count_evaluate`). So
the four counts make up all outcomes whatever these are (`Evaluation.total_eq`), and the correct
ones are the true positives and the true negatives (`Evaluation.correct_eq`), although they are
counted in another way. `evaluate_counts_verdicts` puts this together.
-/

namespace BalineseChart

open Text

/-! ## Kinds of outcomes -/

namespace Evaluation

/-- Every outcome is counted once. -/
theorem total_eq (evaluation : Evaluation) :
    evaluation.total = evaluation.truePositives + evaluation.falseNegatives +
      evaluation.trueNegatives + evaluation.falsePositives := by
  rcases evaluation with ⟨outcomes⟩
  simp only [total, truePositives, falseNegatives, trueNegatives, falsePositives, count]
  induction outcomes with
  | nil => rfl
  | cons outcome outcomes ih =>
    rcases outcome with ⟨sentence, tokens, _ | _, _ | _⟩ <;> simp [ih] <;> omega

/-- The correct outcomes are counted as true positives or as true negatives. -/
theorem correct_eq (evaluation : Evaluation) :
    evaluation.correct = evaluation.truePositives + evaluation.trueNegatives := by
  rcases evaluation with ⟨outcomes⟩
  simp only [correct, truePositives, trueNegatives, count]
  induction outcomes with
  | nil => rfl
  | cons outcome outcomes ih =>
    rcases outcome with ⟨sentence, tokens, _ | _, _ | _⟩ <;>
      simp [Outcome.isCorrect, ih] <;> omega

end Evaluation

/-! ## The outcomes of a grammar -/

namespace Grammar

variable (g : Grammar)

/-- The outcomes with a verdict among sentences that have one label. -/
theorem countP_outcome (label expected predicted : Bool) (sentences : List String) :
    (sentences.map (g.outcome label)).countP
        (fun o => o.expected == expected && o.predicted == predicted) =
      if label = expected then
        sentences.countP fun sentence => (g.analyse sentence).accepted == predicted
      else 0 := by
  rw [List.countP_map]
  split
  · next same =>
    apply List.countP_congr
    intro sentence _
    simp [g.outcome_eq, same]
  · next differ =>
    rw [List.countP_eq_zero]
    intro sentence _
    simp [g.outcome_eq, differ]

variable (positives negatives : List String)

/-- An outcome has the label of its sentence and the verdict of the grammar on it. -/
theorem getElem?_outcomes_evaluate (k : Nat) :
    (g.evaluate positives negatives).outcomes[k]? =
      (positives ++ negatives)[k]?.map fun sentence =>
        ⟨trimmed sentence, (g.analyse sentence).tokens, decide (k < positives.length),
          (g.analyse sentence).accepted⟩ := by
  have outcomes : ∀ label, g.outcome label = fun sentence =>
      ⟨trimmed sentence, (g.analyse sentence).tokens, label, (g.analyse sentence).accepted⟩ :=
    fun label => funext (g.outcome_eq label)
  rw [evaluate, List.getElem?_append, List.getElem?_append, List.length_map]
  split
  · next inPositives => rw [List.getElem?_map, decide_eq_true inPositives, outcomes true]
  · next inNegatives => rw [List.getElem?_map, decide_eq_false inNegatives, outcomes false]

theorem total_evaluate :
    (g.evaluate positives negatives).total = positives.length + negatives.length := by
  rw [Evaluation.total, evaluate, List.length_append, List.length_map, List.length_map]

/-- An outcome with some label is counted among the sentences with that label. -/
theorem count_evaluate (expected predicted : Bool) :
    (g.evaluate positives negatives).count expected predicted =
      (if expected then positives else negatives).countP fun sentence =>
        (g.analyse sentence).accepted == predicted := by
  rw [Evaluation.count, evaluate, List.countP_append, countP_outcome, countP_outcome]
  cases expected <;> simp

/-- A sentence is accepted or rejected. -/
theorem countP_accepted_add_rejected (sentences : List String) :
    (sentences.countP fun sentence => (g.analyse sentence).accepted == true) +
        (sentences.countP fun sentence => (g.analyse sentence).accepted == false) =
      sentences.length := by
  have either := List.length_eq_countP_add_countP
    (fun sentence => (g.analyse sentence).accepted == true) (l := sentences)
  simpa using either.symm

end Grammar

/-- An evaluation has an outcome for each sentence, which is the grammar's own verdict on that
sentence. It counts the accepted and the rejected sentences of each label, and these make up all
outcomes; the correct ones, from which the accuracy is computed, are the true positives and the
true negatives. -/
theorem evaluate_counts_verdicts (g : Grammar) (positives negatives : List String) :
    let evaluation := g.evaluate positives negatives
    evaluation.outcomes.length = positives.length + negatives.length ∧
    (∀ k : Nat, evaluation.outcomes[k]? =
      (positives ++ negatives)[k]?.map fun sentence =>
        ⟨trimmed sentence, (g.analyse sentence).tokens, decide (k < positives.length),
          (g.analyse sentence).accepted⟩) ∧
    (evaluation.truePositives = positives.countP (fun s => (g.analyse s).accepted == true) ∧
      evaluation.falseNegatives = positives.countP (fun s => (g.analyse s).accepted == false) ∧
      evaluation.trueNegatives = negatives.countP (fun s => (g.analyse s).accepted == false) ∧
      evaluation.falsePositives = negatives.countP (fun s => (g.analyse s).accepted == true)) ∧
    evaluation.truePositives + evaluation.falseNegatives = positives.length ∧
    evaluation.trueNegatives + evaluation.falsePositives = negatives.length ∧
    evaluation.truePositives + evaluation.falseNegatives + evaluation.trueNegatives +
      evaluation.falsePositives = evaluation.total ∧
    evaluation.correct = evaluation.truePositives + evaluation.trueNegatives ∧
    evaluation.accuracy =
      if evaluation.total = 0 then 0.0
      else (evaluation.truePositives + evaluation.trueNegatives).toFloat /
        evaluation.total.toFloat * 100.0 := by
  intro evaluation
  have counts := g.count_evaluate positives negatives
  have accepted := g.countP_accepted_add_rejected
  have correct := evaluation.correct_eq
  refine ⟨g.total_evaluate positives negatives, g.getElem?_outcomes_evaluate positives negatives,
    ⟨counts true true, counts true false, counts false false, counts false true⟩, ?_, ?_,
    evaluation.total_eq.symm, correct, ?_⟩
  · rw [Evaluation.truePositives, Evaluation.falseNegatives, counts, counts]
    exact accepted positives
  · rw [Evaluation.trueNegatives, Evaluation.falsePositives, counts, counts, Nat.add_comm]
    exact accepted negatives
  · rw [Evaluation.accuracy, correct]

end BalineseChart
