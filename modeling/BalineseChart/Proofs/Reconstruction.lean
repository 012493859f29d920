import BalineseChart.Analysis
import BalineseChart.Proofs.Chart.Recognition
import BalineseChart.Proofs.Chart.Search

/-!
# Accepted sentences have a derivation

The analysis of a sentence asks its chart for a derivation without looking at the
words again. This never fails: `tree_analyse` says that the result is no tree if the
sentence was rejected, and otherwise a tree that derives the tokens of the sentence
from the start symbol by the rules of the grammar.

The search finds a tree because a filled chart confirms one for each member of a
cell, and what it finds follows the rules because the start symbol is in the cell of
the whole input (`reconstruct_fill`). The spans that its branches store are those of
their parts because the search makes no branch but by `Tree.join`.
-/

namespace BalineseChart

/-- An accepted input has a derivation of all of its tokens, and the search finds one. -/
theorem reconstruct_fill {start : Nonterminal} {rules : List Rule} {tokens : List String}
    (accepted :
      (Chart.fill (.ofRules start rules) tokens).accepts (Grammar.ofRules start rules).start =
        true) :
    ∃ tree : Tree,
      reconstruct (.ofRules start rules) (Chart.fill (.ofRules start rules) tokens) tokens =
        .ok (some tree) ∧ tree.Derives rules start tokens := by
  obtain ⟨nonempty, member⟩ := Chart.accepts_iff.mp accepted
  have inside := Chart.last_lt_size nonempty
  obtain ⟨witness, root, witnessed⟩ := Chart.exists_confirmed_of_mem_cell_fill _ inside member
  have fits : tokens.length = (Chart.fill (.ofRules start rules) tokens).size := rfl
  obtain ⟨tree, found⟩ := @exists_derive_of_confirmed _ _ _ fits _ _ _ witnessed inside
  rw [root] at found
  obtain ⟨sameRoot, confirmed⟩ := confirmed_of_derive found
  rw [← sameRoot] at member
  have words : tree.words = tokens := by
    rw [confirmed.words_eq, Chart.size_fill, spanned_all nonempty]
  have positions : tree.positions = List.range tokens.length := by
    have whole : tokens.length - 1 + 1 - 0 = tokens.length := Nat.sub_add_cancel nonempty
    rw [confirmed.positions_eq, Chart.size_fill, whole, List.range_eq_range']
  refine ⟨tree, reconstruct_of_derive accepted found, ?_⟩
  exact {
    root := sameRoot.trans (Grammar.start_ofRules start rules)
    span := by rw [confirmed.first_eq, confirmed.last_eq, Chart.size_fill]
    leaves := List.zip_of_prod positions words
    follows := confirmed.follows inside member
    joined := confirmed.joined }

theorem Analysis.tree_of_rejected {analysis : Analysis} (rejected : analysis.accepted = false)
    (g : Grammar) : analysis.tree g = .ok none := by
  rw [tree, rejected, if_neg Bool.false_ne_true]

theorem Analysis.tree_of_accepted {analysis : Analysis} (accepted : analysis.accepted = true)
    (g : Grammar) : analysis.tree g = reconstruct g analysis.chart analysis.tokens := by
  rw [tree, if_pos accepted]

/-- An analysis has a tree if the sentence was accepted and none if it was not; to ask for
it is never a failure. -/
theorem exists_tree_analyse (start : Nonterminal) (rules : List Rule) (sentence : String) :
    ∃ tree? : Option Tree,
      ((Grammar.ofRules start rules).analyse sentence).tree (.ofRules start rules) = .ok tree? ∧
        tree?.isSome = ((Grammar.ofRules start rules).analyse sentence).accepted := by
  cases verdict : ((Grammar.ofRules start rules).analyse sentence).accepted with
  | false => exact ⟨none, Analysis.tree_of_rejected verdict _, rfl⟩
  | true =>
    obtain ⟨tree, found, -⟩ := reconstruct_fill verdict
    exact ⟨some tree, (Analysis.tree_of_accepted verdict _).trans found, rfl⟩

/-- The tree of a sentence's analysis is never a failure: there is none exactly if the
sentence was rejected, and else it derives the tokens from the start symbol. -/
theorem tree_analyse (start : Nonterminal) (rules : List Rule) (sentence : String) :
    (∀ failure, ((Grammar.ofRules start rules).analyse sentence).tree (.ofRules start rules) ≠
      .error failure) ∧
    (((Grammar.ofRules start rules).analyse sentence).tree (.ofRules start rules) = .ok none ↔
      ((Grammar.ofRules start rules).analyse sentence).accepted = false) ∧
    (((Grammar.ofRules start rules).analyse sentence).accepted = true →
      ∃ tree : Tree,
        ((Grammar.ofRules start rules).analyse sentence).tree (.ofRules start rules) =
          .ok (some tree) ∧
        tree.Derives rules start ((Grammar.ofRules start rules).analyse sentence).tokens) := by
  cases verdict : ((Grammar.ofRules start rules).analyse sentence).accepted with
  | false =>
    have none_found : ((Grammar.ofRules start rules).analyse sentence).tree (.ofRules start rules) =
        .ok none := by
      rw [Analysis.tree, verdict]
      rfl
    rw [none_found]
    exact ⟨fun failure absurd => (nomatch absurd), by simp, fun absurd => (nomatch absurd)⟩
  | true =>
    obtain ⟨tree, reconstructed, derives⟩ := reconstruct_fill verdict
    have found : ((Grammar.ofRules start rules).analyse sentence).tree (.ofRules start rules) =
        .ok (some tree) := by
      rw [Analysis.tree, verdict, if_pos rfl]
      exact reconstructed
    rw [found]
    exact ⟨fun failure absurd => (nomatch absurd), by simp, fun _ => ⟨tree, rfl, derives⟩⟩

/-- Three repeated words have two derivations, and one of them is found. -/
theorem tree_repetition :
    ((Grammar.ofRules .sentence (repetition "a")).analyse "a a a").accepted = true ∧
      ∃ tree : Tree,
        ((Grammar.ofRules .sentence (repetition "a")).analyse "a a a").tree
          (.ofRules .sentence (repetition "a")) = .ok (some tree) ∧
        tree.Derives (repetition "a") .sentence
          ((Grammar.ofRules .sentence (repetition "a")).analyse "a a a").tokens := by
  have accepted :
      ((Grammar.ofRules .sentence (repetition "a")).analyse "a a a").accepted = true := by
    decide +kernel
  exact ⟨accepted, (tree_analyse .sentence (repetition "a") "a a a").2.2 accepted⟩

end BalineseChart
