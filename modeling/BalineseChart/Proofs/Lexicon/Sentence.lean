import BalineseChart.Proofs.Lexicon.Table

/-!
# The forms of a sentence

A sentence has two, three or four parts, in one of five forms. Its rules have two parts
each, so the table leaves the rest to the helpers `predComp`, `subjComp`, `predCompSubj`
and `predSubjComp`. Each of these has one rule and so is a name for a sequence of parts
(`standsFor_predComp` and the others). Hence the chart of any tokens has a sentence
exactly where adjacent spans have the parts of one of the forms
(`sentence_mem_cell_iff_forms`), for every choice of the word lists.
-/

namespace BalineseChart

namespace Lexicon

/-- The sequences of parts that make up a sentence. -/
def sentenceForms : List (List Nonterminal) :=
  [[.predicate, .subject],
   [.predicate, .complement, .subject],
   [.predicate, .subject, .complement],
   [.predicate, .complement, .subject, .adverbial],
   [.predicate, .subject, .complement, .adverbial]]

section Rules

variable {lexicon : Lexicon} {body : Production}

/-- What has no words of its own is made up of the pairs that the table has for it. -/
theorem mem_rules_of_wordless {a : Nonterminal} (wordless : lexicon.vocabularyOf a = []) :
    ⟨a, body⟩ ∈ lexicon.rules ↔ body ∈ (shapesOf a).map fun pair => .pair pair.1 pair.2 := by
  cases body with
  | word text => simp [word_mem_rules_iff, wordless]
  | pair left right => simp [pair_mem_rules_iff]

end Rules

section Helpers

variable {lexicon : Lexicon} {tokens : List String}

/-- A helper has one rule, for its one pair, so it stands for the parts of both sides. -/
theorem standsFor_of_shape {a b c : Nonterminal} {lefts rights : List Nonterminal}
    (wordless : lexicon.vocabularyOf a = []) (shape : shapesOf a = [(b, c)])
    (left : (Chart.fill lexicon.grammar tokens).StandsFor b lefts)
    (right : (Chart.fill lexicon.grammar tokens).StandsFor c rights) :
    (Chart.fill lexicon.grammar tokens).StandsFor a (lefts ++ rights) := by
  refine Chart.standsFor_of_rule (fun body => ?_) left right
  rw [mem_rules_of_wordless wordless, shape, List.map_singleton, List.mem_singleton]

variable (lexicon tokens)

theorem standsFor_predComp :
    (Chart.fill lexicon.grammar tokens).StandsFor .predComp [.predicate, .complement] :=
  standsFor_of_shape rfl rfl (Chart.standsFor_self _ _) (Chart.standsFor_self _ _)

theorem standsFor_subjComp :
    (Chart.fill lexicon.grammar tokens).StandsFor .subjComp [.subject, .complement] :=
  standsFor_of_shape rfl rfl (Chart.standsFor_self _ _) (Chart.standsFor_self _ _)

theorem standsFor_predCompSubj :
    (Chart.fill lexicon.grammar tokens).StandsFor .predCompSubj
      [.predicate, .complement, .subject] :=
  standsFor_of_shape rfl rfl (standsFor_predComp lexicon tokens) (Chart.standsFor_self _ _)

theorem standsFor_predSubjComp :
    (Chart.fill lexicon.grammar tokens).StandsFor .predSubjComp
      [.predicate, .subject, .complement] :=
  standsFor_of_shape rfl rfl (Chart.standsFor_self _ _) (standsFor_subjComp lexicon tokens)

end Helpers

/-- In every chart a sentence is found exactly where adjacent spans have, in order, the
parts of one of its five forms. -/
theorem sentence_mem_cell_iff_forms (lexicon : Lexicon) (tokens : List String) {i j : Nat}
    (ordered : i ≤ j) (inside : j < tokens.length) :
    .sentence ∈ (Chart.fill lexicon.grammar tokens).cell i j ordered inside ↔
      ∃ parts ∈ sentenceForms, (Chart.fill lexicon.grammar tokens).HasParts parts i j := by
  have single := Chart.standsFor_self (Chart.fill lexicon.grammar tokens)
  have predComp := standsFor_predComp lexicon tokens
  have subjComp := standsFor_subjComp lexicon tokens
  have predCompSubj := standsFor_predCompSubj lexicon tokens
  have predSubjComp := standsFor_predSubjComp lexicon tokens
  rw [mem_cell_grammar_iff ordered inside]
  simp only [@mem_rules_of_wordless lexicon _ .sentence rfl, shapesOf, sentenceForms,
    List.map_cons, List.map_nil, List.mem_cons, List.not_mem_nil, or_false, exists_eq_or_imp,
    exists_eq_left]
  rw [(single .predicate).realises_iff (single .subject), predComp.realises_iff (single .subject),
    (single .predicate).realises_iff subjComp, predCompSubj.realises_iff (single .adverbial),
    predSubjComp.realises_iff (single .adverbial)]
  rfl

/-- Four parts of six tokens are a sentence, in a form that needs two helpers. -/
theorem sentence_of_four_parts :
    ∃ (ordered : 0 ≤ 5)
      (inside : 5 < ["seneng", "pisan", "tiang", "ngajeng", "nasi", "dibi"].length),
      .sentence ∈ (Chart.fill fewWords.grammar
        ["seneng", "pisan", "tiang", "ngajeng", "nasi", "dibi"]).cell 0 5 ordered inside := by
  have ordered : 0 ≤ 5 := by decide
  have inside : 5 < ["seneng", "pisan", "tiang", "ngajeng", "nasi", "dibi"].length := by decide
  refine ⟨ordered, inside, (sentence_mem_cell_iff_forms fewWords _ ordered inside).mpr ?_⟩
  refine ⟨[.predicate, .subject, .complement, .adverbial], by decide, ?_⟩
  apply Chart.HasParts.cons (k := 1) (by decide) (by decide) (by decide +kernel)
  apply Chart.HasParts.cons (k := 2) (by decide) (by decide) (by decide +kernel)
  apply Chart.HasParts.cons (k := 4) (by decide) (by decide) (by decide +kernel)
  exact Chart.HasParts.last (by decide) (by decide) (by decide +kernel)

end Lexicon

end BalineseChart
