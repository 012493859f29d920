import BalineseChart.Grammar.Printer
import BalineseChart.Proofs.Grammar.Grouping
import BalineseChart.Proofs.Grammar.Reading

/-!
# The text of a grammar states its rules

A grammar is printed with its rules grouped by their heads. If its words are plain, the
text has the format of grammar texts and states just these rules (`grammarText_text`):
the two comments in front are a gap, and each rule ends where its line does. So a text
that is printed and read gives the grammar of the grouped rules (`ofText_text_ofRules`).

Plain words are no restriction on what has been read: the words that a text states are
plain (`plainRules_of_grammarText`).
-/

namespace BalineseChart.Grammar

open Text Format

/-! ## Rules that a text can state -/

/-- The words of the rules can be stated by a grammar text. -/
def PlainRules (rules : List Rule) : Prop :=
  ∀ rule ∈ rules, ∀ text ∈ rule.body.word?, PlainWord text

instance : DecidablePred PlainRules := fun rules =>
  decidable_of_iff ((rules.all fun rule => rule.body.word?.all (PlainWord ·)) = true)
    (by simp [PlainRules, Option.all_eq_true])

theorem plainWord_of_wordText {text : String} {cs rest : List Char}
    (stated : WordText text cs rest) : PlainWord text := by
  rcases stated with ⟨name, small⟩
  rw [head?_of_nameText name] at small
  exact ⟨name.nonempty, name.chars, small⟩

theorem plainWord_of_alternativeText {text : String} {cs rest : List Char}
    (stated : AlternativeText cs (.word text) rest) : PlainWord text := by
  cases stated with
  | word front word back => exact plainWord_of_wordText word

theorem plainWord_of_alternativesText {bodies : List Production} {cs rest : List Char}
    (stated : AlternativesText cs bodies rest) {text : String} (member : .word text ∈ bodies) :
    PlainWord text := by
  induction stated with
  | last alternative =>
    cases List.mem_singleton.mp member
    exact plainWord_of_alternativeText alternative
  | more alternative _ ih =>
    rcases List.mem_cons.mp member with rfl | later
    · exact plainWord_of_alternativeText alternative
    · exact ih later

theorem plainRules_of_ruleText {rules : List Rule} {cs rest : List Char}
    (stated : RuleText cs rules rest) : PlainRules rules := by
  rcases stated with ⟨-, -, alternatives⟩
  intro rule member text word
  rcases List.mem_map.mp member with ⟨text' | ⟨left, right⟩, listed, rfl⟩
  · cases word
    exact plainWord_of_alternativesText alternatives listed
  · cases word

theorem plainRules_of_grammarText {rules : List Rule} {cs : List Char}
    (stated : GrammarText cs rules) : PlainRules rules := by
  rcases stated with ⟨-, stated⟩
  induction stated with
  | last rule _ => exact plainRules_of_ruleText rule
  | more rule _ _ ih =>
    intro other member
    rcases List.mem_append.mp member with first | later
    · exact plainRules_of_ruleText rule other first
    · exact ih other later

/-! ## Printed names -/

theorem chars_of_name (a : Nonterminal) : ∀ c ∈ a.name.toList, NameChar c := by
  have checked : a.name.toList.all (NameChar ·) = true := by cases a <;> decide
  intro c member
  exact of_decide_eq_true (List.all_eq_true.mp checked c member)

theorem capital_of_name (a : Nonterminal) : ∃ c, a.name.toList.head? = some c ∧ Capital c := by
  cases a <;> exact ⟨_, rfl, by decide⟩

theorem symbolText_name (a : Nonterminal) {rest : List Char}
    (ends : ∀ c ∈ rest.head?, ¬ NameChar c) : SymbolText a (a.name.toList ++ rest) rest := by
  rcases capital_of_name a with ⟨c, first, capital⟩
  have nonempty : a.name.toList ≠ [] := by
    intro empty
    rw [empty] at first
    cases first
  have name : NameText a.name.toList (a.name.toList ++ rest) rest :=
    ⟨rfl, nonempty, chars_of_name a, ends⟩
  refine ⟨name, ?_⟩
  rw [head?_of_nameText name, first]
  intro d member
  cases Option.mem_def.mp member
  exact capital

theorem wordText_of_plain {text : String} (plain : PlainWord text) {rest : List Char}
    (ends : ∀ c ∈ rest.head?, ¬ NameChar c) : WordText text (text.toList ++ rest) rest := by
  rcases plain with ⟨nonempty, chars, small⟩
  have name : NameText text.toList (text.toList ++ rest) rest := ⟨rfl, nonempty, chars, ends⟩
  rw [← head?_of_nameText name] at small
  exact ⟨name, small⟩

/-! ## Printed rules -/

theorem gap_space (rest : List Char) : Gap (' ' :: rest) rest :=
  .space (by decide) .none

theorem gap_lineEnd (rest : List Char) : Gap ('\n' :: rest) rest :=
  .space (by decide) .none

/-- What ends a printed name is no character of names. -/
theorem ends_cons {c : Char} {rest : List Char} (other : ¬ NameChar c) :
    ∀ d ∈ (c :: rest).head?, ¬ NameChar d := by
  intro d first
  cases Option.mem_def.mp first
  exact other

theorem ruleText_text {rule : Rule} (plain : ∀ text ∈ rule.body.word?, PlainWord text)
    (rest : List Char) : RuleText (rule.text.toList ++ rest) [rule] rest := by
  rcases rule with ⟨head, text | ⟨left, right⟩⟩
  · have shape : (Rule.text ⟨head, .word text⟩).toList ++ rest =
        head.name.toList ++ ' ' :: '-' :: '>' :: ' ' :: (text.toList ++ ';' :: rest) := by
      simp [Rule.text, Production.text]
    rw [shape]
    refine .intro (symbolText_name head (ends_cons (by decide))) (gap_space _) (.last ?_)
    exact .word (gap_space _) (wordText_of_plain (plain text rfl) (ends_cons (by decide))) .none
  · have shape : (Rule.text ⟨head, .pair left right⟩).toList ++ rest =
        head.name.toList ++ ' ' :: '-' :: '>' :: ' ' ::
          (left.name.toList ++ ' ' :: (right.name.toList ++ ';' :: rest)) := by
      simp [Rule.text, Production.text]
    rw [shape]
    refine .intro (symbolText_name head (ends_cons (by decide))) (gap_space _) (.last ?_)
    exact .pair (gap_space _) (symbolText_name left (ends_cons (by decide))) (gap_space _)
      (symbolText_name right (ends_cons (by decide))) .none

theorem rulesText_lines {rules : List Rule} (nonempty : rules ≠ []) (plain : PlainRules rules) :
    RulesText (rules.flatMap fun rule => rule.text.toList ++ ['\n']) rules := by
  induction rules with
  | nil => exact absurd rfl nonempty
  | cons rule others ih =>
    have first := ruleText_text (plain rule List.mem_cons_self)
    rw [List.flatMap_cons, List.append_assoc]
    rcases others with _ | ⟨next, others⟩
    · exact .last (first _) (gap_lineEnd [])
    · have later : PlainRules (next :: others) :=
        fun rule member => plain rule (List.mem_cons_of_mem _ member)
      exact .more (first _) (gap_lineEnd _) (ih (by simp) later)

/-! ## Printed grammars -/

theorem gap_trans {cs middle rest : List Char} (front : Gap cs middle) (back : Gap middle rest) :
    Gap cs rest := by
  induction front with
  | none => exact back
  | space white _ ih => exact .space white (ih back)
  | comment line ends _ ih => exact .comment line ends (ih back)

theorem gap_commentLine {body : List Char} (line : '\n' ∉ body) (rest : List Char) :
    Gap ('/' :: '/' :: (body ++ '\n' :: rest)) rest :=
  .comment line (Or.inr ⟨rest, rfl⟩) (gap_lineEnd rest)

theorem lineEnd_not_mem_name (a : Nonterminal) : '\n' ∉ a.name.toList :=
  fun member => absurd (chars_of_name a _ member) (by decide)

theorem gap_withoutRulesLine (g : Grammar) (rest : List Char) :
    Gap (g.withoutRulesLine.toList ++ rest) rest := by
  unfold withoutRulesLine
  split
  · exact .none
  · generalize g.withoutRules = as
    have names : (String.join (as.map fun a => " " ++ a.name)).toList =
        as.flatMap fun a => ' ' :: a.name.toList := by
      simp [String.toList_join, List.flatMap_map]
    have line : '\n' ∉ " without rules:".toList ++ as.flatMap fun a => ' ' :: a.name.toList := by
      simp [lineEnd_not_mem_name]
    simpa [names] using gap_commentLine line rest

/-- The printed text of a grammar with plain words states its grouped rules. -/
theorem grammarText_text {g : Grammar} (nonempty : g.rules ≠ []) (plain : PlainRules g.rules) :
    GrammarText g.text.toList g.rules := by
  have shape : g.text.toList = '/' :: '/' :: ((" start: ".toList ++ g.start.name.toList) ++ '\n' ::
      (g.withoutRulesLine.toList ++ g.rules.flatMap fun rule => rule.text.toList ++ ['\n'])) := by
    simp [text, String.toList_join, List.flatMap_map]
  have comment : '\n' ∉ " start: ".toList ++ g.start.name.toList := by
    simp [lineEnd_not_mem_name]
  rw [shape]
  exact .intro (gap_trans (gap_commentLine comment _) (gap_withoutRulesLine g _))
    (rulesText_lines nonempty plain)

/-- A printed text is read as the grammar of the grouped rules. -/
theorem ofText_text_ofRules {start : Nonterminal} {rules : List Rule}
    (headed : ∃ rule ∈ rules, rule.head = start) (plain : PlainRules rules) :
    ofText (ofRules start rules).text = .ok (ofRules start (ofRules start rules).rules) := by
  rcases exists_rules_eq_cons start rules headed with ⟨first, others, shape, head⟩
  have grouped : PlainRules (ofRules start rules).rules :=
    fun rule member => plain rule ((mem_rules_ofRules start rules).mp member)
  have stated := grammarText_text (by simp [shape]) grouped
  rw [shape] at stated
  rw [ofText_of_grammarText stated, shape, head]

end BalineseChart.Grammar
