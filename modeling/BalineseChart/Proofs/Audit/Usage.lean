import BalineseChart.Proofs.Audit.Pruning
import BalineseChart.Proofs.Tree.Layout

/-!
# A clean audit leaves no rule without a use

If an audit finds nothing unproductive or unreachable, then every rule takes part in a
derivation of some accepted input (`exists_derivation_using`). The derivation is built
from the inside out: the rule is put on top of trees for its parts, which there are as
its parts are productive, and the tree is then carried up a path from the start symbol,
one step at a time. A step up takes a part to its whole and has a tree for the other part
beside it (`exists_tree_of_leads`).
-/

namespace BalineseChart

section Clean

variable {start : Nonterminal} {rules : List Rule}

/-- What the rules mention is derivable and reachable, if the audit does not report it. -/
theorem derivable_and_reaches_of_clean
    (clean : ∀ a, ¬ Useless (Grammar.ofRules start rules).audit a) {rule : Rule}
    (member : rule ∈ rules) {a : Nonterminal} (mentioned : a ∈ rule.mentioned) :
    Derivable rules a ∧ (Grammar.ofRules start rules).Reaches start a := by
  have listed : a ∈ (Grammar.ofRules start rules).order :=
    ((Grammar.listed_ofRules start rules).mentions_iff a).mp
      (Grammar.mentions_ofRules.mpr (Or.inr ⟨rule, member, mentioned⟩))
  have useful := clean a
  rw [Useless, Grammar.unproductive_mem_audit_iff, Grammar.unreachable_mem_audit_iff, not_or,
    and_iff_right listed, and_iff_right listed, Decidable.not_not, Decidable.not_not,
    Grammar.mem_productive_iff, Grammar.mem_reachable_iff, Grammar.start_ofRules] at useful
  exact useful

/-- A rule with derivable parts is used at the root of some tree. -/
theorem exists_tree_of_rule {rule : Rule} (member : rule ∈ rules)
    (derivable : ∀ a ∈ rule.body.parts, Derivable rules a) :
    ∃ tree : Tree, tree.symbol = rule.head ∧ tree.Follows rules ∧ tree.Uses rule := by
  rcases rule with ⟨a, text | ⟨b, c⟩⟩
  · exact ⟨.leaf a text 0, rfl, member, rfl⟩
  · obtain ⟨left, rfl, leftFollows⟩ := derivable b List.mem_cons_self
    obtain ⟨right, rfl, rightFollows⟩ :=
      derivable c (List.mem_cons_of_mem left.symbol List.mem_cons_self)
    exact ⟨.join a left right, rfl, ⟨member, leftFollows, rightFollows⟩, Or.inl rfl⟩

/-- A tree of a part is inside a tree of the whole, if every part is derivable. -/
theorem exists_tree_of_leads
    (derivable : ∀ rule ∈ rules, ∀ a ∈ rule.mentioned, Derivable rules a) {a b : Nonterminal}
    (step : (Grammar.ofRules start rules).Leads a b) {used : Rule} {part : Tree}
    (root : part.symbol = b) (follows : part.Follows rules) (uses : part.Uses used) :
    ∃ tree : Tree, tree.symbol = a ∧ tree.Follows rules ∧ tree.Uses used := by
  obtain ⟨left, right, declared, side⟩ := Grammar.mem_partsOf.mp step
  have member := Grammar.mem_pairsOf_ofRules.mp declared
  have leftDerivable := derivable _ member left (by simp [Rule.mentioned, Production.parts])
  have rightDerivable := derivable _ member right (by simp [Rule.mentioned, Production.parts])
  rcases side with rfl | rfl
  · obtain ⟨other, rfl, otherFollows⟩ := rightDerivable
    subst root
    exact ⟨.join a part other, rfl, ⟨member, follows, otherFollows⟩, Or.inr (Or.inl uses)⟩
  · obtain ⟨other, rfl, otherFollows⟩ := leftDerivable
    subst root
    exact ⟨.join a other part, rfl, ⟨member, otherFollows, follows⟩, Or.inr (Or.inr uses)⟩

/-- A tree is inside a tree of whatever leads to its root, by induction on the path. -/
theorem exists_tree_of_reaches
    (derivable : ∀ rule ∈ rules, ∀ a ∈ rule.mentioned, Derivable rules a) {a b : Nonterminal}
    (path : (Grammar.ofRules start rules).Reaches a b) {used : Rule} {part : Tree}
    (root : part.symbol = b) (follows : part.Follows rules) (uses : part.Uses used) :
    ∃ tree : Tree, tree.symbol = a ∧ tree.Follows rules ∧ tree.Uses used := by
  induction path generalizing part with
  | refl => exact ⟨part, root, follows, uses⟩
  | tail path step ih =>
    obtain ⟨whole, wholeRoot, wholeFollows, wholeUses⟩ :=
      exists_tree_of_leads derivable step root follows uses
    exact ih wholeRoot wholeFollows wholeUses

end Clean

/-- If the audit reports nothing as unproductive or unreachable, every rule is used in a
derivation of some accepted input from the start symbol. -/
theorem exists_derivation_using {start : Nonterminal} {rules : List Rule}
    (clean : ∀ a, ¬ Useless (Grammar.ofRules start rules).audit a) :
    ∀ rule ∈ rules, ∃ (tokens : List String) (tree : Tree),
      (Chart.fill (.ofRules start rules) tokens).accepts start = true ∧
        tree.Derives rules start tokens ∧ tree.Uses rule := by
  intro rule member
  have derivable : ∀ other ∈ rules, ∀ a ∈ other.mentioned, Derivable rules a :=
    fun other member a mentioned => (derivable_and_reaches_of_clean clean member mentioned).1
  have path := (derivable_and_reaches_of_clean clean member List.mem_cons_self).2
  obtain ⟨part, partRoot, partFollows, partUses⟩ := exists_tree_of_rule member
    fun a part => derivable rule member a (List.mem_cons_of_mem rule.head part)
  obtain ⟨tree, root, follows, uses⟩ :=
    exists_tree_of_reaches derivable path partRoot partFollows partUses
  have accepted : (Chart.fill (.ofRules start rules) tree.words).accepts start = true :=
    Chart.accepts_fill_iff.mpr ⟨tree.length_words_pos, tree, root, rfl, follows⟩
  have derives := Tree.derives_placed follows
  rw [root] at derives
  exact ⟨tree.words, tree.placed 0, accepted, derives, (tree.uses_placed 0 rule).mpr uses⟩

/-- Noun phrases inside prepositional phrases inside noun phrases, with a rule stated twice. -/
def nested : List Rule :=
  [⟨.nounPhrase, .pair .nounPhrase .prepositionalPhrase⟩,
   ⟨.prepositionalPhrase, .pair .preposition .nounPhrase⟩, ⟨.preposition, .word "ring"⟩,
   ⟨.nounPhrase, .word "umah"⟩, ⟨.nounPhrase, .word "umah"⟩]

/-- A repeat is no fault here: the word of the innermost rule stands in some accepted
input. -/
theorem nested_preposition_used :
    (∀ a, ¬ Useless (Grammar.ofRules .nounPhrase nested).audit a) ∧
      ⟨.preposition, .word "ring"⟩ ∈ nested ∧
      ∃ (tokens : List String) (tree : Tree),
        (Chart.fill (.ofRules .nounPhrase nested) tokens).accepts .nounPhrase = true ∧
          tree.Derives nested .nounPhrase tokens ∧ tree.Uses ⟨.preposition, .word "ring"⟩ := by
  have productive : (Grammar.ofRules .nounPhrase nested).productive =
      .ofList (Grammar.ofRules .nounPhrase nested).order := by
    -- The first round leaves out the prepositional phrase, the third one adds nothing.
    rw [Grammar.productive, Grammar.saturate, if_neg (by decide), Grammar.saturate,
      if_neg (by decide), Grammar.saturate, if_pos (by decide)]
    rfl
  have reachable : (Grammar.ofRules .nounPhrase nested).reachable =
      .ofList (Grammar.ofRules .nounPhrase nested).order := by
    have inNounPhrase : (Grammar.ofRules .nounPhrase nested).partsOf .nounPhrase =
        [.nounPhrase, .prepositionalPhrase] := rfl
    have inPhrase : (Grammar.ofRules .nounPhrase nested).partsOf .prepositionalPhrase =
        [.preposition, .nounPhrase] := rfl
    have inPreposition : (Grammar.ofRules .nounPhrase nested).partsOf .preposition = [] := rfl
    simp only [Grammar.reachable, Grammar.start_ofRules, Grammar.reach,
      NonterminalSet.not_mem_empty, ↓reduceIte, inNounPhrase, List.append_nil,
      NonterminalSet.mem_insert, or_true, reduceCtorEq, or_self, inPhrase, inPreposition,
      List.nil_append, or_false]
    rfl
  have clean : ∀ a, ¬ Useless (Grammar.ofRules .nounPhrase nested).audit a := by
    intro a
    rw [Useless, Grammar.unproductive_mem_audit_iff, Grammar.unreachable_mem_audit_iff,
      productive, reachable, NonterminalSet.mem_ofList, and_not_self_iff, or_self_iff]
    exact not_false
  have member : ⟨.preposition, .word "ring"⟩ ∈ nested := by decide
  exact ⟨clean, member, exists_derivation_using clean _ member⟩

end BalineseChart
