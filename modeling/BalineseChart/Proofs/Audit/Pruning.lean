import BalineseChart.Proofs.Audit.Productive
import BalineseChart.Proofs.Audit.Reachable
import BalineseChart.Proofs.Reconstruction

/-!
# Leaving out what an audit finds useless

A rule that mentions an unproductive or an unreachable nonterminal has no place in a
derivation from the start symbol. `pruned` leaves out all such rules at once. The chart
of the remaining grammar may lack nonterminals that the start symbol cannot reach, but
`mem_cell_pruned_iff` says that the two charts have the same reachable ones.

That is enough for the search for a derivation. From a reachable nonterminal it asks for
reachable ones only, and a pair that was left out has a part that no chart can have, so
its splits were never tried (`splits_pruned`). Hence the same inputs are accepted, with
the same trees (`reconstruct_pruned`).

The remaining grammar need not pass its own audit: what the start symbol reached only
through a rule that was left out is unreachable afterwards.
-/

namespace BalineseChart

/-- One of the findings says that the nonterminal takes part in no derivation from the
start symbol. -/
def Useless (findings : List Issue) (a : Nonterminal) : Prop :=
  .unproductive a ∈ findings ∨ .unreachable a ∈ findings

instance (findings : List Issue) (a : Nonterminal) : Decidable (Useless findings a) :=
  inferInstanceAs (Decidable (_ ∨ _))

/-- Whether nothing that the rule mentions is useless. -/
def Rule.isUseful (findings : List Issue) (rule : Rule) : Bool :=
  decide (∀ a ∈ rule.mentioned, ¬ Useless findings a)

/-- The rules, in order, without those that mention a nonterminal which the audit of
their grammar finds unproductive or unreachable. -/
def pruned (start : Nonterminal) (rules : List Rule) : List Rule :=
  rules.filter (Rule.isUseful (Grammar.ofRules start rules).audit)

/-! ## The rules that remain -/

section Rules

variable {start : Nonterminal} {rules : List Rule}

theorem mem_of_mem_pruned {rule : Rule} (kept : rule ∈ pruned start rules) : rule ∈ rules :=
  (List.mem_filter.mp kept).1

theorem not_useless {a : Nonterminal} (derivable : Derivable rules a)
    (reached : a ∈ (Grammar.ofRules start rules).reachable) :
    ¬ Useless (Grammar.ofRules start rules).audit a := by
  intro useless
  rcases useless with unproductive | unreachable
  · exact (Grammar.unproductive_mem_audit_iff.mp unproductive).2
      (Grammar.mem_productive_iff.mpr derivable)
  · exact (Grammar.unreachable_mem_audit_iff.mp unreachable).2 reached

theorem word_isUseful {a : Nonterminal} {text : String} (rule : ⟨a, .word text⟩ ∈ rules)
    (reached : a ∈ (Grammar.ofRules start rules).reachable) :
    Rule.isUseful (Grammar.ofRules start rules).audit ⟨a, .word text⟩ = true := by
  apply decide_eq_true
  intro b mentioned
  obtain rfl := List.mem_singleton.mp mentioned
  exact not_useless (derivable_of_word rule) reached

/-- A rule of a reachable head is useful if both of its parts are derivable. -/
theorem pair_isUseful {a b c : Nonterminal} (rule : ⟨a, .pair b c⟩ ∈ rules)
    (reached : a ∈ (Grammar.ofRules start rules).reachable) (left : Derivable rules b)
    (right : Derivable rules c) :
    Rule.isUseful (Grammar.ofRules start rules).audit ⟨a, .pair b c⟩ = true := by
  obtain ⟨leftReached, rightReached⟩ := Grammar.reachable_parts rule reached
  apply decide_eq_true
  intro d mentioned
  rcases List.mem_cons.mp mentioned with rfl | part
  · exact not_useless (derivable_of_pair rule left right) reached
  · rcases List.mem_cons.mp part with rfl | last
    · exact not_useless left leftReached
    · obtain rfl := List.mem_singleton.mp last
      exact not_useless right rightReached

/-- A tree with a reachable root follows the remaining rules if it follows the rules at
all, by induction on the tree: its subtrees have reachable roots too. -/
theorem follows_pruned_iff {tree : Tree}
    (reached : tree.symbol ∈ (Grammar.ofRules start rules).reachable) :
    tree.Follows (pruned start rules) ↔ tree.Follows rules := by
  induction tree with
  | leaf a word position =>
    refine ⟨mem_of_mem_pruned, fun rule => ?_⟩
    exact List.mem_filter.mpr ⟨rule, word_isUseful rule reached⟩
  | branch a first last left right left_ih right_ih =>
    refine ⟨fun follows => ?_, fun follows => ?_⟩
    · obtain ⟨kept, leftFollows, rightFollows⟩ := follows
      have rule := mem_of_mem_pruned kept
      obtain ⟨leftReached, rightReached⟩ := Grammar.reachable_parts rule reached
      exact ⟨rule, (left_ih leftReached).mp leftFollows, (right_ih rightReached).mp rightFollows⟩
    · obtain ⟨rule, leftFollows, rightFollows⟩ := follows
      obtain ⟨leftReached, rightReached⟩ := Grammar.reachable_parts rule reached
      have useful := pair_isUseful rule reached ⟨left, rfl, leftFollows⟩ ⟨right, rfl, rightFollows⟩
      exact ⟨List.mem_filter.mpr ⟨rule, useful⟩, (left_ih leftReached).mpr leftFollows,
        (right_ih rightReached).mpr rightFollows⟩

end Rules

/-! ## The chart of the remaining rules -/

section Charts

variable {start : Nonterminal} {rules : List Rule} {tokens : List String}

/-- The two charts have the same reachable nonterminals in every cell. -/
theorem mem_cell_pruned_iff {a : Nonterminal}
    (reached : a ∈ (Grammar.ofRules start rules).reachable) {i j : Nat} (ordered : i ≤ j)
    (inside : j < tokens.length) :
    a ∈ (Chart.fill (.ofRules start (pruned start rules)) tokens).cell i j ordered inside ↔
      a ∈ (Chart.fill (.ofRules start rules) tokens).cell i j ordered inside := by
  rw [Chart.mem_cell_fill_iff ordered inside, Chart.mem_cell_fill_iff ordered inside]
  refine exists_congr fun tree => and_congr_right fun root => and_congr_right fun words => ?_
  exact follows_pruned_iff (root ▸ reached)

theorem accepts_pruned (start : Nonterminal) (rules : List Rule) (tokens : List String) :
    (Chart.fill (.ofRules start (pruned start rules)) tokens).accepts start =
      (Chart.fill (.ofRules start rules) tokens).accepts start := by
  rw [Bool.eq_iff_iff, Chart.accepts_iff, Chart.accepts_iff]
  have reached := Grammar.start_mem_reachable_ofRules start rules
  exact exists_congr fun nonempty => mem_cell_pruned_iff reached _ _

end Charts

/-! ## The search in that chart -/

/-- What is left out contributes nothing, and what is kept the same. -/
theorem flatMap_filter_eq {α β : Type} {keep : α → Bool} {f f' : α → List β} {xs : List α}
    (kept : ∀ x ∈ xs, keep x = true → f' x = f x) (dropped : ∀ x ∈ xs, keep x = false → f x = []) :
    (xs.filter keep).flatMap f' = xs.flatMap f := by
  induction xs with
  | nil => rfl
  | cons x xs ih =>
    have rest := ih (fun y member => kept y (List.mem_cons_of_mem x member))
      (fun y member => dropped y (List.mem_cons_of_mem x member))
    rw [List.flatMap_cons, ← rest]
    cases verdict : keep x with
    | true =>
      rw [List.filter_cons_of_pos verdict, List.flatMap_cons, kept x List.mem_cons_self verdict]
    | false =>
      rw [List.filter_cons_of_neg (Bool.eq_false_iff.mp verdict),
        dropped x List.mem_cons_self verdict, List.nil_append]

section Search

variable {start : Nonterminal} {rules : List Rule} {tokens : List String} {a : Nonterminal}
  {i j : Nat}

/-- Leaving out rules leaves out their pairs, and the others keep their order. -/
theorem Grammar.pairsOf_filter (start : Nonterminal) (rules : List Rule) (keep : Rule → Bool)
    (a : Nonterminal) :
    (ofRules start (rules.filter keep)).pairsOf a =
      ((ofRules start rules).pairsOf a).filter fun pair => keep ⟨a, .pair pair.1 pair.2⟩ := by
  rw [pairsOf_ofRules, pairsOf_ofRules, List.filterMap_filter, List.filter_filterMap]
  congr 1
  funext rule
  rcases rule with ⟨head, text | ⟨left, right⟩⟩
  · simp [Production.pair?]
  · by_cases same : head = a
    · subst same
      simp [Production.pair?, Option.filter]
    · simp [same]

/-- The two charts confirm the same splits into reachable nonterminals. -/
theorem confirms_pruned (inside : j < tokens.length) {split : Split i j}
    (leftReached : split.left ∈ (Grammar.ofRules start rules).reachable)
    (rightReached : split.right ∈ (Grammar.ofRules start rules).reachable) :
    (Chart.fill (.ofRules start (pruned start rules)) tokens).confirms inside split =
      (Chart.fill (.ofRules start rules) tokens).confirms inside split := by
  rw [Bool.eq_iff_iff]
  refine (Chart.confirms_iff inside split).trans (.trans ?_ (Chart.confirms_iff inside split).symm)
  exact and_congr (mem_cell_pruned_iff leftReached _ _) (mem_cell_pruned_iff rightReached _ _)

/-- From a reachable nonterminal the same splits are tried, in the same order. -/
theorem splits_pruned (reached : a ∈ (Grammar.ofRules start rules).reachable)
    (inside : j < tokens.length) :
    ((Chart.fill (.ofRules start (pruned start rules)) tokens).splits
        (.ofRules start (pruned start rules)) a inside : List (Split i j)) =
      (Chart.fill (.ofRules start rules) tokens).splits (.ofRules start rules) a inside := by
  unfold Chart.splits
  rw [pruned, Grammar.pairsOf_filter, ← pruned]
  apply flatMap_filter_eq
  · intro pair declared useful
    obtain ⟨leftReached, rightReached⟩ :=
      Grammar.reachable_parts (Grammar.mem_pairsOf_ofRules.mp declared) reached
    apply List.filter_congr
    intro split tried
    obtain ⟨cut, _, rfl⟩ := List.mem_map.mp tried
    exact confirms_pruned inside leftReached rightReached
  · intro pair declared useless
    rw [List.filter_eq_nil_iff]
    intro split tried confirmed
    obtain ⟨cut, _, rfl⟩ := List.mem_map.mp tried
    obtain ⟨leftMember, rightMember⟩ := (Chart.confirms_iff inside _).mp confirmed
    have left := exists_mem_cell_fill_iff.mp ⟨_, _, _, _, _, leftMember⟩
    have right := exists_mem_cell_fill_iff.mp ⟨_, _, _, _, _, rightMember⟩
    have useful := pair_isUseful (Grammar.mem_pairsOf_ofRules.mp declared) reached left right
    rw [useful] at useless
    cases useless

/-- The search for a reachable nonterminal goes the same way in both charts. -/
theorem derive_pruned (reached : a ∈ (Grammar.ofRules start rules).reachable) (ordered : i ≤ j)
    (inside : j < tokens.length) :
    derive (.ofRules start (pruned start rules))
        (Chart.fill (.ofRules start (pruned start rules)) tokens) tokens rfl a i j ordered inside =
      derive (.ofRules start rules) (Chart.fill (.ofRules start rules) tokens) tokens rfl a i j
        ordered inside := by
  refine (derive_eq_of_splits (· ∈ (Grammar.ofRules start rules).reachable) ?_ ?_ reached ordered
    inside inside).symm
  · intro b reached i j inside inside'
    exact (splits_pruned reached inside).symm
  · intro b left right reached declared
    exact Grammar.reachable_parts (Grammar.mem_pairsOf_ofRules.mp declared) reached

end Search

/-- Without the rules that mention what the audit found unproductive or unreachable, the
same inputs are accepted and the same trees are found, or none in both. -/
theorem reconstruct_pruned (start : Nonterminal) (rules : List Rule) (tokens : List String) :
    (Chart.fill (.ofRules start (pruned start rules)) tokens).accepts start =
        (Chart.fill (.ofRules start rules) tokens).accepts start ∧
      ∃ tree? : Option Tree,
        reconstruct (.ofRules start (pruned start rules))
            (Chart.fill (.ofRules start (pruned start rules)) tokens) tokens = .ok tree? ∧
          reconstruct (.ofRules start rules) (Chart.fill (.ofRules start rules) tokens) tokens =
            .ok tree? ∧
          tree?.isSome = (Chart.fill (.ofRules start rules) tokens).accepts start := by
  have same := accepts_pruned start rules tokens
  have root := Grammar.start_ofRules start rules
  have root' := Grammar.start_ofRules start (pruned start rules)
  refine ⟨same, ?_⟩
  cases verdict : (Chart.fill (.ofRules start rules) tokens).accepts start with
  | false =>
    refine ⟨none, reconstruct_of_rejected rfl ?_, reconstruct_of_rejected rfl ?_, rfl⟩
    · rw [root', same, verdict]
    · rw [root, verdict]
  | true =>
    have accepted : (Chart.fill (.ofRules start rules) tokens).accepts
        (Grammar.ofRules start rules).start = true := by
      rw [root, verdict]
    have accepted' : (Chart.fill (.ofRules start (pruned start rules)) tokens).accepts
        (Grammar.ofRules start (pruned start rules)).start = true := by
      rw [root', same, verdict]
    obtain ⟨tree, found, -⟩ := reconstruct_fill accepted
    obtain ⟨fits, _, derived⟩ := exists_derive_of_reconstruct found
    have fits' : tokens.length =
        (Chart.fill (.ofRules start (pruned start rules)) tokens).size := rfl
    refine ⟨some tree, @reconstruct_of_derive _ _ _ fits' _ accepted' ?_, found, rfl⟩
    simp only [root] at derived
    simp only [root']
    exact (derive_pruned (Grammar.start_mem_reachable_ofRules start rules) _ _).trans derived

end BalineseChart
