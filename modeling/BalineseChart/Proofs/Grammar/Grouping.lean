import BalineseChart.Proofs.Grammar.Indices

/-!
# Grouping the rules of a grammar

A grammar gives its rules back grouped by their heads (`Grammar.rules`), in another
order than they were declared in. A grammar made of the grouped rules has the same
productions for each nonterminal, in the same order (`productionsOf_rules`), and the
same nonterminals (`mentions_rules`), though it may list them in another order.

Each nonterminal is listed once, so its rules stand in one place; and one that is not
listed has no rules that could be lost (`productionsOf_eq_nil`). The start symbol is
listed first, so if it has a rule at all, the grouped rules begin with one of its
rules (`exists_rules_eq_cons`).
-/

namespace BalineseChart.Grammar

theorem productionsOf_eq_nil {g : Grammar} {a : Nonterminal} (unmentioned : g.mentions a = false) :
    g.productionsOf a = [] :=
  Std.TreeMap.getD_eq_fallback_of_contains_eq_false unmentioned

/-! ## The rules of one nonterminal -/

theorem mem_rulesOf {g : Grammar} {a : Nonterminal} {rule : Rule} :
    rule ∈ g.rulesOf a ↔ rule.head = a ∧ rule.body ∈ g.productionsOf a := by
  rw [rulesOf, List.mem_map]
  constructor
  · intro produced
    rcases produced with ⟨body, member, rfl⟩
    exact ⟨rfl, member⟩
  · intro produced
    rcases produced with ⟨rfl, member⟩
    exact ⟨_, member, rfl⟩

theorem filter_rulesOf (g : Grammar) (a b : Nonterminal) :
    (g.rulesOf b).filter (fun rule => rule.head = a) = if b = a then g.rulesOf a else [] := by
  split
  · next same =>
    subst same
    rw [List.filter_eq_self]
    intro rule member
    exact decide_eq_true (mem_rulesOf.mp member).1
  · next differ =>
    rw [List.filter_eq_nil_iff]
    intro rule member
    rw [(mem_rulesOf.mp member).1, decide_eq_true_eq]
    exact differ

/-- In a listing without repeats, the rules of a nonterminal stand at its one place. -/
theorem filter_flatMap_rulesOf (g : Grammar) {order : List Nonterminal} (distinct : order.Nodup)
    (a : Nonterminal) :
    (order.flatMap g.rulesOf).filter (fun rule => rule.head = a) =
      if a ∈ order then g.rulesOf a else [] := by
  induction order with
  | nil => rfl
  | cons b order ih =>
    obtain ⟨fresh, distinct⟩ := List.nodup_cons.mp distinct
    rw [List.flatMap_cons, List.filter_append, filter_rulesOf, ih distinct]
    by_cases same : b = a
    · subst same
      simp [fresh]
    · simp [same, Ne.symm same]

/-- The grouped rules with one head are the rules of that nonterminal, in order. -/
theorem Listed.filter_rules {g : Grammar} (listed : g.Listed) (a : Nonterminal) :
    g.rules.filter (fun rule => rule.head = a) = g.rulesOf a := by
  rw [rules, filter_flatMap_rulesOf g listed.nodup]
  split
  · rfl
  · next unlisted =>
    have unmentioned : g.mentions a = false :=
      Bool.eq_false_iff.mpr (fun mentioned => unlisted ((listed.mentions_iff a).mp mentioned))
    rw [rulesOf, productionsOf_eq_nil unmentioned, List.map_nil]

theorem Listed.mem_rules {g : Grammar} (listed : g.Listed) {rule : Rule} :
    rule ∈ g.rules ↔ rule.body ∈ g.productionsOf rule.head := by
  have grouped : rule ∈ g.rules ↔ rule ∈ g.rules.filter fun other => other.head = rule.head := by
    simp
  rw [grouped, listed.filter_rules, mem_rulesOf]
  simp

/-! ## The grammar of the grouped rules -/

section Grouped

variable (start : Nonterminal) (rules : List Rule)

theorem mem_rules_ofRules {rule : Rule} : rule ∈ (ofRules start rules).rules ↔ rule ∈ rules := by
  rw [(listed_ofRules start rules).mem_rules, mem_productionsOf_ofRules]

theorem productionsOf_rules (a : Nonterminal) :
    (ofRules start (ofRules start rules).rules).productionsOf a =
      (ofRules start rules).productionsOf a := by
  rw [productionsOf_ofRules, (listed_ofRules start rules).filter_rules, rulesOf, List.map_map]
  exact List.map_id _

theorem mentions_rules (a : Nonterminal) :
    (ofRules start (ofRules start rules).rules).mentions a = (ofRules start rules).mentions a := by
  rw [Bool.eq_iff_iff, mentions_ofRules, mentions_ofRules]
  simp only [mem_rules_ofRules]

theorem exists_order_eq_cons : ∃ others, (ofRules start rules).order = start :: others := by
  rw [order_ofRules, List.eraseDups_cons]
  exact ⟨_, rfl⟩

/-- The first of the grouped rules is the first rule of the start symbol. -/
theorem exists_rules_eq_cons (headed : ∃ rule ∈ rules, rule.head = start) :
    ∃ first others, (ofRules start rules).rules = first :: others ∧ first.head = start := by
  obtain ⟨rule, member, head⟩ := headed
  have listed : rule ∈ (ofRules start rules).rulesOf start := by
    rw [mem_rulesOf, mem_productionsOf_ofRules, ← head]
    exact ⟨rfl, member⟩
  obtain ⟨first, later, shape⟩ := List.exists_cons_of_ne_nil (List.ne_nil_of_mem listed)
  have own : first ∈ (ofRules start rules).rulesOf start := shape ▸ List.mem_cons_self
  obtain ⟨others, order⟩ := exists_order_eq_cons start rules
  refine ⟨first, later ++ others.flatMap (ofRules start rules).rulesOf, ?_, (mem_rulesOf.mp own).1⟩
  rw [Grammar.rules, order, List.flatMap_cons, shape, List.cons_append]

end Grouped

end BalineseChart.Grammar
