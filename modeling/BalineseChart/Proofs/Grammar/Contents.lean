import BalineseChart.Proofs.Grammar.Grouping
import Mathlib.Data.List.Basic
import Mathlib.Data.List.Induction
import Mathlib.Data.List.Perm.Basic

/-!
# A grammar holds its rules

The tables of a grammar together say what the list of rules says from which it was made, and
nothing else. `ofRules_holds_rules` states this for every question that can be asked of a
grammar: productions keep their order and their repeats; heads and nonterminals are listed
once, in the order of their first places (`ByFirstPlace`); the rules that the grammar gives
back are those that went in, grouped by their heads without changing places within a group
(`rules_ofRules`), and the number of rules counts each of them (`Listed.ruleCount_eq`).

The count goes over the entries of the table of productions, which know nothing of the listing
of nonterminals. It is right because the entries are those that are listed, each once.
-/

namespace BalineseChart

/-! ## Lists by first places -/

/-- The members of `as`, each once, in the order of their first places in it. -/
structure ByFirstPlace (as bs : List Nonterminal) : Prop where
  mem_iff : ∀ a, a ∈ bs ↔ a ∈ as
  nodup : bs.Nodup
  ordered : bs.Pairwise fun a b => as.idxOf a < as.idxOf b

/-- One more member at the end leaves the first places of the others. -/
theorem ByFirstPlace.push {as bs : List Nonterminal} (listed : ByFirstPlace as bs)
    (a : Nonterminal) : ByFirstPlace (as ++ [a]) (pushNew bs a) where
  mem_iff b := by
    rw [mem_pushNew, listed.mem_iff, List.mem_append, List.mem_singleton]
  nodup := nodup_pushNew listed.nodup a
  ordered := by
    have kept : ∀ b ∈ bs, (as ++ [a]).idxOf b = as.idxOf b := fun b member =>
      List.idxOf_append_of_mem ((listed.mem_iff b).mp member)
    have still : bs.Pairwise fun b c => (as ++ [a]).idxOf b < (as ++ [a]).idxOf c := by
      refine listed.ordered.imp_of_mem ?_
      intro b c here there before
      rwa [kept b here, kept c there]
    unfold pushNew
    split
    · exact still
    · next fresh =>
      have last : (as ++ [a]).idxOf a = as.length := by
        rw [List.idxOf_append_of_notMem (mt (listed.mem_iff a).mpr fresh), List.idxOf_cons_self,
          Nat.add_zero]
      refine List.pairwise_append.mpr ⟨still, List.pairwise_singleton _ a, ?_⟩
      intro b member c same
      rw [List.mem_singleton.mp same, last, kept b member]
      exact List.idxOf_lt_length_of_mem ((listed.mem_iff b).mp member)

theorem byFirstPlace_eraseDups (as : List Nonterminal) : ByFirstPlace as as.eraseDups := by
  induction as using List.reverseRecOn with
  | nil => exact ⟨fun _ => Iff.rfl, List.nodup_nil, List.Pairwise.nil⟩
  | append_singleton as a ih =>
    rw [← pushNew_eraseDups]
    exact ih.push a

namespace Grammar

/-! ## Counting the rules -/

/-- The entries of the table of productions are those of the listed nonterminals. -/
theorem Listed.keys_perm {g : Grammar} (listed : g.Listed) : g.productions.keys.Perm g.order := by
  apply (List.perm_ext_iff_of_nodup g.productions.nodup_keys listed.nodup).mpr
  intro a
  rw [Std.TreeMap.mem_keys, ← listed.mentions_iff]
  exact Std.TreeMap.mem_iff_contains

theorem productionsOf_of_mem_toList {g : Grammar} {a : Nonterminal} {bodies : List Production}
    (entry : (a, bodies) ∈ g.productions.toList) : g.productionsOf a = bodies := by
  rw [productionsOf, Std.TreeMap.getD_eq_getD_getElem?,
    Std.TreeMap.mem_toList_iff_getElem?_eq_some.mp entry, Option.getD_some]

/-- The number of rules is that of the rules that the grammar gives back. -/
theorem Listed.ruleCount_eq {g : Grammar} (listed : g.Listed) : g.ruleCount = g.rules.length := by
  have entries : g.productions.toList.map (fun entry => entry.2.length) =
      g.productions.keys.map fun a => (g.productionsOf a).length := by
    rw [← Std.TreeMap.map_fst_toList_eq_keys, List.map_map]
    apply List.map_congr_left
    intro entry member
    rw [Function.comp_apply, productionsOf_of_mem_toList member]
  calc g.ruleCount
      = (g.productions.toList.map fun entry => entry.2.length).sum := by
        rw [ruleCount, Std.TreeMap.foldl_eq_foldl_toList, List.sum_eq_foldl, List.foldl_map]
    _ = (g.order.map fun a => (g.productionsOf a).length).sum := by
        rw [entries]
        exact (listed.keys_perm.map _).sum_nat
    _ = g.rules.length := by
        simp only [rules, List.length_flatMap, rulesOf, List.length_map]

/-! ## The rules that a grammar gives back -/

/-- Rules that have the same rules for each head, in the same order, are the same rules. -/
theorem perm_of_filter_head {rules rules' : List Rule}
    (same : ∀ a, rules.filter (fun rule => rule.head = a) =
      rules'.filter fun rule => rule.head = a) : rules.Perm rules' := by
  rw [List.perm_iff_count]
  intro rule
  have grouped : ∀ others : List Rule,
      (others.filter fun other => other.head = rule.head).count rule = others.count rule :=
    fun _ => List.count_filter (decide_eq_true rfl)
  rw [← grouped rules, same rule.head, grouped rules']

section Returned

variable (start : Nonterminal) (rules : List Rule)

theorem rulesOf_ofRules (a : Nonterminal) :
    (ofRules start rules).rulesOf a = rules.filter fun rule => rule.head = a := by
  have restored : ∀ rule ∈ rules.filter fun rule => rule.head = a, Rule.mk a rule.body = rule := by
    intro rule member
    obtain ⟨-, headed⟩ := List.mem_filter.mp member
    rw [← of_decide_eq_true headed]
  rw [rulesOf, productionsOf_ofRules, List.map_map]
  exact (List.map_congr_left restored).trans (List.map_id _)

theorem rules_ofRules :
    (ofRules start rules).rules =
      (ofRules start rules).order.flatMap fun a => rules.filter fun rule => rule.head = a := by
  rw [Grammar.rules, funext (rulesOf_ofRules start rules)]

theorem rules_ofRules_perm : (ofRules start rules).rules.Perm rules := by
  apply perm_of_filter_head
  intro a
  rw [(listed_ofRules start rules).filter_rules, rulesOf_ofRules]

theorem knows_iff_headsOfWord_ne_nil (word : String) :
    (ofRules start rules).knows word = true ↔ (ofRules start rules).headsOfWord word ≠ [] := by
  rw [knows_ofRules]
  constructor
  · intro produced
    obtain ⟨⟨head, _⟩, member, rfl⟩ := produced
    exact List.ne_nil_of_mem (mem_headsOfWord_ofRules.mpr member)
  · intro headed
    obtain ⟨head, member⟩ := List.exists_mem_of_ne_nil _ headed
    exact ⟨_, mem_headsOfWord_ofRules.mp member, rfl⟩

end Returned

end Grammar

/-- Every answer of a grammar is an answer about the list of rules that it was made from. -/
theorem ofRules_holds_rules (start : Nonterminal) (rules : List Rule) :
    (∀ a, (Grammar.ofRules start rules).productionsOf a =
      (rules.filter fun rule => rule.head = a).map Rule.body) ∧
    (∀ word, ByFirstPlace ((rules.filter fun rule => rule.body = .word word).map Rule.head)
      ((Grammar.ofRules start rules).headsOfWord word)) ∧
    (∀ b c, ByFirstPlace ((rules.filter fun rule => rule.body = .pair b c).map Rule.head)
      ((Grammar.ofRules start rules).headsOfPair b c)) ∧
    (∀ word, (Grammar.ofRules start rules).knows word = true ↔
      (Grammar.ofRules start rules).headsOfWord word ≠ []) ∧
    (Grammar.ofRules start rules).order.head? = some start ∧
    ByFirstPlace (start :: rules.flatMap Rule.mentioned) (Grammar.ofRules start rules).order ∧
    (∀ a, (Grammar.ofRules start rules).mentions a = true ↔
      a ∈ (Grammar.ofRules start rules).order) ∧
    (Grammar.ofRules start rules).ruleCount = rules.length ∧
    (Grammar.ofRules start rules).rules =
      (Grammar.ofRules start rules).order.flatMap
        (fun a => rules.filter fun rule => rule.head = a) ∧
    (Grammar.ofRules start rules).rules.Perm rules := by
  have listed := Grammar.listed_ofRules start rules
  have given := Grammar.rules_ofRules_perm start rules
  refine ⟨Grammar.productionsOf_ofRules start rules, ?_, ?_,
    Grammar.knows_iff_headsOfWord_ne_nil start rules, ?_, ?_, listed.mentions_iff, ?_,
    Grammar.rules_ofRules start rules, given⟩
  · intro word
    rw [Grammar.headsOfWord_ofRules]
    exact byFirstPlace_eraseDups _
  · intro b c
    rw [Grammar.headsOfPair_ofRules]
    exact byFirstPlace_eraseDups _
  · obtain ⟨others, order⟩ := Grammar.exists_order_eq_cons start rules
    rw [order, List.head?_cons]
  · rw [Grammar.order_ofRules]
    exact byFirstPlace_eraseDups _
  · rw [listed.ruleCount_eq, given.length_eq]

end BalineseChart
