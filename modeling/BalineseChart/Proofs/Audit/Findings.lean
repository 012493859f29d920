import BalineseChart.Proofs.Audit.Productive
import BalineseChart.Proofs.Audit.Reachable
import BalineseChart.Proofs.Grammar.Grouping
import Mathlib.Algebra.BigOperators.Group.List.Basic
import Mathlib.Data.List.Count
import Mathlib.Data.List.Nodup

/-!
# What an audit finds

The findings of an audit follow from the list of rules that the grammar was made from, block
by block and in order (`audit_lists_findings`):

* the nonterminals that no tree derives (`Derivable`);
* the nonterminals that cannot be obtained from the start symbol by going, finitely often,
  from a head to a part of one of its rules (`Obtainable`);
* for each nonterminal, its productions at every place but their first (`repeats`).

The search for repeats keeps a list of what it has seen. `repeatsAfter_eq` says that this list
may be replaced by the part of the declarations that lies before the place in question.
-/

namespace BalineseChart

/-! ## Obtaining one nonterminal from another -/

/-- Some rule for `a` has `b` as its left or its right part. -/
def HasPart (rules : List Rule) (a b : Nonterminal) : Prop :=
  ∃ c, ⟨a, .pair b c⟩ ∈ rules ∨ ⟨a, .pair c b⟩ ∈ rules

/-- Finitely many steps from a head to a part of one of its rules lead from `a` to `b`. -/
def Obtainable (rules : List Rule) : Nonterminal → Nonterminal → Prop :=
  Relation.ReflTransGen (HasPart rules)

/-! ## Repeats in a list of productions -/

/-- The productions of a list that stand before their place in it, too, one for each such
place. -/
def repeats (bodies : List Production) : List Production :=
  bodies.zipIdx.filterMap fun (body, place) =>
    if body ∈ bodies.take place then some body else none

namespace Grammar

section Rules

variable {start : Nonterminal} {rules : List Rule} {a b : Nonterminal}

theorem leads_ofRules_iff : (ofRules start rules).Leads a b ↔ HasPart rules a b := by
  rw [Leads, mem_partsOf]
  simp only [mem_pairsOf_ofRules]
  constructor
  · intro led
    rcases led with ⟨left, right, rule, rfl | rfl⟩
    · exact ⟨right, Or.inl rule⟩
    · exact ⟨left, Or.inr rule⟩
  · intro part
    rcases part with ⟨c, rule | rule⟩
    · exact ⟨b, c, rule, Or.inl rfl⟩
    · exact ⟨c, b, rule, Or.inr rfl⟩

/-- The search of the audit collects what can be obtained from the start symbol. -/
theorem mem_reachable_ofRules_iff :
    a ∈ (ofRules start rules).reachable ↔ Obtainable rules start a := by
  have steps : (ofRules start rules).Leads = HasPart rules :=
    funext fun _ => funext fun _ => propext leads_ofRules_iff
  rw [mem_reachable_iff, start_ofRules, Reaches, steps, Obtainable]

instance : Decidable (Obtainable rules start a) :=
  decidable_of_iff _ mem_reachable_ofRules_iff

instance : Decidable (Derivable rules a) :=
  decidable_of_iff _ (@mem_productive_iff a rules a)

end Rules

/-! ## Finding repeats -/

/-- What has been seen may be any list with the members of the part that lies before. -/
theorem repeatsAfter_eq {seen before : List Production} (same : ∀ body, body ∈ seen ↔ body ∈ before)
    (bodies : List Production) :
    repeatsAfter seen bodies =
      (bodies.zipIdx before.length).filterMap fun (body, place) =>
        if body ∈ (before ++ bodies).take place then some body else none := by
  induction bodies generalizing seen before with
  | nil => rfl
  | cons body others ih =>
    have onwards : ∀ seen', (∀ body', body' ∈ seen' ↔ body' ∈ before ++ [body]) →
        repeatsAfter seen' others =
          (others.zipIdx (before.length + 1)).filterMap fun (body', place) =>
            if body' ∈ (before ++ body :: others).take place then some body' else none := by
      intro seen' same'
      rw [ih same', List.length_append, List.length_singleton, List.append_assoc,
        List.singleton_append]
    rw [repeatsAfter, List.zipIdx_cons, List.filterMap_cons]
    dsimp only
    rw [List.take_left]
    split
    · next member =>
      rw [if_pos ((same body).mp member), onwards]
      intro body'
      rw [List.mem_append, List.mem_singleton, ← same]
      exact ⟨Or.inl, fun either => either.elim id fun last => last ▸ member⟩
    · next fresh =>
      rw [if_neg (mt (same body).mpr fresh), onwards]
      intro body'
      rw [List.mem_append, List.mem_singleton, List.mem_cons, same, or_comm]

theorem repeatsOf_eq (g : Grammar) (a : Nonterminal) :
    g.repeatsOf a = repeats (g.productionsOf a) :=
  repeatsAfter_eq (fun _ => Iff.rfl) (g.productionsOf a)

/-- A production that was seen is found at each of its places, any other at all but its
first. -/
theorem count_repeatsAfter (seen bodies : List Production) (body : Production) :
    (repeatsAfter seen bodies).count body =
      if body ∈ seen then bodies.count body else bodies.count body - 1 := by
  induction bodies generalizing seen with
  | nil => simp [repeatsAfter]
  | cons first others ih =>
    rw [repeatsAfter]
    by_cases same : first = body
    · subst same
      split
      · rw [List.count_cons_self, List.count_cons_self, ih, if_pos ‹_›]
      · rw [List.count_cons_self, ih, if_pos List.mem_cons_self, Nat.add_sub_cancel]
    · split
      · rw [List.count_cons_of_ne same, List.count_cons_of_ne same, ih]
      · simp only [ih, List.count_cons_of_ne same, List.mem_cons, Ne.symm same, false_or]

/-- A production that a nonterminal has several times is found once less. -/
theorem count_repeatsOf (g : Grammar) (a : Nonterminal) (body : Production) :
    (g.repeatsOf a).count body = (g.productionsOf a).count body - 1 := by
  rw [repeatsOf, count_repeatsAfter, if_neg List.not_mem_nil]

/-- Each nonterminal is listed once, so its repeats are reported in one place. -/
theorem Listed.count_duplicate_audit {g : Grammar} (listed : g.Listed) (a : Nonterminal)
    (body : Production) :
    g.audit.count (.duplicate a body) = (g.productionsOf a).count body - 1 := by
  have elsewhere : ∀ b ≠ a, b ∈ g.order →
      ((g.repeatsOf b).map (Issue.duplicate b)).count (.duplicate a body) = 0 := by
    intro b differ _
    rw [List.count_eq_zero, List.mem_map]
    rintro ⟨_, _, same⟩
    exact differ (Issue.duplicate.inj same).1
  have here : ((g.repeatsOf a).map (Issue.duplicate a)).count (.duplicate a body) =
      (g.productionsOf a).count body - 1 := by
    rw [List.count_map_of_injective _ _ (fun _ _ same => (Issue.duplicate.inj same).2),
      count_repeatsOf]
  have only : g.audit.count (.duplicate a body) =
      (g.order.flatMap fun b => (g.repeatsOf b).map (Issue.duplicate b)).count
        (.duplicate a body) := by
    rw [audit, List.count_append, List.count_eq_zero.mpr (by simp), Nat.zero_add]
  rw [only, List.count_flatMap]
  have sum := List.sum_map_eq_nsmul_single a
    (List.count (Issue.duplicate a body) ∘ fun b => (g.repeatsOf b).map (Issue.duplicate b))
    elsewhere
  rw [sum, Function.comp_apply, here]
  by_cases member : a ∈ g.order
  · rw [List.count_eq_one_of_mem listed.nodup member, one_nsmul]
  · have unmentioned : g.mentions a = false :=
      Bool.eq_false_iff.mpr fun mentioned => member ((listed.mentions_iff a).mp mentioned)
    rw [List.count_eq_zero.mpr member, zero_nsmul, productionsOf_eq_nil unmentioned,
      List.count_nil, Nat.zero_sub]

end Grammar

/-- To test that a nonterminal is not in a set is to test that it lacks what its members have. -/
theorem not_contains_eq_decide {set : NonterminalSet} {a : Nonterminal} {property : Prop}
    [Decidable property] (member_iff : a ∈ set ↔ property) :
    (!set.contains a) = decide (¬ property) := by
  rw [Bool.eq_iff_iff, Bool.not_eq_true', ← Bool.not_eq_true, ← NonterminalSet.mem_def, member_iff,
    decide_eq_true_iff]

/-- An audit lists the nonterminals that derive no words, then those that cannot be obtained
from the start symbol, both in order of first mention, and then, in the same order, every
production that is declared again, once less than it is declared. -/
theorem audit_lists_findings (start : Nonterminal) (rules : List Rule) :
    (Grammar.ofRules start rules).audit =
      ((Grammar.ofRules start rules).order.filter fun a => ¬ Derivable rules a).map
          .unproductive ++
        ((Grammar.ofRules start rules).order.filter fun a => ¬ Obtainable rules start a).map
          .unreachable ++
        (Grammar.ofRules start rules).order.flatMap
          (fun a => (repeats ((Grammar.ofRules start rules).productionsOf a)).map
            (.duplicate a)) ∧
    .unreachable start ∉ (Grammar.ofRules start rules).audit ∧
    ∀ a body, (Grammar.ofRules start rules).audit.count (.duplicate a body) =
      ((Grammar.ofRules start rules).productionsOf a).count body - 1 := by
  refine ⟨?_, ?_, (Grammar.listed_ofRules start rules).count_duplicate_audit⟩
  · have unproductive (a : Nonterminal) :
        (!(Grammar.ofRules start rules).productive.contains a) = decide (¬ Derivable rules a) :=
      not_contains_eq_decide Grammar.mem_productive_iff
    have unreachable (a : Nonterminal) :
        (!(Grammar.ofRules start rules).reachable.contains a) =
          decide (¬ Obtainable rules start a) :=
      not_contains_eq_decide Grammar.mem_reachable_ofRules_iff
    rw [Grammar.audit]
    simp only [unproductive, unreachable, Grammar.repeatsOf_eq]
  · rw [Grammar.unreachable_mem_audit_iff, not_and_not_right]
    exact fun _ => Grammar.start_mem_reachable_ofRules start rules

end BalineseChart
