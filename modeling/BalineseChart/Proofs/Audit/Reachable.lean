import BalineseChart.Audit
import BalineseChart.Proofs.Grammar.Indices
import Mathlib.Logic.Relation

/-!
# Reachable nonterminals

A derivation leads from a nonterminal to the parts of the pairs that it produces.
`mem_reachable_iff` says that the search of the audit collects the nonterminals to which
finitely many such steps lead from the start symbol.

The search keeps a list of what is still to be visited, in which a nonterminal may stand
more than once. Its invariant is `Searched`: nothing is seen or pending without a path
from the start symbol, and a part of what has been seen is itself seen or pending. When
nothing is pending, what has been seen is closed under steps.
-/

namespace BalineseChart.Grammar

/-- A derivation can go from `a` to `b`, a part of one of its pairs. -/
def Leads (g : Grammar) (a b : Nonterminal) : Prop :=
  b ∈ g.partsOf a

/-- A derivation can go from `a` to `b` in finitely many steps. -/
abbrev Reaches (g : Grammar) : Nonterminal → Nonterminal → Prop :=
  Relation.ReflTransGen g.Leads

theorem mem_partsOf {g : Grammar} {a b : Nonterminal} :
    b ∈ g.partsOf a ↔ ∃ left right, (left, right) ∈ g.pairsOf a ∧ (b = left ∨ b = right) := by
  simp [partsOf]

/-- A search has seen the nonterminal or has yet to visit it. -/
def Noted (seen : NonterminalSet) (pending : List Nonterminal) (a : Nonterminal) : Prop :=
  a ∈ seen ∨ a ∈ pending

section Noted

variable {seen : NonterminalSet} {a b : Nonterminal} {others : List Nonterminal}

theorem Noted.skip (noted : Noted seen (a :: others) b) (member : a ∈ seen) :
    Noted seen others b := by
  rcases noted with before | pending
  · exact Or.inl before
  · rcases List.mem_cons.mp pending with rfl | later
    · exact Or.inl member
    · exact Or.inr later

theorem Noted.visit (noted : Noted seen (a :: others) b) (parts : List Nonterminal) :
    Noted (seen.insert a) (parts ++ others) b := by
  rcases noted with before | pending
  · exact Or.inl (NonterminalSet.mem_insert.mpr (Or.inl before))
  · rcases List.mem_cons.mp pending with same | later
    · exact Or.inl (NonterminalSet.mem_insert.mpr (Or.inr same))
    · exact Or.inr (List.mem_append_right parts later)

end Noted

/-- What a search has noted has a path from the start symbol, and what it has seen leads
only to what it has noted. -/
structure Searched (g : Grammar) (seen : NonterminalSet) (pending : List Nonterminal) : Prop where
  reached : ∀ a, Noted seen pending a → g.Reaches g.start a
  closed : ∀ a ∈ seen, ∀ b, g.Leads a b → Noted seen pending b
  rooted : Noted seen pending g.start

namespace Searched

variable {g : Grammar} {seen : NonterminalSet} {a : Nonterminal} {others : List Nonterminal}

theorem init (g : Grammar) : g.Searched ∅ [g.start] where
  reached b noted := by
    rcases noted with absurd | pending
    · exact (NonterminalSet.not_mem_empty b absurd).elim
    · rw [List.mem_singleton.mp pending]
  closed b absurd := (NonterminalSet.not_mem_empty b absurd).elim
  rooted := Or.inr List.mem_cons_self

/-- What has been seen before need not be visited again. -/
theorem skip (searched : g.Searched seen (a :: others)) (member : a ∈ seen) :
    g.Searched seen others where
  reached b noted := searched.reached b (noted.imp_right (List.mem_cons_of_mem a))
  closed b before c step := (searched.closed b before c step).skip member
  rooted := searched.rooted.skip member

/-- A visit adds a nonterminal and notes its parts. -/
theorem visit (searched : g.Searched seen (a :: others)) :
    g.Searched (seen.insert a) (g.partsOf a ++ others) where
  reached b noted := by
    have visited := searched.reached a (Or.inr List.mem_cons_self)
    rcases noted with member | pending
    · rcases NonterminalSet.mem_insert.mp member with before | rfl
      · exact searched.reached b (Or.inl before)
      · exact visited
    · rcases List.mem_append.mp pending with part | later
      · exact visited.tail part
      · exact searched.reached b (Or.inr (List.mem_cons_of_mem a later))
  closed b member c step := by
    rcases NonterminalSet.mem_insert.mp member with before | rfl
    · exact (searched.closed b before c step).visit (g.partsOf a)
    · exact Or.inr (List.mem_append_left others step)
  rooted := searched.rooted.visit (g.partsOf a)

/-- The search goes on until nothing is pending. -/
theorem reach {pending : List Nonterminal} (searched : g.Searched seen pending) :
    g.Searched (g.reach seen pending) [] := by
  fun_induction Grammar.reach g seen pending with
  | case1 seen => exact searched
  | case2 seen a others member ih => exact ih (searched.skip member)
  | case3 seen a others fresh ih => exact ih searched.visit

end Searched

variable {g : Grammar} {a b : Nonterminal}

theorem searched_reachable (g : Grammar) : g.Searched g.reachable [] :=
  (Searched.init g).reach

theorem start_mem_reachable (g : Grammar) : g.start ∈ g.reachable :=
  (searched_reachable g).rooted.resolve_right List.not_mem_nil

theorem mem_reachable_of_leads (member : a ∈ g.reachable) (step : g.Leads a b) :
    b ∈ g.reachable :=
  ((searched_reachable g).closed a member b step).resolve_right List.not_mem_nil

/-- The search collects what finitely many steps from the start symbol lead to. -/
theorem mem_reachable_iff : a ∈ g.reachable ↔ g.Reaches g.start a := by
  refine ⟨(searched_reachable g).reached a ∘ Or.inl, fun path => ?_⟩
  induction path with
  | refl => exact start_mem_reachable g
  | tail path step member => exact mem_reachable_of_leads member step

theorem unreachable_mem_audit_iff :
    .unreachable a ∈ g.audit ↔ a ∈ g.order ∧ a ∉ g.reachable := by
  simp [audit, NonterminalSet.mem_def]

section Rules

variable {start left right : Nonterminal} {rules : List Rule}

theorem start_mem_reachable_ofRules (start : Nonterminal) (rules : List Rule) :
    start ∈ (ofRules start rules).reachable := by
  have reached := start_mem_reachable (ofRules start rules)
  rw [start_ofRules] at reached
  exact reached

/-- A rule leads from its head to both of its parts. -/
theorem leads_of_rule (rule : ⟨a, .pair left right⟩ ∈ rules) :
    (ofRules start rules).Leads a left ∧ (ofRules start rules).Leads a right := by
  have declared := @mem_pairsOf_ofRules start rules a left right |>.mpr rule
  exact ⟨mem_partsOf.mpr ⟨left, right, declared, Or.inl rfl⟩,
    mem_partsOf.mpr ⟨left, right, declared, Or.inr rfl⟩⟩

/-- The parts of a rule of a reachable head are reachable. -/
theorem reachable_parts (rule : ⟨a, .pair left right⟩ ∈ rules)
    (reached : a ∈ (ofRules start rules).reachable) :
    left ∈ (ofRules start rules).reachable ∧ right ∈ (ofRules start rules).reachable := by
  obtain ⟨toLeft, toRight⟩ := @leads_of_rule _ start _ _ _ rule
  exact ⟨mem_reachable_of_leads reached toLeft, mem_reachable_of_leads reached toRight⟩

end Rules

end BalineseChart.Grammar
