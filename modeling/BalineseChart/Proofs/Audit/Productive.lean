import BalineseChart.Audit
import BalineseChart.Proofs.Chart.Recognition

/-!
# Productive nonterminals

A nonterminal is derivable by a list of rules if some tree that follows them has it at
its root. `mem_productive_iff` says that the search of the audit collects exactly these,
although it asks for trees nowhere:

* every set that the search passes through holds derivable nonterminals only, since a
  production that yields words joins trees of its parts (`derivable_of_yields`);
* the set that it ends with is stable, and a stable set has every derivable nonterminal,
  by induction on the tree (`mem_of_stable`).

Charts speak of the same trees: a nonterminal is derivable exactly if the chart of some
tokens has it somewhere (`exists_mem_cell_fill_iff`), for the words of a tree are tokens
that it derives. So the audit reports what no chart can have
(`unproductive_mem_audit_iff_no_chart`).
-/

namespace BalineseChart

/-- Some tree that follows the rules has the nonterminal at its root. -/
def Derivable (rules : List Rule) (a : Nonterminal) : Prop :=
  ∃ tree : Tree, tree.symbol = a ∧ tree.Follows rules

section Derivable

variable {start : Nonterminal} {rules : List Rule} {a b c : Nonterminal}

theorem derivable_of_word {text : String} (rule : ⟨a, .word text⟩ ∈ rules) : Derivable rules a :=
  ⟨.leaf a text 0, rfl, rule⟩

theorem derivable_of_pair (rule : ⟨a, .pair b c⟩ ∈ rules) (left : Derivable rules b)
    (right : Derivable rules c) : Derivable rules a := by
  obtain ⟨leftTree, rfl, leftFollows⟩ := left
  obtain ⟨rightTree, rfl, rightFollows⟩ := right
  exact ⟨.join a leftTree rightTree, rfl, rule, leftFollows, rightFollows⟩

/-! ## Charts have what is derivable -/

theorem exists_accepts_fill_iff :
    (∃ tokens, (Chart.fill (.ofRules start rules) tokens).accepts a = true) ↔
      Derivable rules a := by
  simp only [Chart.accepts_fill_iff]
  refine ⟨fun accepted => ?_, fun derivable => ?_⟩
  · obtain ⟨tokens, nonempty, tree, root, words, follows⟩ := accepted
    exact ⟨tree, root, follows⟩
  · obtain ⟨tree, root, follows⟩ := derivable
    exact ⟨tree.words, tree.length_words_pos, tree, root, rfl, follows⟩

/-- The words of a tree are tokens whose chart has the root of the tree. -/
theorem exists_mem_cell_fill_iff :
    (∃ (tokens : List String) (i j : Nat) (ordered : i ≤ j) (inside : j < tokens.length),
      a ∈ (Chart.fill (.ofRules start rules) tokens).cell i j ordered inside) ↔
      Derivable rules a := by
  refine ⟨fun found => ?_, fun derivable => ?_⟩
  · obtain ⟨tokens, i, j, ordered, inside, member⟩ := found
    obtain ⟨tree, root, words, follows⟩ := (Chart.mem_cell_fill_iff ordered inside).mp member
    exact ⟨tree, root, follows⟩
  · obtain ⟨tokens, accepted⟩ := exists_accepts_fill_iff.mpr derivable
    obtain ⟨nonempty, member⟩ := Chart.accepts_iff.mp accepted
    exact ⟨tokens, 0, tokens.length - 1, Nat.zero_le _, Chart.last_lt_size nonempty, member⟩

end Derivable

namespace Grammar

/-! ## What the search collects is derivable -/

section Soundness

variable {start : Nonterminal} {rules : List Rule} {productive : NonterminalSet}

theorem derivable_of_yields (known : ∀ b ∈ productive, Derivable rules b) {a : Nonterminal}
    {body : Production} (rule : ⟨a, body⟩ ∈ rules) (yielded : yields productive body = true) :
    Derivable rules a := by
  cases body with
  | word text => exact derivable_of_word rule
  | pair left right =>
    obtain ⟨leftMember, rightMember⟩ := Bool.and_eq_true_iff.mp yielded
    exact derivable_of_pair rule (known left leftMember) (known right rightMember)

theorem derivable_of_mem_growWith (known : ∀ b ∈ productive, Derivable rules b)
    (a : Nonterminal) : ∀ b ∈ (ofRules start rules).growWith productive a, Derivable rules b := by
  intro b member
  unfold growWith at member
  split at member
  · exact known b member
  · split at member
    · next yielding =>
      obtain ⟨body, declared, yielded⟩ := List.any_eq_true.mp yielding
      rcases NonterminalSet.mem_insert.mp member with before | rfl
      · exact known b before
      · exact derivable_of_yields known (mem_productionsOf_ofRules.mp declared) yielded
    · exact known b member

theorem derivable_of_mem_growAll (known : ∀ b ∈ productive, Derivable rules b) :
    ∀ b ∈ (ofRules start rules).growAll productive, Derivable rules b := by
  unfold growAll
  induction (ofRules start rules).order generalizing productive with
  | nil => exact known
  | cons a others ih => exact ih (derivable_of_mem_growWith known a)

theorem derivable_of_mem_saturate (known : ∀ b ∈ productive, Derivable rules b) :
    ∀ b ∈ (ofRules start rules).saturate productive, Derivable rules b := by
  fun_induction saturate (ofRules start rules) productive with
  | case1 productive stable => exact known
  | case2 productive grown ih => exact ih (derivable_of_mem_growAll known)

end Soundness

/-! ## The search misses nothing derivable -/

section Completeness

variable {g : Grammar} {productive : NonterminalSet} {a : Nonterminal} {body : Production}

theorem yields_mono {larger : NonterminalSet} (subset : ∀ b ∈ productive, b ∈ larger)
    (yielded : yields productive body = true) : yields larger body = true := by
  cases body with
  | word text => rfl
  | pair left right =>
    obtain ⟨leftMember, rightMember⟩ := Bool.and_eq_true_iff.mp yielded
    exact Bool.and_eq_true_iff.mpr ⟨subset left leftMember, subset right rightMember⟩

theorem mem_growWith_self (declared : body ∈ g.productionsOf a)
    (yielded : yields productive body = true) : a ∈ g.growWith productive a := by
  unfold growWith
  split
  · next member => exact member
  · rw [if_pos (List.any_eq_true.mpr ⟨body, declared, yielded⟩)]
    exact NonterminalSet.mem_insert.mpr (Or.inr rfl)

/-- A round that comes to a nonterminal with a yielding production collects it. -/
theorem mem_foldl_growWith {order : List Nonterminal} (listed : a ∈ order)
    (declared : body ∈ g.productionsOf a) (yielded : yields productive body = true) :
    a ∈ order.foldl g.growWith productive := by
  induction order generalizing productive with
  | nil => cases listed
  | cons b others ih =>
    rw [List.foldl_cons]
    rcases List.mem_cons.mp listed with rfl | later
    · exact subset_foldl_growWith (mem_growWith_self declared yielded)
    · exact ih later (yields_mono (fun c member => subset_growWith member) yielded)

/-- The search ends with a set that one more round leaves as it is. -/
theorem growAll_saturate (g : Grammar) (productive : NonterminalSet) :
    g.growAll (g.saturate productive) = g.saturate productive := by
  fun_induction saturate g productive with
  | case1 productive stable => exact stable.symm
  | case2 productive grown ih => exact ih

/-- A stable set has the root of every tree that follows the rules. -/
theorem mem_of_stable {start : Nonterminal} {rules : List Rule}
    (stable : (ofRules start rules).growAll productive = productive) {tree : Tree}
    (follows : tree.Follows rules) : tree.symbol ∈ productive := by
  have collected : ∀ {a body}, ⟨a, body⟩ ∈ rules → yields productive body = true →
      a ∈ productive := by
    intro a body rule yielded
    have listed : a ∈ (ofRules start rules).order :=
      ((listed_ofRules start rules).mentions_iff a).mp
        (mentions_ofRules.mpr (Or.inr ⟨_, rule, List.mem_cons_self⟩))
    rw [← stable]
    exact mem_foldl_growWith listed (mem_productionsOf_ofRules.mpr rule) yielded
  induction tree with
  | leaf a word position => exact collected follows rfl
  | branch a first last left right left_ih right_ih =>
    obtain ⟨rule, leftFollows, rightFollows⟩ := follows
    exact collected rule
      (Bool.and_eq_true_iff.mpr ⟨left_ih leftFollows, right_ih rightFollows⟩)

end Completeness

/-! ## The finding -/

section Finding

variable {start : Nonterminal} {rules : List Rule} {a : Nonterminal}

/-- The search collects the derivable nonterminals. -/
theorem mem_productive_iff : a ∈ (ofRules start rules).productive ↔ Derivable rules a := by
  refine ⟨fun member => ?_, fun derivable => ?_⟩
  · have nothing : ∀ b ∈ (∅ : NonterminalSet), Derivable rules b :=
      fun b absurd => (NonterminalSet.not_mem_empty b absurd).elim
    exact derivable_of_mem_saturate nothing a member
  · obtain ⟨tree, rfl, follows⟩ := derivable
    exact mem_of_stable (growAll_saturate _ ∅) follows

theorem unproductive_mem_audit_iff {g : Grammar} :
    .unproductive a ∈ g.audit ↔ a ∈ g.order ∧ a ∉ g.productive := by
  simp [audit, NonterminalSet.mem_def]

theorem start_mem_order : start ∈ (ofRules start rules).order :=
  ((listed_ofRules start rules).mentions_iff start).mp (mentions_ofRules.mpr (Or.inl rfl))

end Finding

/-- The audit reports a nonterminal as unproductive exactly if no chart of any tokens has
it anywhere, and so the start symbol exactly if no tokens are accepted. -/
theorem unproductive_mem_audit_iff_no_chart (start : Nonterminal) (rules : List Rule) :
    (∀ a ∈ (ofRules start rules).order,
      .unproductive a ∈ (ofRules start rules).audit ↔
        ¬ ∃ (tokens : List String) (i j : Nat) (ordered : i ≤ j) (inside : j < tokens.length),
          a ∈ (Chart.fill (ofRules start rules) tokens).cell i j ordered inside) ∧
    (.unproductive (ofRules start rules).start ∈ (ofRules start rules).audit ↔
      ∀ tokens, ((ofRules start rules).analyseTokens tokens).accepted = false) := by
  have reported : ∀ a ∈ (ofRules start rules).order,
      .unproductive a ∈ (ofRules start rules).audit ↔ ¬ Derivable rules a := by
    intro a listed
    rw [unproductive_mem_audit_iff, mem_productive_iff, and_iff_right listed]
  refine ⟨?_, ?_⟩
  · intro a listed
    rw [reported a listed, exists_mem_cell_fill_iff]
  · rw [start_ofRules, reported start start_mem_order, ← @exists_accepts_fill_iff start,
      not_exists]
    simp only [Bool.not_eq_true, analyseTokens, start_ofRules]

/-- Two nonterminals that need each other, and a third that needs them. -/
def circular : List Rule :=
  [⟨.sentence, .pair .predicate .subject⟩, ⟨.predicate, .word "a"⟩,
   ⟨.subject, .pair .nounPhrase .predicate⟩, ⟨.nounPhrase, .pair .predicate .subject⟩]

/-- No word is missing for the subject, yet no chart can have one. -/
theorem circular_unproductive :
    .subject ∈ (ofRules .sentence circular).order ∧
      .unproductive .subject ∈ (ofRules .sentence circular).audit ∧
      ¬ ∃ (tokens : List String) (i j : Nat) (ordered : i ≤ j) (inside : j < tokens.length),
        .subject ∈ (Chart.fill (ofRules .sentence circular) tokens).cell i j ordered inside := by
  have listed : .subject ∈ (ofRules .sentence circular).order := by decide +kernel
  have reported : .unproductive .subject ∈ (ofRules .sentence circular).audit := by decide +kernel
  exact ⟨listed, reported,
    ((unproductive_mem_audit_iff_no_chart .sentence circular).1 .subject listed).mp reported⟩

end Grammar

end BalineseChart
