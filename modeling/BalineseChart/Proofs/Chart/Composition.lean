import BalineseChart.Proofs.Chart.Consistency

/-!
# What the span of a cell is composed of

A cell of a filled chart holds the heads of the productions that its span realises
(`mem_cell_fill_iff_realises`), where a production is realised by one token or by two
adjacent spans. A rule has no room for more than two parts, so a grammar that wants a
longer sequence gives the parts of it to helpers. `chart.HasParts parts i j` speaks of
the sequence itself: the span is made up of as many adjacent spans as there are parts,
and the chart has each part over its own span.

`chart.StandsFor a parts` says that a nonterminal is nothing but a name for such a
sequence. It holds of a helper whose only rule is a pair of nonterminals that stand for
the two halves of the sequence (`standsFor_of_rule`), however the halves were bracketed.
-/

namespace BalineseChart

namespace Chart

/-! ## Productions over a span -/

/-- The production accounts for the span from `i` to `j`: it is the one word there, or
the chart has its two parts on the two sides of a cut. -/
inductive Realises (chart : Chart) (tokens : List String) : Production → Nat → Nat → Prop
  | word {text : String} {i : Nat} :
    tokens[i]? = some text → Realises chart tokens (.word text) i i
  | pair {b c : Nonterminal} {i k j : Nat} (lower : i ≤ k) (upper : k < j)
      (inside : j < chart.size) :
    b ∈ chart.cell i k lower (Nat.lt_trans upper inside) →
    c ∈ chart.cell (k + 1) j upper inside →
    Realises chart tokens (.pair b c) i j

theorem realises_pair_iff {chart : Chart} {tokens : List String} {b c : Nonterminal} {i j : Nat}
    (inside : j < chart.size) :
    chart.Realises tokens (.pair b c) i j ↔
      ∃ (k : Nat) (lower : i ≤ k) (upper : k < j),
        b ∈ chart.cell i k lower (Nat.lt_trans upper inside) ∧
          c ∈ chart.cell (k + 1) j upper inside := by
  refine ⟨fun realised => ?_, fun split => ?_⟩
  · cases realised with
    | pair lower upper inside leftMember rightMember =>
      exact ⟨_, lower, upper, leftMember, rightMember⟩
  · obtain ⟨k, lower, upper, leftMember, rightMember⟩ := split
    exact .pair lower upper inside leftMember rightMember

/-- A cell holds the heads of the productions that its span realises. -/
theorem mem_cell_fill_iff_realises {start : Nonterminal} {rules : List Rule}
    {tokens : List String} {i j : Nat} (ordered : i ≤ j) (inside : j < tokens.length)
    {a : Nonterminal} :
    a ∈ (fill (.ofRules start rules) tokens).cell i j ordered inside ↔
      ∃ body, ⟨a, body⟩ ∈ rules ∧
        (fill (.ofRules start rules) tokens).Realises tokens body i j := by
  refine ⟨fun member => ?_, fun produced => ?_⟩
  · rcases Nat.lt_or_eq_of_le ordered with longer | rfl
    · obtain ⟨k, lower, upper, b, c, rule, leftMember, rightMember⟩ :=
        exists_split_of_mem_cell_fill longer inside member
      exact ⟨.pair b c, rule, .pair lower upper inside leftMember rightMember⟩
    · have rule := (mem_cell_fill_self_iff inside).mp member
      exact ⟨_, rule, .word (List.getElem?_eq_getElem inside)⟩
  · obtain ⟨body, rule, realised⟩ := produced
    cases realised with
    | word found =>
      obtain ⟨_, same⟩ := List.getElem?_eq_some_iff.mp found
      rw [mem_cell_fill_self_iff inside, same]
      exact rule
    | pair lower upper inside leftMember rightMember =>
      exact mem_cell_fill_of_split lower upper inside rule leftMember rightMember

/-! ## Sequences over a span -/

/-- The span from `i` to `j` is made up of adjacent spans, one for each part and in the
order of the parts, and the chart has each part over its span. -/
inductive HasParts (chart : Chart) : List Nonterminal → Nat → Nat → Prop
  | last {a : Nonterminal} {i j : Nat} (ordered : i ≤ j) (inside : j < chart.size) :
    a ∈ chart.cell i j ordered inside → HasParts chart [a] i j
  | cons {a : Nonterminal} {parts : List Nonterminal} {i k j : Nat} (ordered : i ≤ k)
      (inside : k < chart.size) :
    a ∈ chart.cell i k ordered inside → HasParts chart parts (k + 1) j →
    HasParts chart (a :: parts) i j

section Sequences

variable {chart : Chart} {a b c : Nonterminal} {parts lefts rights : List Nonterminal} {i j : Nat}

theorem not_hasParts_nil : ¬ chart.HasParts [] i j := by
  intro absurd
  cases absurd

theorem HasParts.bounds (sequence : chart.HasParts parts i j) : i ≤ j ∧ j < chart.size := by
  induction sequence with
  | last ordered inside member => exact ⟨ordered, inside⟩
  | cons ordered inside member rest rest_ih =>
    obtain ⟨later, last⟩ := rest_ih
    exact ⟨by omega, last⟩

theorem hasParts_singleton_iff :
    chart.HasParts [a] i j ↔ ∃ ordered inside, a ∈ chart.cell i j ordered inside := by
  refine ⟨fun sequence => ?_, fun found => ?_⟩
  · cases sequence with
    | last ordered inside member => exact ⟨ordered, inside, member⟩
    | cons ordered inside member rest => exact (not_hasParts_nil rest).elim
  · obtain ⟨ordered, inside, member⟩ := found
    exact .last ordered inside member

/-- Two sequences over adjacent spans are one sequence over both. -/
theorem HasParts.append {k : Nat} (left : chart.HasParts lefts i k)
    (right : chart.HasParts rights (k + 1) j) : chart.HasParts (lefts ++ rights) i j := by
  induction left with
  | last ordered inside member => exact .cons ordered inside member right
  | cons ordered inside member rest rest_ih => exact .cons ordered inside member (rest_ih right)

/-- A sequence can be cut between any two of its parts. -/
theorem HasParts.exists_cut (some_left : lefts ≠ []) (some_right : rights ≠ [])
    (sequence : chart.HasParts (lefts ++ rights) i j) :
    ∃ k, chart.HasParts lefts i k ∧ chart.HasParts rights (k + 1) j := by
  induction lefts generalizing i with
  | nil => exact (some_left rfl).elim
  | cons a others ih =>
    generalize whole : a :: others ++ rights = parts at sequence
    cases sequence with
    | last ordered inside member =>
      rw [List.cons_append, List.cons.injEq, List.append_eq_nil_iff] at whole
      exact (some_right whole.2.2).elim
    | @cons a' parts i k j ordered inside member rest =>
      rw [List.cons_append, List.cons.injEq] at whole
      obtain ⟨rfl, rfl⟩ := whole
      rcases others with _ | ⟨b, others⟩
      · exact ⟨k, .last ordered inside member, rest⟩
      · obtain ⟨m, middle, right⟩ := ih (List.cons_ne_nil b others) rest
        exact ⟨m, .cons ordered inside member middle, right⟩

end Sequences

/-! ## Names for sequences -/

/-- The chart has the nonterminal exactly over the spans that are made up of the parts. -/
structure StandsFor (chart : Chart) (a : Nonterminal) (parts : List Nonterminal) : Prop where
  nonempty : parts ≠ []
  mem_iff : ∀ {i j : Nat} (ordered : i ≤ j) (inside : j < chart.size),
    a ∈ chart.cell i j ordered inside ↔ chart.HasParts parts i j

/-- A nonterminal stands for the sequence of which it is the only part. -/
theorem standsFor_self (chart : Chart) (a : Nonterminal) : chart.StandsFor a [a] where
  nonempty := List.cons_ne_nil a []
  mem_iff ordered inside := by
    rw [hasParts_singleton_iff, exists_prop_of_true ordered, exists_prop_of_true inside]

/-- A pair of names is realised by the spans of the two sequences one after the other. -/
theorem StandsFor.realises_iff {chart : Chart} {tokens : List String} {b c : Nonterminal}
    {lefts rights : List Nonterminal} (left : chart.StandsFor b lefts)
    (right : chart.StandsFor c rights) {i j : Nat} :
    chart.Realises tokens (.pair b c) i j ↔ chart.HasParts (lefts ++ rights) i j := by
  refine ⟨fun realised => ?_, fun sequence => ?_⟩
  · cases realised with
    | pair lower upper inside leftMember rightMember =>
      exact ((left.mem_iff _ _).mp leftMember).append ((right.mem_iff _ _).mp rightMember)
  · obtain ⟨k, leftParts, rightParts⟩ := sequence.exists_cut left.nonempty right.nonempty
    obtain ⟨lower, within⟩ := leftParts.bounds
    obtain ⟨upper, inside⟩ := rightParts.bounds
    exact .pair lower upper inside ((left.mem_iff lower within).mpr leftParts)
      ((right.mem_iff upper inside).mpr rightParts)

/-- A nonterminal with one rule, for a pair of names, is a name for both sequences. -/
theorem standsFor_of_rule {start : Nonterminal} {rules : List Rule} {tokens : List String}
    {a b c : Nonterminal} {lefts rights : List Nonterminal}
    (only : ∀ body, ⟨a, body⟩ ∈ rules ↔ body = .pair b c)
    (left : (fill (.ofRules start rules) tokens).StandsFor b lefts)
    (right : (fill (.ofRules start rules) tokens).StandsFor c rights) :
    (fill (.ofRules start rules) tokens).StandsFor a (lefts ++ rights) where
  nonempty := List.append_ne_nil_of_left_ne_nil left.nonempty rights
  mem_iff ordered inside := by
    rw [mem_cell_fill_iff_realises ordered inside]
    simp only [only, exists_eq_left]
    exact left.realises_iff right

end Chart

end BalineseChart
