import BalineseChart.Proofs.Chart.Commitment

/-!
# How a search over any chart ends

A chart may come from anywhere: it may have been filled with another grammar, or for other
tokens. The search then takes choices back. A split whose two sides the chart has may still
have a side that cannot be derived, and the search goes on to the next split. It leaves out
none of them, so it finds a tree if the chart confirms any (`reconstruct_of_any_chart`).

If it finds none, the failure that it ends with is that of its last attempt, which may lie
several spans below the one it started from. Each attempt fails as one of its sides does, and
a span without splits fails by itself; so, by induction on the length of the span, what
surfaces is always a span of several tokens that has the nonterminal and no split for it: a
dead end (`Chart.DeadEnd`, `exists_deadEnd_of_derive`).
-/

namespace BalineseChart

/-! ## Spans without a split -/

/-- The chart has the nonterminal over a span of several tokens, but the grammar declares no
pair for it whose parts the chart has on the two sides of a cut. -/
structure Chart.DeadEnd (chart : Chart) (g : Grammar) (a : Nonterminal) (i j : Nat) : Prop where
  longer : i < j
  inside : j < chart.size
  member : a ∈ chart.cell i j (Nat.le_of_lt longer) inside
  unsupported : ¬ ∃ pair ∈ g.pairsOf a, ∃ k, chart.Supports pair i k j

/-! ## The failures of the search -/

section Failures

variable {g : Grammar} {chart : Chart} {tokens : List String}

/-- Over a span that has the nonterminal, the search fails only at a dead end, by induction on
the length of the span: the sides of a split that is tried have their nonterminals too. -/
theorem exists_deadEnd_of_derive {fits : tokens.length = chart.size} {a : Nonterminal} {i j : Nat}
    {ordered : i ≤ j} {inside : j < chart.size} {failure : ParseError}
    (member : a ∈ chart.cell i j ordered inside)
    (failed : derive g chart tokens fits a i j ordered inside = .error failure) :
    ∃ b first last, failure = .inconsistent b first last ∧ chart.DeadEnd g b first last := by
  induction length : j - i using Nat.strongRecOn generalizing i j a with
  | ind d ih =>
    rcases Nat.lt_or_eq_of_le ordered with longer | rfl
    · rw [derive_of_lt a longer] at failed
      rcases eq_nil_or_exists_mem_of_firstSuccess failed with ⟨untried, rfl⟩ | ⟨split, tried, failed⟩
      · exact ⟨a, i, j, rfl, longer, inside, member, (Chart.splits_eq_nil_iff inside).mp untried⟩
      · obtain ⟨leftMember, rightMember⟩ :=
          (Chart.confirms_iff inside split).mp ((Chart.mem_splits inside).mp tried).2
        have lower := split.lower
        have upper := split.upper
        rcases derive_eq_error_of_deriveSplit failed with leftFailed | rightFailed
        · exact ih (split.cut - i) (by omega) leftMember leftFailed rfl
        · exact ih (j - (split.cut + 1)) (by omega) rightMember rightFailed rfl
    · rw [derive_self] at failed
      cases failed

/-- What is reconstructed is a tree that the chart confirms for the start symbol. -/
theorem confirmed_of_reconstruct {tree : Tree}
    (found : reconstruct g chart tokens = .ok (some tree)) :
    tree.symbol = g.start ∧ chart.Confirmed g tokens tree 0 (chart.size - 1) := by
  obtain ⟨_, _, derived⟩ := exists_derive_of_reconstruct found
  exact confirmed_of_derive derived

/-- Unless the chart is of another number of tokens, a failure names a dead end. -/
theorem exists_deadEnd_of_reconstruct {failure : ParseError}
    (failed : reconstruct g chart tokens = .error failure) :
    failure = .mismatch chart.size tokens.length ∨
      ∃ b first last, failure = .inconsistent b first last ∧ chart.DeadEnd g b first last := by
  rcases eq_mismatch_or_derive_of_reconstruct failed with other | ⟨_, accepted, searched⟩
  · exact Or.inl other
  · obtain ⟨_, member⟩ := Chart.accepts_iff.mp accepted
    exact Or.inr (exists_deadEnd_of_derive member searched)

end Failures

/-! ## The search over a chart that has the start symbol -/

/-- Over any chart with the start symbol for the whole input, the search finds a tree that the
chart confirms if there is one, and reports an inconsistency if there is none. -/
theorem reconstruct_of_any_chart {g : Grammar} {chart : Chart} {tokens : List String}
    (fits : tokens.length = chart.size) (accepted : chart.accepts g.start = true) :
    ((∃ tree : Tree, tree.symbol = g.start ∧
        chart.Confirmed g tokens tree 0 (tokens.length - 1)) →
      ∃ tree : Tree, reconstruct g chart tokens = .ok (some tree) ∧ tree.symbol = g.start ∧
        chart.Confirmed g tokens tree 0 (tokens.length - 1)) ∧
    ((¬ ∃ tree : Tree, tree.symbol = g.start ∧
        chart.Confirmed g tokens tree 0 (tokens.length - 1)) →
      ∃ symbol first last,
        reconstruct g chart tokens = .error (.inconsistent symbol first last)) := by
  obtain ⟨nonempty, member⟩ := Chart.accepts_iff.mp accepted
  have inside := Chart.last_lt_size nonempty
  rw [fits]
  constructor
  · intro some_confirmed
    obtain ⟨tree, root, confirmed⟩ := some_confirmed
    obtain ⟨tree', derived⟩ := @exists_derive_of_confirmed _ _ _ fits _ _ _ confirmed inside
    rw [root] at derived
    have found := reconstruct_of_derive accepted derived
    exact ⟨tree', found, confirmed_of_reconstruct found⟩
  · intro none_confirmed
    cases searched : derive g chart tokens fits g.start 0 (chart.size - 1) chart.zero_le_last
        inside with
    | ok tree => exact (none_confirmed ⟨tree, confirmed_of_derive searched⟩).elim
    | error failure =>
      obtain ⟨b, first, last, rfl, -⟩ := exists_deadEnd_of_derive member searched
      exact ⟨b, first, last, reconstruct_of_derive_error accepted searched⟩

/-- Rules for a predicate and two nouns, either of which may be the subject. -/
def eitherOrder : List Rule :=
  [⟨.sentence, .pair .predComp .subject⟩, ⟨.sentence, .pair .predicate .subjComp⟩,
   ⟨.predComp, .pair .predicate .complement⟩, ⟨.subjComp, .pair .subject .complement⟩,
   ⟨.predicate, .word "dueg"⟩, ⟨.subject, .word "guru"⟩, ⟨.complement, .word "guru"⟩,
   ⟨.subject, .word "made"⟩, ⟨.complement, .word "made"⟩]

/-- A chart that has a predicate with its complement over the first two of three tokens. -/
def eitherOrderChart : Chart :=
  Chart.fill (.ofRules .sentence eitherOrder) ["dueg", "guru", "made"]

/-- Rules that do not say what a predicate with its complement is, and so come to a dead end in
that chart; but the subject and the complement make up another split of the sentence. -/
def subjectFirst : List Rule :=
  [⟨.sentence, .pair .predComp .subject⟩, ⟨.sentence, .pair .predicate .subjComp⟩,
   ⟨.subjComp, .pair .subject .complement⟩]

/-- The same without the other split. -/
def complementFirst : List Rule :=
  [⟨.sentence, .pair .predComp .subject⟩]

/-- The dead end lies below the span that the search starts from. -/
theorem reconstruct_complementFirst :
    reconstruct (.ofRules .sentence complementFirst) eitherOrderChart ["dueg", "guru", "made"] =
      .error (.inconsistent .predComp 0 1) := by
  decide +kernel

/-- With the rules of another grammar, a choice is taken back, or there is none left. -/
theorem reconstruct_eitherOrderChart :
    ["dueg", "guru", "made"].length = eitherOrderChart.size ∧
      eitherOrderChart.accepts (Grammar.ofRules .sentence subjectFirst).start = true ∧
      eitherOrderChart.accepts (Grammar.ofRules .sentence complementFirst).start = true ∧
      (∃ tree : Tree,
        reconstruct (.ofRules .sentence subjectFirst) eitherOrderChart
          ["dueg", "guru", "made"] = .ok (some tree) ∧
        tree.symbol = (Grammar.ofRules .sentence subjectFirst).start ∧
        eitherOrderChart.Confirmed (.ofRules .sentence subjectFirst) ["dueg", "guru", "made"]
          tree 0 2) ∧
      ∃ symbol first last,
        reconstruct (.ofRules .sentence complementFirst) eitherOrderChart
          ["dueg", "guru", "made"] = .error (.inconsistent symbol first last) := by
  have fits : ["dueg", "guru", "made"].length = eitherOrderChart.size := rfl
  have accepted :
      eitherOrderChart.accepts (Grammar.ofRules .sentence subjectFirst).start = true := by
    decide +kernel
  have accepted' :
      eitherOrderChart.accepts (Grammar.ofRules .sentence complementFirst).start = true := by
    decide +kernel
  have confirmed : eitherOrderChart.Confirmed (.ofRules .sentence subjectFirst)
      ["dueg", "guru", "made"] (.join .sentence (.leaf .predicate "dueg" 0)
        (.join .subjComp (.leaf .subject "guru" 1) (.leaf .complement "made" 2))) 0 2 := by
    refine .branch (Nat.le_refl 0) (by decide) (by decide) (by decide) ?_ ?_ (.leaf rfl)
      (.branch (Nat.le_refl 1) (by decide) (by decide) (by decide) ?_ ?_ (.leaf rfl) (.leaf rfl))
    all_goals decide +kernel
  refine ⟨fits, accepted, accepted',
    (reconstruct_of_any_chart fits accepted).1 ⟨_, rfl, confirmed⟩,
    (reconstruct_of_any_chart fits accepted').2 ?_⟩
  intro some_confirmed
  obtain ⟨tree, found, -⟩ := (reconstruct_of_any_chart fits accepted').1 some_confirmed
  rw [reconstruct_complementFirst] at found
  cases found

/-! ## What a reported inconsistency means -/

/-- An inconsistency names a dead end of the chart. So there is none to report if every
nonterminal over a span of several tokens has a pair that the chart supports. -/
theorem deadEnd_of_inconsistent (g : Grammar) (chart : Chart) (tokens : List String) :
    (∀ symbol first last,
      reconstruct g chart tokens = .error (.inconsistent symbol first last) →
        chart.DeadEnd g symbol first last) ∧
    ((∀ (a : Nonterminal) (i j : Nat) (longer : i < j) (inside : j < chart.size),
        a ∈ chart.cell i j (Nat.le_of_lt longer) inside →
          ∃ pair ∈ g.pairsOf a, ∃ k, chart.Supports pair i k j) →
      ∀ symbol first last,
        reconstruct g chart tokens ≠ .error (.inconsistent symbol first last)) := by
  have named : ∀ symbol first last,
      reconstruct g chart tokens = .error (.inconsistent symbol first last) →
        chart.DeadEnd g symbol first last := by
    intro symbol first last failed
    rcases exists_deadEnd_of_reconstruct failed with absurd | ⟨b, i, j, same, deadEnd⟩
    · cases absurd
    · cases same
      exact deadEnd
  refine ⟨named, ?_⟩
  intro every symbol first last failed
  have deadEnd := named symbol first last failed
  exact deadEnd.unsupported (every symbol first last deadEnd.longer deadEnd.inside deadEnd.member)

/-- The chart has a dead end for one grammar, and none for its own. -/
theorem deadEnd_of_eitherOrderChart :
    reconstruct (.ofRules .sentence complementFirst) eitherOrderChart ["dueg", "guru", "made"] =
        .error (.inconsistent .predComp 0 1) ∧
      eitherOrderChart.DeadEnd (.ofRules .sentence complementFirst) .predComp 0 1 ∧
      (∀ (a : Nonterminal) (i j : Nat) (longer : i < j) (inside : j < eitherOrderChart.size),
        a ∈ eitherOrderChart.cell i j (Nat.le_of_lt longer) inside →
          ∃ pair ∈ (Grammar.ofRules .sentence eitherOrder).pairsOf a,
            ∃ k, eitherOrderChart.Supports pair i k j) ∧
      ∀ symbol first last,
        reconstruct (.ofRules .sentence eitherOrder) eitherOrderChart
          ["dueg", "guru", "made"] ≠ .error (.inconsistent symbol first last) := by
  have every : ∀ (a : Nonterminal) (i j : Nat) (longer : i < j)
      (inside : j < eitherOrderChart.size),
      a ∈ eitherOrderChart.cell i j (Nat.le_of_lt longer) inside →
        ∃ pair ∈ (Grammar.ofRules .sentence eitherOrder).pairsOf a,
          ∃ k, eitherOrderChart.Supports pair i k j :=
    fun a i j longer inside member =>
      exists_supports_of_mem_cell_fill longer inside member
  exact ⟨reconstruct_complementFirst,
    (deadEnd_of_inconsistent _ _ _).1 _ _ _ reconstruct_complementFirst, every,
    (deadEnd_of_inconsistent _ _ _).2 every⟩

end BalineseChart
