import BalineseChart.Analysis
import BalineseChart.Proofs.Chart.Recognition
import BalineseChart.Proofs.Grammar.Contents

/-!
# Tokens that no rule produces

A nonterminal of a span was put together from nonterminals of its tokens, so a span with a
token that no rule produces has none (`knows_of_mem_cell_fill`). An accepted input therefore
has no gaps (`gaps_eq_nil_of_accepted`). For this it does not matter where the grammar comes
from: it is enough that a word with a head is a known word.

The converse, that a known word has a head, holds of the grammar of a list of rules. There the
gaps are exactly the positions where the diagonal of the chart is empty (`gaps_are_holes`).
-/

namespace BalineseChart

namespace Grammar

variable {g : Grammar}

theorem knows_of_mem_headsOfWord {word : String} {a : Nonterminal}
    (headed : a ∈ g.headsOfWord word) : g.knows word = true := by
  cases known : g.knows word with
  | true => rfl
  | false =>
    rw [headsOfWord, Std.TreeMap.getD_eq_fallback_of_contains_eq_false known] at headed
    cases headed

/-- The gaps are the tokens that the grammar does not know, each at its position. -/
theorem mem_gaps_iff {tokens : List String} {gap : Gap} :
    gap ∈ g.gaps tokens ↔
      tokens[gap.position]? = some gap.token ∧ g.knows gap.token = false := by
  rw [gaps, List.mem_filterMap, Prod.exists]
  constructor
  · intro found
    rcases found with ⟨token, position, numbered, chosen⟩
    dsimp only at chosen
    split at chosen
    · cases chosen
    · next unknown =>
      cases chosen
      exact ⟨List.mem_zipIdx_iff_getElem?.mp numbered, Bool.eq_false_iff.mpr unknown⟩
  · intro found
    rcases found with ⟨here, unknown⟩
    refine ⟨gap.token, gap.position, List.mem_zipIdx_iff_getElem?.mpr here, ?_⟩
    exact if_neg (Bool.eq_false_iff.mp unknown)

/-- The gaps are listed from left to right. -/
theorem pairwise_position_gaps (tokens : List String) :
    (g.gaps tokens).Pairwise fun gap gap' => gap.position < gap'.position := by
  have numbered : tokens.zipIdx.Pairwise fun a b => a.2 < b.2 := by
    rw [← List.pairwise_map, List.zipIdx_map_snd]
    exact List.pairwise_lt_range'
  rw [gaps, List.pairwise_filterMap]
  refine numbered.imp ?_
  intro a b before gap chosen gap' chosen'
  dsimp only at chosen chosen'
  split at chosen
  · cases chosen
  · split at chosen'
    · cases chosen'
    · cases chosen
      cases chosen'
      exact before

theorem gaps_eq_nil_iff {tokens : List String} :
    g.gaps tokens = [] ↔ ∀ token ∈ tokens, g.knows token = true := by
  rw [List.eq_nil_iff_forall_not_mem]
  constructor
  · intro none_left token member
    obtain ⟨position, here⟩ := List.mem_iff_getElem?.mp member
    rw [← Bool.not_eq_false]
    exact fun unknown => none_left ⟨position, token⟩ (mem_gaps_iff.mpr ⟨here, unknown⟩)
  · intro known gap member
    obtain ⟨here, unknown⟩ := mem_gaps_iff.mp member
    rw [known gap.token (List.mem_of_getElem? here)] at unknown
    cases unknown

end Grammar

namespace Chart

variable {g : Grammar} {tokens : List String}

/-- A span with a nonterminal has known words only, by induction on its length. -/
theorem knows_of_mem_cell_fill {i j : Nat} (ordered : i ≤ j) (inside : j < tokens.length)
    {a : Nonterminal} (member : a ∈ (fill g tokens).cell i j ordered inside) {p : Nat}
    (lower : i ≤ p) (upper : p ≤ j) (within : p < tokens.length) : g.knows tokens[p] = true := by
  induction length : j - i using Nat.strongRecOn generalizing i j a with
  | ind d ih =>
    rcases Nat.lt_or_eq_of_le ordered with longer | rfl
    · obtain ⟨k, left, right, joined⟩ := (mem_cell_fill longer inside).mp member
      obtain ⟨b, leftMember, c, rightMember, -⟩ := mem_join.mp joined
      rcases Nat.lt_or_ge k p with after | before
      · exact ih (j - (k + 1)) (by omega) right inside rightMember after upper rfl
      · exact ih (k - i) (by omega) left _ leftMember lower before rfl
    · obtain rfl := Nat.le_antisymm lower upper
      rw [cell_fill_self, wordCell, NonterminalSet.mem_ofList] at member
      exact Grammar.knows_of_mem_headsOfWord member

/-- A chart with anything at its top has no gaps under it. -/
theorem gaps_eq_nil_of_accepts {a : Nonterminal} (accepted : (fill g tokens).accepts a = true) :
    g.gaps tokens = [] := by
  obtain ⟨nonempty, member⟩ := accepts_iff.mp accepted
  rw [Grammar.gaps_eq_nil_iff]
  intro token here
  obtain ⟨p, within, rfl⟩ := List.getElem_of_mem here
  exact knows_of_mem_cell_fill _ _ member (Nat.zero_le p) (Nat.le_sub_one_of_lt within) within

end Chart

/-- An accepted input has no gaps. -/
theorem Grammar.gaps_eq_nil_of_accepted {g : Grammar} {tokens : List String}
    (accepted : (g.analyseTokens tokens).accepted = true) :
    (g.analyseTokens tokens).gaps = [] :=
  Chart.gaps_eq_nil_of_accepts accepted

/-! ## Holes of the diagonal -/

namespace Chart

section Holes

variable {start : Nonterminal} {rules : List Rule} {tokens : List String}

/-- A cell of the diagonal is empty exactly if no rule produces its token. -/
theorem cell_fill_self_eq_empty_iff {p : Nat} (within : p < tokens.length) :
    (fill (.ofRules start rules) tokens).cell p p (Nat.le_refl p) within = ∅ ↔
      (Grammar.ofRules start rules).knows tokens[p] = false := by
  rw [← Bool.not_eq_true, Grammar.knows_iff_headsOfWord_ne_nil, not_ne_iff,
    List.eq_nil_iff_forall_not_mem, NonterminalSet.eq_empty_iff, cell_fill_self]
  simp only [wordCell, NonterminalSet.mem_ofList]

/-- The spans that have a gap in them are empty. -/
theorem cell_fill_eq_empty_of_mem_gaps {gap : Gap}
    (member : gap ∈ (Grammar.ofRules start rules).gaps tokens) {i j : Nat} (ordered : i ≤ j)
    (inside : j < tokens.length) (lower : i ≤ gap.position) (upper : gap.position ≤ j) :
    (fill (.ofRules start rules) tokens).cell i j ordered inside = ∅ := by
  obtain ⟨here, unknown⟩ := Grammar.mem_gaps_iff.mp member
  obtain ⟨within, found⟩ := List.getElem?_eq_some_iff.mp here
  rw [NonterminalSet.eq_empty_iff]
  intro a headed
  have known := knows_of_mem_cell_fill ordered inside headed lower upper within
  rw [found, unknown] at known
  cases known

end Holes

end Chart

/-- The gaps of some tokens are the holes of their chart: they are listed from left to right,
each with its token, for exactly the positions where the diagonal is empty; no span that
has one of them in it has a nonterminal; and so there are none under a chart that has
anything at its top. -/
theorem gaps_are_holes (start : Nonterminal) (rules : List Rule) (tokens : List String) :
    ((Grammar.ofRules start rules).gaps tokens).Pairwise
      (fun gap gap' => gap.position < gap'.position) ∧
    (∀ gap, gap ∈ (Grammar.ofRules start rules).gaps tokens ↔
      ∃ within : gap.position < tokens.length, gap.token = tokens[gap.position] ∧
        (Chart.fill (.ofRules start rules) tokens).cell gap.position gap.position
          (Nat.le_refl _) within = ∅) ∧
    (∀ gap ∈ (Grammar.ofRules start rules).gaps tokens,
      ∀ (i j : Nat) (ordered : i ≤ j) (inside : j < tokens.length),
        i ≤ gap.position → gap.position ≤ j →
          (Chart.fill (.ofRules start rules) tokens).cell i j ordered inside = ∅) ∧
    ∀ a, (Chart.fill (.ofRules start rules) tokens).accepts a = true →
      (Grammar.ofRules start rules).gaps tokens = [] := by
  refine ⟨Grammar.pairwise_position_gaps tokens, ?_, ?_, ?_⟩
  · intro gap
    rw [Grammar.mem_gaps_iff, List.getElem?_eq_some_iff]
    constructor
    · intro found
      obtain ⟨⟨within, here⟩, unknown⟩ := found
      refine ⟨within, here.symm, (Chart.cell_fill_self_eq_empty_iff within).mpr ?_⟩
      rwa [here]
    · intro found
      obtain ⟨within, here, hole⟩ := found
      refine ⟨⟨within, here.symm⟩, ?_⟩
      rw [here]
      exact (Chart.cell_fill_self_eq_empty_iff within).mp hole
  · intro gap member i j ordered inside lower upper
    exact Chart.cell_fill_eq_empty_of_mem_gaps member ordered inside lower upper
  · exact fun a accepted => Chart.gaps_eq_nil_of_accepts accepted

/-- A token between two derivations leaves a hole that no span gets across, and where there is
none the repeated word is accepted. -/
theorem hole_in_repetition :
    (∃ gap ∈ (Grammar.ofRules .sentence (repetition "a")).gaps ["a", "b", "a"],
      ∃ (ordered : 0 ≤ 2) (inside : 2 < ["a", "b", "a"].length),
        0 ≤ gap.position ∧ gap.position ≤ 2 ∧
          (Chart.fill (.ofRules .sentence (repetition "a")) ["a", "b", "a"]).cell 0 2
            ordered inside = ∅) ∧
    (Chart.fill (.ofRules .sentence (repetition "a")) ["a", "a"]).accepts .sentence = true ∧
      (Grammar.ofRules .sentence (repetition "a")).gaps ["a", "a"] = [] := by
  have member : ⟨1, "b"⟩ ∈ (Grammar.ofRules .sentence (repetition "a")).gaps ["a", "b", "a"] := by
    decide +kernel
  have inside : 2 < ["a", "b", "a"].length := by decide
  have accepted :
      (Chart.fill (.ofRules .sentence (repetition "a")) ["a", "a"]).accepts .sentence = true := by
    decide +kernel
  obtain ⟨-, -, hole, -⟩ := gaps_are_holes .sentence (repetition "a") ["a", "b", "a"]
  obtain ⟨-, -, -, closed⟩ := gaps_are_holes .sentence (repetition "a") ["a", "a"]
  exact ⟨⟨_, member, Nat.zero_le 2, inside, Nat.zero_le 1, Nat.le_succ 1,
    hole _ member 0 2 _ inside (Nat.zero_le 1) (Nat.le_succ 1)⟩, accepted,
    closed .sentence accepted⟩

end BalineseChart
