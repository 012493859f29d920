import BalineseChart.Proofs.Reconstruction
import Mathlib.Data.List.FinRange

/-!
# The search never takes back a choice

The search for a derivation goes on to another split when one of the two sides of a split
has no derivation. On a chart that was filled from the same grammar and tokens this never
happens: the chart has both parts of the split over their spans, and what such a chart has
over a span can be derived there. So the search is one that commits itself to the first
split of each span (`commit`), and every branch of what it finds is split the preferred way:
by the first pair that has a place to cut, at the last of its places
(`Chart.Preferred`).

`exists_commit_of_mem_cell_fill` is the induction on the length of the span that carries all
of this; at a span of several tokens it needs only that the first split is the preferred one
(`Chart.preferred_of_head?_splits`).
-/

namespace BalineseChart

/-! ## The preferred split of a span -/

namespace Chart

/-- The chart has the parts of a pair on the two sides of a cut after `k`. -/
def Supports (chart : Chart) (pair : Nonterminal × Nonterminal) (i k j : Nat) : Prop :=
  ∃ (lower : i ≤ k) (upper : k < j) (inside : j < chart.size),
    pair.1 ∈ chart.cell i k lower (Nat.lt_trans upper inside) ∧
      pair.2 ∈ chart.cell (k + 1) j upper inside

theorem Supports.bounds {chart : Chart} {pair : Nonterminal × Nonterminal} {i k j : Nat}
    (supported : chart.Supports pair i k j) : i ≤ k ∧ k < j := by
  obtain ⟨lower, upper, -⟩ := supported
  exact ⟨lower, upper⟩

/-- The chart supports the pair at a cut after `k` and at no later cut, and it supports no pair
that is declared before this one at any cut of the span. -/
structure Preferred (chart : Chart) (g : Grammar) (a : Nonterminal)
    (pair : Nonterminal × Nonterminal) (i k j : Nat) : Prop where
  supported : chart.Supports pair i k j
  first : ∃ earlier later, g.pairsOf a = earlier ++ pair :: later ∧
    ∀ other ∈ earlier, ∀ cut, ¬ chart.Supports other i cut j
  last : ∀ cut, chart.Supports pair i cut j → cut ≤ k

end Chart

/-! ## The order of the splits -/

/-- What is found in an ordered list comes before all else that could have been found. -/
theorem eq_or_rel_of_find? {α : Type} {r : α → α → Prop} {p : α → Bool} {xs : List α} {x y : α}
    (ordered : xs.Pairwise r) (found : xs.find? p = some x) (member : y ∈ xs) (fits : p y = true) :
    y = x ∨ r x y := by
  obtain ⟨-, earlier, later, rfl, failed⟩ := List.find?_eq_some_iff_append.mp found
  rcases List.mem_append.mp member with before | after
  · have absurd := failed y before
    rw [fits] at absurd
    cases absurd
  · rcases List.mem_cons.mp after with same | after
    · exact Or.inl same
    · exact Or.inr (List.rel_of_pairwise_cons (List.pairwise_append.mp ordered).2.1 after)

theorem pairwise_cuts (i j : Nat) : (cuts i j).Pairwise fun cut later => later.1 < cut.1 := by
  rw [cuts, List.pairwise_map, List.pairwise_reverse]
  refine (List.pairwise_lt_finRange (j - i)).imp ?_
  intro s t before
  exact Nat.add_lt_add_left before i

section Splits

variable {chart : Chart} {g : Grammar} {i j : Nat}

theorem Chart.confirms_iff_supports (inside : j < chart.size) (split : Split i j) :
    chart.confirms inside split = true ↔
      chart.Supports (split.left, split.right) i split.cut j := by
  rw [Chart.confirms_iff]
  constructor
  · intro both
    exact ⟨split.lower, split.upper, inside, both⟩
  · intro supported
    obtain ⟨_, _, _, both⟩ := supported
    exact both

/-- A span has no split to try exactly if the chart supports no declared pair at any cut. -/
theorem Chart.splits_eq_nil_iff {a : Nonterminal} (inside : j < chart.size) :
    (chart.splits g a inside : List (Split i j)) = [] ↔
      ¬ ∃ pair ∈ g.pairsOf a, ∃ k, chart.Supports pair i k j := by
  rw [List.eq_nil_iff_forall_not_mem]
  constructor
  · intro untried some_split
    obtain ⟨pair, declared, k, supported⟩ := some_split
    have bounds := supported.bounds
    let split : Split i j := ⟨pair.1, pair.2, k, bounds.1, bounds.2⟩
    exact untried split ((Chart.mem_splits inside).mpr
      ⟨declared, (Chart.confirms_iff_supports inside split).mpr supported⟩)
  · intro unsupported split tried
    obtain ⟨declared, confirmed⟩ := (Chart.mem_splits inside).mp tried
    exact unsupported
      ⟨_, declared, split.cut, (Chart.confirms_iff_supports inside split).mp confirmed⟩

/-- The first split that is tried is by the first pair with support, and at the last of its
cuts, since the cuts are tried from right to left. -/
theorem Chart.preferred_of_head?_splits {a : Nonterminal} {inside : j < chart.size}
    {split : Split i j} (first : (chart.splits g a inside).head? = some split) :
    chart.Preferred g a (split.left, split.right) i split.cut j := by
  simp only [Chart.splits, List.head?_flatMap, List.head?_filter, List.find?_map] at first
  obtain ⟨earlier, pair, later, declared, chosen, failed⟩ := List.findSome?_eq_some_iff.mp first
  obtain ⟨cut, found, rfl⟩ := Option.map_eq_some_iff.mp chosen
  have confirmed := List.find?_some found
  refine ⟨(Chart.confirms_iff_supports inside _).mp confirmed, ⟨earlier, later, declared, ?_⟩, ?_⟩
  · intro other member k supported
    have none_found := List.find?_eq_none.mp (Option.map_eq_none_iff.mp (failed other member))
    have bounds := supported.bounds
    exact none_found ⟨k, bounds⟩ (mem_cuts _)
      ((Chart.confirms_iff_supports inside ⟨other.1, other.2, k, bounds.1, bounds.2⟩).mpr supported)
  · intro k supported
    have bounds := supported.bounds
    have fits := (Chart.confirms_iff_supports inside
      ⟨pair.1, pair.2, k, bounds.1, bounds.2⟩).mpr supported
    rcases eq_or_rel_of_find? (pairwise_cuts i j) found (mem_cuts ⟨k, bounds⟩) fits with
      same | before
    · exact Nat.le_of_eq (congrArg Subtype.val same)
    · exact Nat.le_of_lt before

end Splits

/-! ## The search that commits itself -/

section Commitment

variable {g : Grammar} {tokens : List String}

/-- A derivation of `a` over the span from `i` to `j`, by a search that takes the first split
of each span and tries no other. -/
def commit (g : Grammar) (chart : Chart) (tokens : List String) (fits : tokens.length = chart.size)
    (a : Nonterminal) (i j : Nat) (ordered : i ≤ j) (inside : j < chart.size) :
    Except ParseError Tree :=
  if i = j then
    .ok (.leaf a (tokens.get ⟨i, by omega⟩) i)
  else
    match (chart.splits g a inside : List (Split i j)) with
    | [] => .error (.inconsistent a i j)
    | split :: _ =>
      match commit g chart tokens fits split.left i split.cut split.lower
          (Nat.lt_trans split.upper inside) with
      | .error failure => .error failure
      | .ok left =>
        match commit g chart tokens fits split.right (split.cut + 1) j split.upper inside with
        | .error failure => .error failure
        | .ok right => .ok (.join a left right)
termination_by j - i
decreasing_by
  · have := split.upper
    have := split.lower
    omega
  · have := split.upper
    have := split.lower
    omega

/-- A derivation of the start symbol over the whole chart, by the search that commits itself. -/
def reconstructCommitted (g : Grammar) (chart : Chart) (tokens : List String) :
    Except ParseError (Option Tree) :=
  if fits : tokens.length = chart.size then
    if accepted : chart.accepts g.start then
      match commit g chart tokens fits g.start 0 (chart.size - 1) chart.zero_le_last
          (Chart.last_lt_size (Chart.size_pos_of_accepts accepted)) with
      | .error failure => .error failure
      | .ok tree => .ok (some tree)
    else
      .ok none
  else
    .error (.mismatch chart.size tokens.length)

/-- The tree carries the span from `i` to `j`, its parts carry theirs, and each of its branches is
split the preferred way. -/
inductive Chart.Canonical (chart : Chart) (g : Grammar) : Tree → Nat → Nat → Prop
  | leaf {a : Nonterminal} {word : String} {i : Nat} : Chart.Canonical chart g (.leaf a word i) i i
  | branch {a : Nonterminal} {left right : Tree} {i k j : Nat} :
    chart.Preferred g a (left.symbol, right.symbol) i k j →
    Chart.Canonical chart g left i k → Chart.Canonical chart g right (k + 1) j →
    Chart.Canonical chart g (.branch a i j left right) i j

namespace Chart.Canonical

variable {chart : Chart} {tree : Tree} {i j : Nat}

theorem first_eq (canonical : chart.Canonical g tree i j) : tree.first = i := by
  cases canonical <;> rfl

theorem last_eq (canonical : chart.Canonical g tree i j) : tree.last = j := by
  cases canonical <;> rfl

theorem join {a : Nonterminal} {left right : Tree} {k : Nat}
    (preferred : chart.Preferred g a (left.symbol, right.symbol) i k j)
    (leftCanonical : chart.Canonical g left i k) (rightCanonical : chart.Canonical g right (k + 1) j) :
    chart.Canonical g (.join a left right) i j := by
  rw [Tree.join_eq_branch leftCanonical.first_eq rightCanonical.last_eq]
  exact .branch preferred leftCanonical rightCanonical

/-- Every branch in the tree is split the preferred way. -/
theorem preferred {a : Nonterminal} {first last : Nat} {left right : Tree}
    (canonical : chart.Canonical g tree i j)
    (member : .branch a first last left right ∈ tree.subtrees) :
    (first, last) = (left.first, right.last) ∧ right.first = left.last + 1 ∧
      chart.Preferred g a (left.symbol, right.symbol) left.first left.last right.last := by
  induction canonical with
  | leaf =>
    rw [Tree.subtrees, List.mem_singleton] at member
    cases member
  | branch here leftCanonical rightCanonical left_ih right_ih =>
    rw [Tree.subtrees, List.mem_cons, List.mem_append] at member
    rcases member with same | inLeft | inRight
    · cases same
      rw [leftCanonical.first_eq, leftCanonical.last_eq, rightCanonical.first_eq,
        rightCanonical.last_eq]
      exact ⟨rfl, rfl, here⟩
    · exact left_ih inLeft
    · exact right_ih inRight

end Chart.Canonical

section Steps

variable {chart : Chart} {fits : tokens.length = chart.size} {i j : Nat} {a : Nonterminal}
  {split : Split i j} {others : List (Split i j)} {left right : Tree}

/-- If the first split can be completed, it is what the search for a derivation returns. -/
theorem derive_of_splits {ordered : i ≤ j} {inside : j < chart.size}
    (tried : chart.splits g a inside = split :: others)
    (leftFound : derive g chart tokens fits split.left i split.cut split.lower
      (Nat.lt_trans split.upper inside) = .ok left)
    (rightFound : derive g chart tokens fits split.right (split.cut + 1) j split.upper inside =
      .ok right) :
    derive g chart tokens fits a i j ordered inside = .ok (.join a left right) := by
  have attempted : deriveSplit g chart tokens fits a inside split = .ok (.join a left right) :=
    deriveSplit_eq_ok_iff.mpr ⟨left, right, leftFound, rightFound, rfl⟩
  rw [derive_of_lt a (Nat.lt_of_le_of_lt split.lower split.upper), tried, firstSuccess, attempted]

theorem commit_self (ordered : i ≤ i) (inside : i < chart.size) :
    commit g chart tokens fits a i i ordered inside =
      .ok (.leaf a (tokens.get ⟨i, fits ▸ inside⟩) i) := by
  rw [commit, if_pos rfl]

theorem commit_of_splits {ordered : i ≤ j} {inside : j < chart.size}
    (tried : chart.splits g a inside = split :: others)
    (leftFound : commit g chart tokens fits split.left i split.cut split.lower
      (Nat.lt_trans split.upper inside) = .ok left)
    (rightFound : commit g chart tokens fits split.right (split.cut + 1) j split.upper inside =
      .ok right) :
    commit g chart tokens fits a i j ordered inside = .ok (.join a left right) := by
  have shorter : i < j := Nat.lt_of_le_of_lt split.lower split.upper
  rw [commit, if_neg (Nat.ne_of_lt shorter), tried]
  simp only [leftFound, rightFound]

end Steps

section Filled

variable {start : Nonterminal} {rules : List Rule} {i j : Nat} {a : Nonterminal}

/-- A nonterminal of a span of several tokens has a pair that the chart supports. -/
theorem exists_supports_of_mem_cell_fill (ordered : i < j) (inside : j < tokens.length)
    (member :
      a ∈ (Chart.fill (.ofRules start rules) tokens).cell i j (Nat.le_of_lt ordered) inside) :
    ∃ pair ∈ (Grammar.ofRules start rules).pairsOf a,
      ∃ k, (Chart.fill (.ofRules start rules) tokens).Supports pair i k j := by
  obtain ⟨k, lower, upper, b, c, rule, leftMember, rightMember⟩ :=
    Chart.exists_split_of_mem_cell_fill ordered inside member
  exact ⟨(b, c), Grammar.mem_pairsOf_ofRules.mpr rule, k, lower, upper, inside, leftMember,
    rightMember⟩

/-- A span of several tokens has a split to try for each of its nonterminals, and the chart
has both parts of the first one. -/
theorem exists_splits_eq_cons_of_mem_cell_fill (ordered : i < j) (inside : j < tokens.length)
    (member :
      a ∈ (Chart.fill (.ofRules start rules) tokens).cell i j (Nat.le_of_lt ordered) inside) :
    ∃ (split : Split i j) (others : List (Split i j)),
      (Chart.fill (.ofRules start rules) tokens).splits (.ofRules start rules) a inside =
        split :: others ∧
      split.left ∈ (Chart.fill (.ofRules start rules) tokens).cell i split.cut split.lower
        (Nat.lt_trans split.upper inside) ∧
      split.right ∈ (Chart.fill (.ofRules start rules) tokens).cell (split.cut + 1) j split.upper
        inside := by
  obtain ⟨split, others, tried⟩ := List.exists_cons_of_ne_nil fun untried =>
    (Chart.splits_eq_nil_iff inside).mp untried
      (exists_supports_of_mem_cell_fill ordered inside member)
  have first : split ∈ (Chart.fill (.ofRules start rules) tokens).splits (.ofRules start rules) a
      inside := by
    rw [tried]
    exact List.mem_cons_self
  exact ⟨split, others, tried,
    (Chart.confirms_iff inside split).mp ((Chart.mem_splits inside).mp first).2⟩

/-- What a filled chart has over a span is derived there without a second try, and split
the preferred way throughout, by induction on the length of the span. -/
theorem exists_commit_of_mem_cell_fill (ordered : i ≤ j) (inside : j < tokens.length)
    (member : a ∈ (Chart.fill (.ofRules start rules) tokens).cell i j ordered inside) :
    ∃ tree : Tree, tree.symbol = a ∧
      derive (.ofRules start rules) (Chart.fill (.ofRules start rules) tokens) tokens rfl a i j
        ordered inside = .ok tree ∧
      commit (.ofRules start rules) (Chart.fill (.ofRules start rules) tokens) tokens rfl a i j
        ordered inside = .ok tree ∧
      (Chart.fill (.ofRules start rules) tokens).Canonical (.ofRules start rules) tree i j := by
  induction length : j - i using Nat.strongRecOn generalizing i j a with
  | ind d ih =>
    rcases Nat.lt_or_eq_of_le ordered with longer | rfl
    · obtain ⟨split, others, tried, leftMember, rightMember⟩ :=
        exists_splits_eq_cons_of_mem_cell_fill longer inside member
      have preferred := Chart.preferred_of_head?_splits (List.head?_eq_some_iff.mpr ⟨others, tried⟩)
      have lower := split.lower
      have upper := split.upper
      obtain ⟨left, leftRoot, leftDerived, leftCommitted, leftCanonical⟩ :=
        ih (split.cut - i) (by omega) lower _ leftMember rfl
      obtain ⟨right, rightRoot, rightDerived, rightCommitted, rightCanonical⟩ :=
        ih (j - (split.cut + 1)) (by omega) upper inside rightMember rfl
      rw [← leftRoot, ← rightRoot] at preferred
      exact ⟨_, rfl, derive_of_splits tried leftDerived rightDerived,
        commit_of_splits tried leftCommitted rightCommitted,
        .join preferred leftCanonical rightCanonical⟩
    · exact ⟨_, rfl, derive_self a _ _, commit_self _ _, .leaf⟩

end Filled

end Commitment

/-- On a filled chart the search for a derivation is the search that commits itself to the
first split of each span. It finds a tree of which each branch is split by the first pair
that has a place to cut, at the last of its places. -/
theorem reconstruct_fill_committed (start : Nonterminal) (rules : List Rule)
    (tokens : List String) :
    reconstruct (.ofRules start rules) (Chart.fill (.ofRules start rules) tokens) tokens =
      reconstructCommitted (.ofRules start rules) (Chart.fill (.ofRules start rules) tokens)
        tokens ∧
    ((Chart.fill (.ofRules start rules) tokens).accepts (Grammar.ofRules start rules).start = true →
      ∃ tree : Tree,
        reconstruct (.ofRules start rules) (Chart.fill (.ofRules start rules) tokens) tokens =
          .ok (some tree) ∧
        ∀ (a : Nonterminal) (first last : Nat) (left right : Tree),
          .branch a first last left right ∈ tree.subtrees →
          (first, last) = (left.first, right.last) ∧ right.first = left.last + 1 ∧
            (Chart.fill (.ofRules start rules) tokens).Preferred (.ofRules start rules) a
              (left.symbol, right.symbol) left.first left.last right.last) := by
  have fits : tokens.length = (Chart.fill (.ofRules start rules) tokens).size := rfl
  cases verdict : (Chart.fill (.ofRules start rules) tokens).accepts
      (Grammar.ofRules start rules).start with
  | false =>
    refine ⟨?_, fun absurd => nomatch absurd⟩
    rw [reconstruct_of_rejected fits verdict, reconstructCommitted, dif_pos fits,
      dif_neg (Bool.eq_false_iff.mp verdict)]
  | true =>
    obtain ⟨nonempty, member⟩ := Chart.accepts_iff.mp verdict
    obtain ⟨tree, -, derived, committed, canonical⟩ := exists_commit_of_mem_cell_fill
      (Chart.zero_le_last _) (Chart.last_lt_size nonempty) member
    have found := reconstruct_of_derive verdict derived
    refine ⟨?_, fun _ => ⟨tree, found, fun a first last left right => canonical.preferred⟩⟩
    rw [found, reconstructCommitted, dif_pos fits, dif_pos verdict]
    simp only [committed]

/-- Four repeated words have five derivations, so there are choices that could be taken back. -/
theorem reconstruct_repetition_committed :
    (Chart.fill (.ofRules .sentence (repetition "a")) ["a", "a", "a", "a"]).accepts
        (Grammar.ofRules .sentence (repetition "a")).start = true ∧
      ∃ tree : Tree,
        reconstruct (.ofRules .sentence (repetition "a"))
          (Chart.fill (.ofRules .sentence (repetition "a")) ["a", "a", "a", "a"])
          ["a", "a", "a", "a"] = .ok (some tree) ∧
        ∀ (a : Nonterminal) (first last : Nat) (left right : Tree),
          .branch a first last left right ∈ tree.subtrees →
          (first, last) = (left.first, right.last) ∧ right.first = left.last + 1 ∧
            (Chart.fill (.ofRules .sentence (repetition "a")) ["a", "a", "a", "a"]).Preferred
              (.ofRules .sentence (repetition "a")) a (left.symbol, right.symbol) left.first
              left.last right.last := by
  have accepted : (Chart.fill (.ofRules .sentence (repetition "a")) ["a", "a", "a", "a"]).accepts
      (Grammar.ofRules .sentence (repetition "a")).start = true := by
    decide +kernel
  exact ⟨accepted, (reconstruct_fill_committed .sentence (repetition "a") _).2 accepted⟩

end BalineseChart
