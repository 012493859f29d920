import BalineseChart.Derivation
import BalineseChart.Proofs.Chart.Consistency

/-!
# What the search for a derivation finds

`derive` goes through the splits of a span in order and takes the first one whose two
sides it can derive. Whatever chart it is given, the tree it returns is one that the
chart confirms (`confirmed_of_derive`), and it returns a tree whenever the chart
confirms any tree over the span with the nonterminal at its root
(`exists_derive_of_confirmed`). Which one that is depends on nothing but the splits that
are tried: `derive_eq_of_splits` compares two searches with different grammars and charts.

All three rest on `derive_of_lt`, which names the attempt at one split, `deriveSplit`, and
so keeps later proofs from unfolding the recursion.
-/

namespace BalineseChart

/-! ## The first success of a list of attempts -/

section FirstSuccess

variable {α β ε : Type} {attempt : α → Except ε β} {failure : ε} {xs : List α}

/-- A success is the success of one of the attempts. -/
theorem exists_mem_of_firstSuccess {result : β}
    (success : firstSuccess attempt failure xs = .ok result) :
    ∃ x ∈ xs, attempt x = .ok result := by
  induction xs generalizing failure with
  | nil => cases success
  | cons x others ih =>
    rw [firstSuccess] at success
    split at success
    · next found =>
      rw [success] at found
      exact ⟨x, List.mem_cons_self, found⟩
    · obtain ⟨y, member, found⟩ := ih success
      exact ⟨y, List.mem_cons_of_mem x member, found⟩

/-- If an attempt in the list succeeds, so does the search, with it or an earlier one. -/
theorem exists_firstSuccess_of_mem {x : α} {result : β} (member : x ∈ xs)
    (success : attempt x = .ok result) :
    ∃ result', firstSuccess attempt failure xs = .ok result' := by
  induction xs generalizing failure with
  | nil => cases member
  | cons y others ih =>
    rw [firstSuccess]
    split
    · next found => exact ⟨_, rfl⟩
    · next failed =>
      rcases List.mem_cons.mp member with rfl | later
      · rw [success] at failed
        cases failed
      · exact ih later

/-- A failure is that of one of the attempts, or the given one if nothing is attempted. -/
theorem eq_nil_or_exists_mem_of_firstSuccess {failure' : ε}
    (failed : firstSuccess attempt failure xs = .error failure') :
    xs = [] ∧ failure' = failure ∨ ∃ x ∈ xs, attempt x = .error failure' := by
  induction xs generalizing failure with
  | nil =>
    cases failed
    exact Or.inl ⟨rfl, rfl⟩
  | cons x others ih =>
    rw [firstSuccess] at failed
    split at failed
    · cases failed
    · next found =>
      rcases ih failed with ⟨-, rfl⟩ | ⟨y, member, later⟩
      · exact Or.inr ⟨x, List.mem_cons_self, found⟩
      · exact Or.inr ⟨y, List.mem_cons_of_mem x member, later⟩

theorem firstSuccess_congr {attempt' : α → Except ε β}
    (same : ∀ x ∈ xs, attempt x = attempt' x) :
    firstSuccess attempt failure xs = firstSuccess attempt' failure xs := by
  induction xs generalizing failure with
  | nil => rfl
  | cons x others ih =>
    rw [firstSuccess, firstSuccess, same x List.mem_cons_self]
    split
    · rfl
    · exact ih (fun y later => same y (List.mem_cons_of_mem x later))

end FirstSuccess

/-! ## Splits -/

theorem mem_cuts {i j : Nat} (cut : { k : Nat // i ≤ k ∧ k < j }) : cut ∈ cuts i j := by
  rcases cut with ⟨k, lower, upper⟩
  simp only [cuts, List.mem_map, List.mem_reverse, List.mem_finRange, true_and]
  refine ⟨⟨k - i, by omega⟩, ?_⟩
  simp only [Subtype.mk.injEq]
  omega

section Splits

variable {chart : Chart} {g : Grammar} {i j : Nat}

theorem Chart.confirms_iff (inside : j < chart.size) (split : Split i j) :
    chart.confirms inside split = true ↔
      split.left ∈ chart.cell i split.cut split.lower (Nat.lt_trans split.upper inside) ∧
        split.right ∈ chart.cell (split.cut + 1) j split.upper inside := by
  rw [Chart.confirms, Bool.and_eq_true]
  rfl

/-- The splits that are tried are those that the grammar declares and the chart confirms. -/
theorem Chart.mem_splits {a : Nonterminal} (inside : j < chart.size) {split : Split i j} :
    split ∈ chart.splits g a inside ↔
      (split.left, split.right) ∈ g.pairsOf a ∧ chart.confirms inside split = true := by
  simp only [Chart.splits, List.mem_flatMap, List.mem_filter, List.mem_map]
  constructor
  · intro tried
    rcases tried with ⟨pair, declared, ⟨cut, _, rfl⟩, confirmed⟩
    exact ⟨declared, confirmed⟩
  · intro confirmed
    rcases confirmed with ⟨declared, confirmed⟩
    refine ⟨_, declared, ⟨⟨split.cut, split.lower, split.upper⟩, mem_cuts _, rfl⟩, confirmed⟩

end Splits

/-! ## The search -/

section Derive

variable {g : Grammar} {chart : Chart} {tokens : List String}
  {fits : tokens.length = chart.size} {i j : Nat}

/-- The attempt of the search at one split: both sides, the left one first. -/
def deriveSplit (g : Grammar) (chart : Chart) (tokens : List String)
    (fits : tokens.length = chart.size) (a : Nonterminal) (inside : j < chart.size)
    (split : Split i j) : Except ParseError Tree :=
  match derive g chart tokens fits split.left i split.cut split.lower
      (Nat.lt_trans split.upper inside) with
  | .error failure => .error failure
  | .ok left =>
    match derive g chart tokens fits split.right (split.cut + 1) j split.upper inside with
    | .error failure => .error failure
    | .ok right => .ok (.join a left right)

theorem derive_self (a : Nonterminal) (ordered : i ≤ i) (inside : i < chart.size) :
    derive g chart tokens fits a i i ordered inside =
      .ok (.leaf a (tokens.get ⟨i, fits ▸ inside⟩) i) := by
  rw [derive, if_pos rfl]

theorem derive_of_lt (a : Nonterminal) (shorter : i < j) (ordered : i ≤ j)
    (inside : j < chart.size) :
    derive g chart tokens fits a i j ordered inside =
      firstSuccess (fun split : Split i j => deriveSplit g chart tokens fits a inside split)
        (.inconsistent a i j) (chart.splits g a inside) := by
  rw [derive, if_neg (Nat.ne_of_lt shorter)]
  rfl

theorem deriveSplit_eq_ok_iff {a : Nonterminal} {inside : j < chart.size} {split : Split i j}
    {tree : Tree} :
    deriveSplit g chart tokens fits a inside split = .ok tree ↔
      ∃ left right,
        derive g chart tokens fits split.left i split.cut split.lower
          (Nat.lt_trans split.upper inside) = .ok left ∧
        derive g chart tokens fits split.right (split.cut + 1) j split.upper inside = .ok right ∧
        tree = .join a left right := by
  unfold deriveSplit
  constructor
  · intro success
    split at success
    · cases success
    · next left leftFound =>
      split at success
      · cases success
      · next right rightFound =>
        cases success
        exact ⟨left, right, leftFound, rightFound, rfl⟩
  · intro found
    rcases found with ⟨left, right, leftFound, rightFound, rfl⟩
    rw [leftFound, rightFound]

/-- An attempt fails as one of the two sides of its split does. -/
theorem derive_eq_error_of_deriveSplit {a : Nonterminal} {inside : j < chart.size}
    {split : Split i j} {failure : ParseError}
    (failed : deriveSplit g chart tokens fits a inside split = .error failure) :
    derive g chart tokens fits split.left i split.cut split.lower
        (Nat.lt_trans split.upper inside) = .error failure ∨
      derive g chart tokens fits split.right (split.cut + 1) j split.upper inside =
        .error failure := by
  unfold deriveSplit at failed
  split at failed
  · next leftFailed =>
    cases failed
    exact Or.inl leftFailed
  · split at failed
    · next rightFailed =>
      cases failed
      exact Or.inr rightFailed
    · cases failed

/-- What the search returns has the nonterminal at its root and is confirmed by the
chart, by induction on the length of the span. -/
theorem confirmed_of_derive {a : Nonterminal} {ordered : i ≤ j} {inside : j < chart.size}
    {tree : Tree} (success : derive g chart tokens fits a i j ordered inside = .ok tree) :
    tree.symbol = a ∧ chart.Confirmed g tokens tree i j := by
  induction length : j - i using Nat.strongRecOn generalizing i j a tree with
  | ind d ih =>
    rcases Nat.lt_or_eq_of_le ordered with shorter | rfl
    · rw [derive_of_lt a shorter] at success
      obtain ⟨split, tried, attempted⟩ := exists_mem_of_firstSuccess success
      obtain ⟨declared, confirmed⟩ := (Chart.mem_splits inside).mp tried
      obtain ⟨leftMember, rightMember⟩ := (Chart.confirms_iff inside split).mp confirmed
      obtain ⟨left, right, leftFound, rightFound, rfl⟩ := deriveSplit_eq_ok_iff.mp attempted
      have lower := split.lower
      have upper := split.upper
      obtain ⟨leftRoot, leftConfirmed⟩ := ih (split.cut - i) (by omega) leftFound rfl
      obtain ⟨rightRoot, rightConfirmed⟩ := ih (j - (split.cut + 1)) (by omega) rightFound rfl
      rw [← leftRoot] at declared leftMember
      rw [← rightRoot] at declared rightMember
      exact ⟨rfl, .join lower upper inside declared leftMember rightMember leftConfirmed
        rightConfirmed⟩
    · rw [derive_self] at success
      cases success
      exact ⟨rfl, .leaf (List.getElem?_eq_getElem (fits ▸ inside))⟩

/-- The search finds a tree if the chart confirms one, though perhaps not the same. -/
theorem exists_derive_of_confirmed {tree : Tree} (confirmed : chart.Confirmed g tokens tree i j)
    (inside : j < chart.size) :
    ∃ tree', derive g chart tokens fits tree.symbol i j confirmed.ordered inside = .ok tree' := by
  induction confirmed with
  | leaf found => exact ⟨_, derive_self _ _ inside⟩
  | @branch a left right i k j lower upper inside declared leftMember rightMember
      leftConfirmed rightConfirmed left_ih right_ih =>
    obtain ⟨left', leftFound⟩ := left_ih (Nat.lt_trans upper inside)
    obtain ⟨right', rightFound⟩ := right_ih inside
    let split : Split i j := ⟨left.symbol, right.symbol, k, lower, upper⟩
    have tried : split ∈ chart.splits g a inside :=
      (Chart.mem_splits inside).mpr
        ⟨declared, (Chart.confirms_iff inside split).mpr ⟨leftMember, rightMember⟩⟩
    have attempted :
        deriveSplit g chart tokens fits a inside split = .ok (.join a left' right') :=
      deriveSplit_eq_ok_iff.mpr ⟨left', right', leftFound, rightFound, rfl⟩
    have shorter := Nat.lt_of_le_of_lt lower upper
    have ordered := Nat.le_of_lt shorter
    change ∃ tree', derive g chart tokens fits a i j ordered inside = .ok tree'
    rw [derive_of_lt a shorter]
    exact exists_firstSuccess_of_mem tried attempted

/-- Two searches that try the same splits for all nonterminals that they come to find the
same, by induction on the length of the span. -/
theorem derive_eq_of_splits {g' : Grammar} {chart' : Chart} {fits' : tokens.length = chart'.size}
    (visited : Nonterminal → Prop)
    (same : ∀ {a : Nonterminal}, visited a → ∀ {i j : Nat} (inside : j < chart.size)
      (inside' : j < chart'.size),
      (chart.splits g a inside : List (Split i j)) = chart'.splits g' a inside')
    (closed : ∀ {a b c : Nonterminal}, visited a → (b, c) ∈ g.pairsOf a → visited b ∧ visited c)
    {a : Nonterminal} (here : visited a) (ordered : i ≤ j) (inside : j < chart.size)
    (inside' : j < chart'.size) :
    derive g chart tokens fits a i j ordered inside =
      derive g' chart' tokens fits' a i j ordered inside' := by
  induction length : j - i using Nat.strongRecOn generalizing i j a with
  | ind d ih =>
    rcases Nat.lt_or_eq_of_le ordered with shorter | rfl
    · rw [derive_of_lt a shorter, derive_of_lt a shorter, same here inside inside']
      apply firstSuccess_congr
      intro split tried
      rw [← same here inside inside'] at tried
      obtain ⟨left, right⟩ := closed here ((Chart.mem_splits inside).mp tried).1
      have lower := split.lower
      have upper := split.upper
      rw [deriveSplit, deriveSplit, ih (split.cut - i) (by omega) left lower _ _ rfl,
        ih (j - (split.cut + 1)) (by omega) right upper inside inside' rfl]
    · rw [derive_self, derive_self]

/-- A derivation of the start symbol over the whole chart is what is reconstructed. -/
theorem reconstruct_of_derive {fits : tokens.length = chart.size} {tree : Tree}
    (accepted : chart.accepts g.start = true)
    (found : derive g chart tokens fits g.start 0 (chart.size - 1) chart.zero_le_last
      (Chart.last_lt_size (Chart.size_pos_of_accepts accepted)) = .ok tree) :
    reconstruct g chart tokens = .ok (some tree) := by
  rw [reconstruct, dif_pos fits, dif_pos accepted]
  simp only [found]

theorem reconstruct_of_derive_error {fits : tokens.length = chart.size} {failure : ParseError}
    (accepted : chart.accepts g.start = true)
    (failed : derive g chart tokens fits g.start 0 (chart.size - 1) chart.zero_le_last
      (Chart.last_lt_size (Chart.size_pos_of_accepts accepted)) = .error failure) :
    reconstruct g chart tokens = .error failure := by
  rw [reconstruct, dif_pos fits, dif_pos accepted]
  simp only [failed]

/-- What is reconstructed is a derivation of the start symbol over the whole chart. -/
theorem exists_derive_of_reconstruct {tree : Tree}
    (found : reconstruct g chart tokens = .ok (some tree)) :
    ∃ (fits : tokens.length = chart.size) (accepted : chart.accepts g.start = true),
      derive g chart tokens fits g.start 0 (chart.size - 1) chart.zero_le_last
        (Chart.last_lt_size (Chart.size_pos_of_accepts accepted)) = .ok tree := by
  unfold reconstruct at found
  split at found
  · next fits =>
    split at found
    · next accepted =>
      dsimp only at found
      split at found
      · cases found
      · next derived =>
        cases found
        exact ⟨fits, accepted, derived⟩
    · cases found
  · cases found

/-- A failure is one of the search, unless the chart is of another number of tokens. -/
theorem eq_mismatch_or_derive_of_reconstruct {failure : ParseError}
    (failed : reconstruct g chart tokens = .error failure) :
    failure = .mismatch chart.size tokens.length ∨
      ∃ (fits : tokens.length = chart.size) (accepted : chart.accepts g.start = true),
        derive g chart tokens fits g.start 0 (chart.size - 1) chart.zero_le_last
          (Chart.last_lt_size (Chart.size_pos_of_accepts accepted)) = .error failure := by
  unfold reconstruct at failed
  split at failed
  · next fits =>
    split at failed
    · next accepted =>
      dsimp only at failed
      split at failed
      · next searched =>
        cases failed
        exact Or.inr ⟨fits, accepted, searched⟩
      · cases failed
    · cases failed
  · cases failed
    exact Or.inl rfl

theorem reconstruct_of_rejected (fits : tokens.length = chart.size)
    (rejected : chart.accepts g.start = false) : reconstruct g chart tokens = .ok none := by
  rw [reconstruct, dif_pos fits, dif_neg (Bool.eq_false_iff.mp rejected)]

end Derive

end BalineseChart
