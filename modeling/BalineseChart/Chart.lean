import BalineseChart.Chart.Layers
import BalineseChart.Grammar

/-!
# Charts

A chart over some tokens says for each span of them which nonterminals the span
can have. A span is given by its first and its last position, both included.

`Chart.fill` computes the chart of a list of tokens: the span of one token has the
heads of that word, and a longer span has the heads of every pair whose parts two
adjacent spans have that make it up. Cells are filled from short spans to long
ones, so both parts of a span are complete when it is reached. `cell_fill_self`
and `mem_cell_fill` restate this rule for the cells of the result.
-/

namespace BalineseChart

/-- A set of nonterminals for each span of `size` tokens. -/
structure Chart where
  size : Nat
  layers : Layers size size
deriving DecidableEq

/-- A request for a span that the chart does not have. -/
structure NoCell where
  first : Nat
  last : Nat
  size : Nat
deriving DecidableEq

/-- The wording of a request for a span that the chart does not have. -/
def NoCell.message (e : NoCell) : String :=
  "no cell " ++ toString e.first ++ ".." ++ toString e.last ++ " in chart of " ++ toString e.size

namespace Chart

/-! ## Looking up -/

/-- The nonterminals of the span from `i` to `j`. -/
def cell (chart : Chart) (i j : Nat) (ordered : i ≤ j) (inside : j < chart.size) :
    NonterminalSet :=
  chart.layers.get (j - i) i (by omega) (by omega)

/-- The nonterminals of the span from `i` to `j`, if the chart has that span. -/
def lookup (chart : Chart) (i j : Nat) : Except NoCell NonterminalSet :=
  if span : i ≤ j ∧ j < chart.size then
    .ok (chart.cell i j span.1 span.2)
  else
    .error ⟨i, j, chart.size⟩

theorem zero_le_last (chart : Chart) : 0 ≤ chart.size - 1 :=
  Nat.zero_le _

theorem last_lt_size {chart : Chart} (nonempty : 0 < chart.size) : chart.size - 1 < chart.size := by
  omega

/-- The nonterminals of the whole input, if it has a token. -/
def top? (chart : Chart) : Option NonterminalSet :=
  if nonempty : 0 < chart.size then
    some (chart.cell 0 (chart.size - 1) chart.zero_le_last (last_lt_size nonempty))
  else
    none

/-- Whether the whole input has the nonterminal. -/
def accepts (chart : Chart) (a : Nonterminal) : Bool :=
  chart.top?.any (·.contains a)

/-- The spans of `size` tokens: the shorter first, and of one length the earlier first. -/
def spansOf (size : Nat) : List (Nat × Nat) :=
  (List.range size).flatMap fun d => (List.range (size - d)).map fun i => (i, i + d)

/-- The spans of a chart, in the order in which its cells are filled. -/
def spans (chart : Chart) : List (Nat × Nat) :=
  spansOf chart.size

/-! ## Filling -/

/-- The chart with nothing in its cells. -/
def blank (size : Nat) : Chart where
  size := size
  layers := Layers.build (fun _ _ _ => ∅) size

/-- The nonterminals of a span of one token. -/
def wordCell (g : Grammar) (word : String) : NonterminalSet :=
  .ofList (g.headsOfWord word)

/-- The nonterminals that two adjacent spans give to the span that they make up. -/
def join (g : Grammar) (left right : NonterminalSet) : NonterminalSet :=
  .ofList (left.toList.flatMap fun b => right.toList.flatMap fun c => g.headsOfPair b c)

/-- The nonterminals of the span of `d + 1` tokens that starts at `i`, from the layers
of the shorter spans. -/
def fillCell (g : Grammar) (tokens : List String) :
    (d : Nat) → Layers tokens.length d → Fin (tokens.length - d) → NonterminalSet
  | 0, _, i => wordCell g tokens[i]
  | d + 1, below, i =>
    .unions (List.ofFn fun s : Fin (d + 1) =>
      join g (below.get s i s.isLt (by omega)) (below.get (d - s) (i + s + 1) (by omega) (by omega)))

/-- The chart of a list of tokens. -/
def fill (g : Grammar) (tokens : List String) : Chart where
  size := tokens.length
  layers := Layers.build (fillCell g tokens) tokens.length

/-! ## What the cells hold -/

theorem size_blank (size : Nat) : (blank size).size = size :=
  rfl

theorem cell_blank {size i j : Nat} (ordered : i ≤ j) (inside : j < size) :
    (blank size).cell i j ordered inside = ∅ := by
  unfold cell blank
  rw [Layers.get_build]

theorem size_fill (g : Grammar) (tokens : List String) : (fill g tokens).size = tokens.length :=
  rfl

/-- The cell of one token holds the heads of its word. -/
theorem cell_fill_self (g : Grammar) (tokens : List String) {i : Nat} (inside : i < tokens.length) :
    (fill g tokens).cell i i (Nat.le_refl i) inside = wordCell g tokens[i] := by
  simp only [cell, fill, Layers.get_build, Nat.sub_self]
  rfl

@[simp]
theorem mem_join {g : Grammar} {left right : NonterminalSet} {a : Nonterminal} :
    a ∈ join g left right ↔ ∃ b ∈ left, ∃ c ∈ right, a ∈ g.headsOfPair b c := by
  simp [join]

/-- While a chart is being filled, the finished layers hold the cells of the result. -/
theorem get_build_fillCell (g : Grammar) (tokens : List String) {d i depth : Nat} (deep : d < depth)
    (wide : i + d < tokens.length) :
    (Layers.build (fillCell g tokens) depth).get d i deep wide =
      (fill g tokens).cell i (i + d) (Nat.le_add_right i d) wide := by
  simp only [cell, fill, Layers.get_build, Nat.add_sub_cancel_left]

/-- A longer span has the heads of the pairs that its splits give it. -/
theorem mem_cell_fill {g : Grammar} {tokens : List String} {i j : Nat} {a : Nonterminal}
    (ordered : i < j) (inside : j < tokens.length) :
    a ∈ (fill g tokens).cell i j (Nat.le_of_lt ordered) inside ↔
      ∃ (k : Nat) (lower : i ≤ k) (upper : k < j),
        a ∈ join g ((fill g tokens).cell i k lower (Nat.lt_trans upper inside))
          ((fill g tokens).cell (k + 1) j upper inside) := by
  obtain ⟨d, rfl⟩ : ∃ d, j = i + (d + 1) := ⟨j - i - 1, by omega⟩
  rw [← get_build_fillCell g tokens (Nat.lt_succ_self (d + 1)) inside, Layers.get_build]
  simp only [fillCell, get_build_fillCell, NonterminalSet.mem_unions, List.mem_ofFn]
  constructor
  · rintro ⟨_, ⟨s, rfl⟩, member⟩
    have last : i + s + 1 + (d - s) = i + (d + 1) := by omega
    simp only [last] at member
    exact ⟨i + s, by omega, by omega, member⟩
  · rintro ⟨k, lower, upper, member⟩
    obtain ⟨s, rfl⟩ : ∃ s, k = i + s := ⟨k - i, by omega⟩
    have last : i + s + 1 + (d - s) = i + (d + 1) := by omega
    refine ⟨_, ⟨⟨s, by omega⟩, rfl⟩, ?_⟩
    simp only [last]
    exact member

end Chart

end BalineseChart
