import BalineseChart.NonterminalSet

/-!
# Layers of a triangular table

A chart over `size` tokens has one cell for each span of tokens. The spans of one
length form a layer: layer `d` has the cells of the spans of `d + 1` tokens, and
its cell `i` is the one of the span that starts at `i`. `Layers size depth` is the
first `depth` layers.

`Layers.build` fills one layer after the other, each from the layers below it.
`get_build` says that a cell of the result is the one that its own step computed
from the layers below, so later steps leave it alone.
-/

namespace BalineseChart

/-- The first `depth` layers of a table over `size` tokens. -/
structure Layers (size depth : Nat) where
  rows : Array (Array NonterminalSet)
  rows_size : rows.size = depth
  row_size : ∀ (d : Nat) (inside : d < rows.size), rows[d].size = size - d
deriving DecidableEq

namespace Layers

variable {size depth : Nat}

/-- The cell of the span of `d + 1` tokens that starts at `i`. -/
def get (layers : Layers size depth) (d i : Nat) (deep : d < depth) (wide : i + d < size) :
    NonterminalSet :=
  have inside : d < layers.rows.size := layers.rows_size.symm ▸ deep
  have within : i < layers.rows[d].size := by
    rw [layers.row_size d inside]
    omega
  layers.rows[d][i]

/-- No layers. -/
def empty : Layers size 0 where
  rows := #[]
  rows_size := rfl
  row_size := by
    intro d inside
    simp at inside

/-- One more layer, its cells given by their start. -/
def push (layers : Layers size depth) (cell : Fin (size - depth) → NonterminalSet) :
    Layers size (depth + 1) where
  rows := layers.rows.push (Array.ofFn cell)
  rows_size := by rw [Array.size_push, layers.rows_size]
  row_size := by
    intro d inside
    rw [Array.getElem_push]
    split
    · exact layers.row_size d _
    · next above =>
      rw [Array.size_push] at inside
      have last : d = depth := by
        have := layers.rows_size
        omega
      rw [Array.size_ofFn, last]

/-- The first `depth` layers, where `step d below` gives the cells of layer `d` from
the layers below it. -/
def build (step : (d : Nat) → Layers size d → Fin (size - d) → NonterminalSet) :
    (depth : Nat) → Layers size depth
  | 0 => empty
  | d + 1 =>
    let below := build step d
    below.push (step d below)

/-! ## What the cells hold -/

theorem get_push_of_lt (layers : Layers size depth) (cell : Fin (size - depth) → NonterminalSet)
    {d i : Nat} (below : d < depth) (wide : i + d < size) :
    (layers.push cell).get d i (Nat.lt_succ_of_lt below) wide = layers.get d i below wide := by
  have inside : d < layers.rows.size := layers.rows_size.symm ▸ below
  simp only [get, push, Array.getElem_push_lt inside]

theorem get_push_self (layers : Layers size depth) (cell : Fin (size - depth) → NonterminalSet)
    {i : Nat} (wide : i + depth < size) :
    (layers.push cell).get depth i (Nat.lt_succ_self depth) wide = cell ⟨i, by omega⟩ := by
  have last : depth = layers.rows.size := layers.rows_size.symm
  have inside : depth < (layers.rows.push (Array.ofFn cell)).size := by simp [last]
  have row : (layers.rows.push (Array.ofFn cell))[depth] = Array.ofFn cell := by simp [last]
  simp [get, push, row]

/-- A cell of the result is what its own step computed. -/
theorem get_build (step : (d : Nat) → Layers size d → Fin (size - d) → NonterminalSet)
    {d i depth : Nat} (deep : d < depth) (wide : i + d < size) :
    (build step depth).get d i deep wide = step d (build step d) ⟨i, by omega⟩ := by
  induction depth with
  | zero => omega
  | succ depth ih =>
    rcases Nat.lt_succ_iff_lt_or_eq.mp deep with below | rfl
    · rw [build, get_push_of_lt _ _ below wide]
      exact ih below
    · rw [build, get_push_self]

/-- Layers with the same cells are equal. -/
theorem ext {layers layers' : Layers size depth}
    (same : ∀ d i deep wide, layers.get d i deep wide = layers'.get d i deep wide) :
    layers = layers' := by
  have rows : layers.rows = layers'.rows := by
    apply Array.ext
    · rw [layers.rows_size, layers'.rows_size]
    · intro d inside inside'
      apply Array.ext
      · rw [layers.row_size, layers'.row_size]
      · intro i within within'
        have deep : d < depth := layers.rows_size ▸ inside
        have wide : i + d < size := by
          rw [layers.row_size] at within
          omega
        exact same d i deep wide
  cases layers
  cases layers'
  subst rows
  rfl

end Layers

end BalineseChart
