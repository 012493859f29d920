import BalineseChart.Proofs.Text.Runs
import BalineseChart.Proofs.Tree.Outline

/-!
# The text of a tree tells the tree

Words are printed as they are. So a word may have spaces and parentheses in it or look like a
node, and the line of a leaf does not show how many of the parentheses at its end are the
word's own. Still, only one tree has the text (`text_tells_tree`), as long as no word has a line
feed in it.

For a line can be read in one way up to the name of its nonterminal, and what comes then tells
leaves, which go on with a space, from branches, which end there (`Constituent.text_append_inj`).
So the lines of the nodes, which come in preorder, tell the shape of the tree. The shape tells
how many branches end with a leaf, and with that where the word of the leaf ends
(`eq_of_outlineLines_append`). Indentation is not needed for this.

The position of a leaf is printed as its span only. A tree whose leaves carry their spans too is
told by its text if they stand where their spans begin (`LabelledTree.Placed`).
-/

namespace BalineseChart

open Text

/-! ## Lines -/

theorem Constituent.text_append_inj {label label' : Constituent} {rest rest' : String}
    (ends : EndsRun Grammar.isNameChar rest) (ends' : EndsRun Grammar.isNameChar rest')
    (same : label.text ++ rest = label'.text ++ rest') : label = label' ∧ rest = rest' := by
  have dots : EndsRun Char.isDigit ".." := by decide
  have colon : EndsRun Char.isDigit ": " := by decide
  simp only [Constituent.text, String.append_assoc] at same
  obtain ⟨firsts, same⟩ :=
    numeral_append_inj (dots.append (by decide) _) (dots.append (by decide) _) same
  rw [String.append_right_inj] at same
  obtain ⟨lasts, same⟩ :=
    numeral_append_inj (colon.append (by decide) _) (colon.append (by decide) _) same
  rw [String.append_right_inj] at same
  obtain ⟨symbols, rests⟩ := name_append_inj ends ends' same
  rcases label with ⟨first, last, symbol⟩
  rcases label' with ⟨first', last', symbol'⟩
  subst firsts lasts symbols
  exact ⟨rfl, rests⟩

namespace LabelledTree

theorem line_inj {depth : Nat} {label label' : Constituent} {rest rest' : String}
    (ends : EndsRun Grammar.isNameChar rest) (ends' : EndsRun Grammar.isNameChar rest')
    (same : indent depth ++ ("(" ++ (label.text ++ rest)) =
      indent depth ++ ("(" ++ (label'.text ++ rest'))) : label = label' ∧ rest = rest' := by
  rw [String.append_right_inj, String.append_right_inj] at same
  exact Constituent.text_append_inj ends ends' same

theorem endsRun_space (rest : String) : EndsRun Grammar.isNameChar (" " ++ rest) :=
  EndsRun.append (by decide) (by decide) rest

theorem endsRun_closing_zero : EndsRun Grammar.isNameChar (closing 0) := by
  decide

/-! ## Trees -/

/-- Each leaf stands where its span begins. -/
def Placed : LabelledTree → Prop
  | .leaf label _ position => position = label.first
  | .branch _ left right => left.Placed ∧ right.Placed

/-- The line of a leaf goes on after the name of its nonterminal, that of a branch does not. -/
theorem leaf_line_ne_branch_line {depth closed : Nat} (label label' : Constituent)
    (word : String) :
    indent depth ++ ("(" ++ label.text ++ " " ++ word ++ ")") ++ closing closed ≠
      indent depth ++ ("(" ++ label'.text) ++ closing 0 := by
  intro same
  simp only [String.append_assoc] at same
  obtain ⟨-, ended⟩ := line_inj (endsRun_space _) endsRun_closing_zero same
  exact absurd (String.append_eq_empty_iff.mp ended).1 (by decide)

/-- Lines that begin with those of a tree begin with those of no other tree. -/
theorem eq_of_outlineLines_append {tree tree' : LabelledTree} {depth closed : Nat}
    {rest rest' : List String} (placed : tree.Placed) (placed' : tree'.Placed)
    (same : tree.outlineLines depth closed ++ rest = tree'.outlineLines depth closed ++ rest') :
    tree = tree' ∧ rest = rest' := by
  induction tree generalizing tree' depth closed rest rest' with
  | leaf label word position =>
    cases tree' with
    | leaf label' word' position' =>
      rw [outlineLines_leaf, outlineLines_leaf] at same
      obtain ⟨line, rests⟩ := List.cons.inj same
      simp only [String.append_assoc] at line
      obtain ⟨rfl, tails⟩ := line_inj (endsRun_space _) (endsRun_space _) line
      -- As many branches end with both, so the words end in the same place.
      rw [String.append_right_inj, String.append_left_inj] at tails
      rw [Placed] at placed placed'
      subst placed placed' tails
      exact ⟨rfl, rests⟩
    | branch label' left' right' =>
      rw [outlineLines_leaf, outlineLines_branch] at same
      exact (leaf_line_ne_branch_line label label' word (List.cons.inj same).1).elim
  | branch label left right left_ih right_ih =>
    cases tree' with
    | leaf label' word' position' =>
      rw [outlineLines_leaf, outlineLines_branch] at same
      exact (leaf_line_ne_branch_line label' label word' (List.cons.inj same).1.symm).elim
    | branch label' left' right' =>
      rw [outlineLines_branch, outlineLines_branch, List.cons_append, List.cons_append,
        List.append_assoc, List.append_assoc] at same
      obtain ⟨line, parts⟩ := List.cons.inj same
      simp only [String.append_assoc] at line
      obtain ⟨rfl, -⟩ := line_inj endsRun_closing_zero endsRun_closing_zero line
      obtain ⟨rfl, later⟩ := left_ih placed.1 placed'.1 parts
      obtain ⟨rfl, rests⟩ := right_ih placed.2 placed'.2 later
      exact ⟨rfl, rests⟩

theorem linesOf_text {tree : LabelledTree} (noLineFeed : ∀ word ∈ tree.words, '\n' ∉ word.toList) :
    linesOf tree.text = tree.outlineLines 0 0 :=
  linesOf_of_followed (tree.outlineLines_ne_nil 0 0) (wholeLine_of_mem_outlineLines noLineFeed)
    (lineFeed_append_text noLineFeed)

theorem eq_of_text_eq {tree tree' : LabelledTree} (placed : tree.Placed) (placed' : tree'.Placed)
    (noLineFeed : ∀ word ∈ tree.words, '\n' ∉ word.toList)
    (noLineFeed' : ∀ word ∈ tree'.words, '\n' ∉ word.toList) (same : tree.text = tree'.text) :
    tree = tree' := by
  have lines : tree.outlineLines 0 0 ++ [] = tree'.outlineLines 0 0 ++ [] := by
    rw [← linesOf_text noLineFeed, ← linesOf_text noLineFeed', same]
  exact (eq_of_outlineLines_append placed placed' lines).1

end LabelledTree

namespace Tree

theorem placed_labelled (tree : Tree) : tree.labelled.Placed := by
  induction tree with
  | leaf a word position => rfl
  | branch a first last left right left_ih right_ih => exact ⟨left_ih, right_ih⟩

theorem labelled_inj {tree tree' : Tree} (same : tree.labelled = tree'.labelled) :
    tree = tree' := by
  induction tree generalizing tree' with
  | leaf a word position =>
    cases tree' with
    | leaf a' word' position' =>
      injection same with labels words positions
      injection labels with _ _ symbols
      rw [symbols, words, positions]
    | branch a' first' last' left' right' => cases same
  | branch a first last left right left_ih right_ih =>
    cases tree' with
    | leaf a' word' position' => cases same
    | branch a' first' last' left' right' =>
      injection same with labels lefts rights
      injection labels with firsts lasts symbols
      rw [firsts, lasts, symbols, left_ih lefts, right_ih rights]

end Tree

/-- No two trees have the same text, if there is no line feed in their words. The same is true of
trees that carry a span at every node, if each leaf is where its span begins, as it is in the
trees whose leaves carry only their positions. -/
theorem text_tells_tree :
    (∀ tree tree' : Tree, (∀ word ∈ tree.words, '\n' ∉ word.toList) →
      (∀ word ∈ tree'.words, '\n' ∉ word.toList) →
      (tree.text = tree'.text ↔ tree = tree')) ∧
    (∀ tree tree' : LabelledTree, tree.Placed → tree'.Placed →
      (∀ word ∈ tree.words, '\n' ∉ word.toList) → (∀ word ∈ tree'.words, '\n' ∉ word.toList) →
      (tree.text = tree'.text ↔ tree = tree')) ∧
    ∀ tree : Tree, tree.labelled.Placed := by
  refine ⟨fun tree tree' noLineFeed noLineFeed' => ?_,
    fun tree tree' placed placed' noLineFeed noLineFeed' => ?_, Tree.placed_labelled⟩
  · refine ⟨fun same => ?_, fun same => congrArg Tree.text same⟩
    rw [← tree.words_labelled] at noLineFeed
    rw [← tree'.words_labelled] at noLineFeed'
    rw [← tree.text_labelled, ← tree'.text_labelled] at same
    exact Tree.labelled_inj (LabelledTree.eq_of_text_eq tree.placed_labelled tree'.placed_labelled
      noLineFeed noLineFeed' same)
  · exact ⟨LabelledTree.eq_of_text_eq placed placed' noLineFeed noLineFeed',
      fun same => congrArg LabelledTree.text same⟩

/-- A parenthesis that belongs to a word, a word that looks like a node, and spans that no
sentence has. -/
theorem texts_of_lookalikes :
    (let tree : Tree := .join .sentence (.leaf .predicate "jegeg" 0) (.leaf .subject "putu" 1)
      let tree' : Tree :=
        .join .sentence (.leaf .predicate "jegeg" 0) (.leaf .subject "putu) (1..1: S " 1)
      (∀ word ∈ tree.words, '\n' ∉ word.toList) ∧ (∀ word ∈ tree'.words, '\n' ∉ word.toList) ∧
        tree.text ≠ tree'.text) ∧
    (let tree : LabelledTree := .leaf ⟨7, 3, .subject⟩ "putu" 7
      let tree' : LabelledTree := .leaf ⟨7, 3, .subject⟩ "putu)" 7
      tree.Placed ∧ tree'.Placed ∧ (∀ word ∈ tree.words, '\n' ∉ word.toList) ∧
        (∀ word ∈ tree'.words, '\n' ∉ word.toList) ∧ tree.text ≠ tree'.text) := by
  constructor
  · intro tree tree'
    have noLineFeed : ∀ word ∈ tree.words, '\n' ∉ word.toList := by decide
    have noLineFeed' : ∀ word ∈ tree'.words, '\n' ∉ word.toList := by decide
    have differ : tree ≠ tree' := by decide
    exact ⟨noLineFeed, noLineFeed',
      mt (text_tells_tree.1 tree tree' noLineFeed noLineFeed').mp differ⟩
  · intro tree tree'
    have noLineFeed : ∀ word ∈ tree.words, '\n' ∉ word.toList := by decide
    have noLineFeed' : ∀ word ∈ tree'.words, '\n' ∉ word.toList := by decide
    have differ : tree ≠ tree' := by
      intro same
      injection same with _ words _
      exact absurd words (by decide)
    exact ⟨rfl, rfl, noLineFeed, noLineFeed',
      mt (text_tells_tree.2.1 tree tree' rfl rfl noLineFeed noLineFeed').mp differ⟩

/-- With line feeds in their words, two trees may have the same text. -/
example :
    (Tree.join .sentence (.leaf .predicate "a)\n(1..1: S b" 0) (.leaf .subject "c" 1)).text =
      (Tree.join .sentence (.leaf .predicate "a" 0)
        (.leaf .subject "b)\n(1..1: S c" 1)).text := by
  decide

end BalineseChart
