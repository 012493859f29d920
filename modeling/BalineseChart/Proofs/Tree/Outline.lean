import BalineseChart.Tree.Printer
import BalineseChart.Proofs.Chart.DeadEnds
import BalineseChart.Proofs.Grammar.Printing
import BalineseChart.Proofs.Segmentation.Blocks
import BalineseChart.Proofs.Text.Lines

/-!
# The text of a tree is an outline

The text of a branch is made from the texts of its two parts: these are cut into lines, and each
line is written two spaces further to the right. So a line is written anew at every branch above
it. What comes out is an outline that could have been written at once (`outline`), as long as no
word has a line feed in it: a line for each node, in preorder, its indentation twice the depth of
the node (`text_is_outline`).

Everything between line feeds is kept here, whatever else the words hold. For this the lines
have to survive being cut (`Text.WholeLine`); in particular none may end in a carriage return,
and none does, since what ends a line is a parenthesis or the name of a nonterminal.

Spans play no part in this, so the nodes may have any: a `LabelledTree` carries one at each node,
at the leaves as well. The text of a `Tree` is that of its labelled tree (`text_labelled`).
-/

namespace BalineseChart

open Text

/-! ## Trees that carry a span at each node -/

/-- What is written at a node: a span and a nonterminal. -/
structure Constituent where
  first : Nat
  last : Nat
  symbol : Nonterminal

def Constituent.text (label : Constituent) : String :=
  toString label.first ++ ".." ++ toString label.last ++ ": " ++ label.symbol.name

/-- A tree with a constituent at each node, whatever the span of that is. -/
inductive LabelledTree where
  | leaf (label : Constituent) (word : String) (position : Nat)
  | branch (label : Constituent) (left right : LabelledTree)

namespace LabelledTree

/-- The words of the leaves, from left to right. -/
def words : LabelledTree → List String
  | .leaf _ word _ => [word]
  | .branch _ left right => left.words ++ right.words

/-- The text of a tree, made from the lines of the texts of its parts. -/
def text : LabelledTree → String
  | .leaf label word _ => "(" ++ label.text ++ " " ++ word ++ ")"
  | .branch label left right =>
    "(" ++ label.text ++ Tree.indented left.text ++ Tree.indented right.text ++ ")"

end LabelledTree

/-! ## Trees whose leaves have positions only -/

/-- The tree with a constituent at each node, the spans of the leaves from their positions. -/
def Tree.labelled : Tree → LabelledTree
  | .leaf a word position => .leaf ⟨position, position, a⟩ word position
  | .branch a first last left right => .branch ⟨first, last, a⟩ left.labelled right.labelled

theorem Tree.words_labelled (tree : Tree) : tree.labelled.words = tree.words := by
  induction tree with
  | leaf a word position => rfl
  | branch a first last left right left_ih right_ih =>
    rw [labelled, LabelledTree.words, left_ih, right_ih, words_branch]

theorem Tree.text_labelled (tree : Tree) : tree.labelled.text = tree.text := by
  induction tree with
  | leaf a word position => rfl
  | branch a first last left right left_ih right_ih =>
    rw [labelled, LabelledTree.text, left_ih, right_ih, text]
    rfl

/-! ## Outlines -/

namespace LabelledTree

/-- The white space before what is written at some depth. -/
def indent (depth : Nat) : String :=
  .ofList (List.replicate (2 * depth) ' ')

/-- The text of a tree at some depth, written at once. -/
def outline (depth : Nat) : LabelledTree → String
  | .leaf label word _ => "(" ++ label.text ++ " " ++ word ++ ")"
  | .branch label left right =>
    "(" ++ label.text ++ ("\n" ++ indent (depth + 1) ++ left.outline (depth + 1)) ++
      ("\n" ++ indent (depth + 1) ++ right.outline (depth + 1)) ++ ")"

/-- What is written of the root alone. -/
def heading : LabelledTree → String
  | .leaf label word _ => "(" ++ label.text ++ " " ++ word ++ ")"
  | .branch label _ _ => "(" ++ label.text

/-- A node of a tree, with its depth and the number of branches that end with it. -/
structure Node where
  depth : Nat
  tree : LabelledTree
  closed : Nat

/-- The parentheses that close so many branches. -/
def closing (count : Nat) : String :=
  .ofList (List.replicate count ')')

/-- The line of a node. -/
def Node.line (node : Node) : String :=
  indent node.depth ++ node.tree.heading ++ closing node.closed

/-- The nodes of a tree, each before those of its parts, if the tree is at some depth and some
branches around it end with it. -/
def nodes (depth closed : Nat) : LabelledTree → List Node
  | .leaf label word position => [⟨depth, .leaf label word position, closed⟩]
  | .branch label left right =>
    ⟨depth, .branch label left right, 0⟩ ::
      (left.nodes (depth + 1) 0 ++ right.nodes (depth + 1) (closed + 1))

/-- The lines of a tree's outline. -/
def outlineLines (depth closed : Nat) (tree : LabelledTree) : List String :=
  (tree.nodes depth closed).map Node.line

theorem outlineLines_leaf (depth closed : Nat) (label : Constituent) (word : String)
    (position : Nat) :
    outlineLines depth closed (.leaf label word position) =
      [indent depth ++ ("(" ++ label.text ++ " " ++ word ++ ")") ++ closing closed] :=
  rfl

theorem outlineLines_branch (depth closed : Nat) (label : Constituent)
    (left right : LabelledTree) :
    outlineLines depth closed (.branch label left right) =
      (indent depth ++ ("(" ++ label.text) ++ closing 0) ::
        (left.outlineLines (depth + 1) 0 ++ right.outlineLines (depth + 1) (closed + 1)) := by
  rw [outlineLines, nodes, List.map_cons, List.map_append]
  rfl

/-! ## Indentation and parentheses -/

theorem indent_zero : indent 0 = "" :=
  rfl

theorem indent_succ (depth : Nat) : indent (depth + 1) = "  " ++ indent depth := by
  rw [indent, indent, Nat.mul_succ, Nat.add_comm, List.replicate_add, String.ofList_append]
  rfl

theorem closing_zero : closing 0 = "" :=
  rfl

theorem closing_append (count more : Nat) :
    closing count ++ closing more = closing (count + more) := by
  rw [closing, closing, closing, List.replicate_add, String.ofList_append]

/-- Each line of a tree that is deeper by one starts with two more spaces. -/
theorem outlineLines_succ (tree : LabelledTree) (depth closed : Nat) :
    tree.outlineLines (depth + 1) closed =
      (tree.outlineLines depth closed).map fun line => "  " ++ line := by
  induction tree generalizing depth closed with
  | leaf label word position =>
    simp only [outlineLines_leaf, List.map_cons, List.map_nil, indent_succ, String.append_assoc]
  | branch label left right left_ih right_ih =>
    simp only [outlineLines_branch, left_ih (depth + 1), right_ih (depth + 1), List.map_cons,
      List.map_append, indent_succ depth, String.append_assoc]

/-! ## The two ways to write a tree -/

/-- What is written at once, after a line feed, is the lines of the nodes, each after one. -/
theorem followed_outlineLines (tree : LabelledTree) (depth closed : Nat) :
    followed (tree.outlineLines depth closed) =
      "\n" ++ (indent depth ++ tree.outline depth ++ closing closed) := by
  induction tree generalizing depth closed with
  | leaf label word position =>
    rw [outlineLines_leaf, followed_cons, followed_nil, String.append_empty, outline]
  | branch label left right left_ih right_ih =>
    have last : ")" ++ closing closed = closing (closed + 1) := by
      rw [Nat.add_comm]
      exact closing_append 1 closed
    simp only [outlineLines_branch, followed_cons, followed_append, left_ih, right_ih, outline,
      closing_zero, String.append_empty, String.append_assoc, last]

/-- A parenthesis after the lines of a tree is that of one more branch that ends with it. -/
theorem followed_outlineLines_close (tree : LabelledTree) (depth closed : Nat) :
    followed (tree.outlineLines depth closed) ++ ")" =
      followed (tree.outlineLines depth (closed + 1)) := by
  have last : closing closed ++ ")" = closing (closed + 1) := closing_append closed 1
  simp only [followed_outlineLines, String.append_assoc, last]

end LabelledTree

/-! ## Whole lines -/

theorem wholeLine_name (a : Nonterminal) : WholeLine a.name where
  nonempty := by cases a <;> decide
  noLineFeed := Grammar.lineEnd_not_mem_name a
  noReturn := fun last =>
    absurd (Grammar.chars_of_name a _ (List.mem_of_getLast? last)) (by decide)

theorem lineFeed_not_mem_toDigits (n : Nat) : '\n' ∉ Nat.toDigits 10 n :=
  fun member => absurd (Nat.isDigit_of_mem_toDigits (by decide) (by decide) member) (by decide)

theorem Constituent.wholeLine_text (label : Constituent) : WholeLine label.text := by
  rw [Constituent.text]
  refine (wholeLine_name label.symbol).append_left ?_
  simp [lineFeed_not_mem_toDigits]

theorem wholeLine_parenthesis : WholeLine ")" where
  nonempty := by decide
  noLineFeed := by decide
  noReturn := by decide

namespace LabelledTree

theorem lineFeed_not_mem_indent (depth : Nat) : '\n' ∉ (indent depth).toList := by
  rw [indent, String.toList_ofList]
  exact fun member => absurd (List.eq_of_mem_replicate member) (by decide)

theorem wholeLine_append_closing {line : String} (whole : WholeLine line) (count : Nat) :
    WholeLine (line ++ closing count) := by
  induction count with
  | zero => rwa [closing_zero, String.append_empty]
  | succ count ih =>
    rw [← closing_append count 1, ← String.append_assoc]
    exact wholeLine_parenthesis.append_left ih.noLineFeed

/-- A heading ends in a parenthesis or in the name of a nonterminal. -/
theorem wholeLine_heading {tree : LabelledTree}
    (noLineFeed : ∀ word ∈ tree.words, '\n' ∉ word.toList) : WholeLine tree.heading := by
  cases tree with
  | leaf label word position =>
    have label_noLineFeed := label.wholeLine_text.noLineFeed
    have word_noLineFeed := noLineFeed word List.mem_cons_self
    refine wholeLine_parenthesis.append_left ?_
    simp [label_noLineFeed, word_noLineFeed]
  | branch label left right => exact label.wholeLine_text.append_left (by decide)

/-- The words of the tree of a node are words of the whole tree. -/
theorem words_subset_of_mem_nodes {tree : LabelledTree} {depth closed : Nat} {node : Node}
    (member : node ∈ tree.nodes depth closed) : node.tree.words ⊆ tree.words := by
  induction tree generalizing depth closed with
  | leaf label word position =>
    rw [List.mem_singleton.mp member]
    exact List.Subset.refl _
  | branch label left right left_ih right_ih =>
    rcases List.mem_cons.mp member with rfl | below
    · exact List.Subset.refl _
    · rcases List.mem_append.mp below with inLeft | inRight
      · exact List.subset_append_of_subset_left _ (left_ih inLeft)
      · exact List.subset_append_of_subset_right _ (right_ih inRight)

theorem wholeLine_of_mem_outlineLines {tree : LabelledTree} {depth closed : Nat}
    (noLineFeed : ∀ word ∈ tree.words, '\n' ∉ word.toList) :
    ∀ line ∈ tree.outlineLines depth closed, WholeLine line := by
  intro line member
  obtain ⟨node, here, rfl⟩ := List.mem_map.mp member
  have heading : WholeLine node.tree.heading :=
    wholeLine_heading fun word within => noLineFeed word (words_subset_of_mem_nodes here within)
  exact wholeLine_append_closing (heading.append_left (lineFeed_not_mem_indent node.depth)) _

theorem outlineLines_ne_nil (tree : LabelledTree) (depth closed : Nat) :
    tree.outlineLines depth closed ≠ [] := by
  cases tree <;> exact List.cons_ne_nil _ _

/-- A text that is indented is every line of it after a line feed and two spaces. -/
theorem indented_eq_followed (text : String) :
    Tree.indented text = followed ((linesOf text).map fun line => "  " ++ line) := by
  have start (line : String) : "\n  " ++ line = "\n" ++ ("  " ++ line) :=
    (String.append_assoc : "\n" ++ "  " ++ line = _)
  simp only [Tree.indented, followed, List.map_map, Function.comp_def, start]

/-- If the text of a part has the lines of its nodes, then these are deeper by one when it is
indented. -/
theorem indented_text {part : LabelledTree}
    (noLineFeed : ∀ word ∈ part.words, '\n' ∉ word.toList)
    (same : "\n" ++ part.text = followed (part.outlineLines 0 0)) :
    Tree.indented part.text = followed (part.outlineLines 1 0) := by
  have cut : linesOf part.text = part.outlineLines 0 0 :=
    linesOf_of_followed (outlineLines_ne_nil part 0 0)
      (wholeLine_of_mem_outlineLines noLineFeed) same
  rw [indented_eq_followed, cut, outlineLines_succ]

/-- So is what is made from the lines of the parts. -/
theorem lineFeed_append_text {tree : LabelledTree}
    (noLineFeed : ∀ word ∈ tree.words, '\n' ∉ word.toList) :
    "\n" ++ tree.text = followed (tree.outlineLines 0 0) := by
  induction tree with
  | leaf label word position =>
    rw [followed_outlineLines, indent_zero, closing_zero, String.append_empty, String.empty_append,
      outline, text]
  | branch label left right left_ih right_ih =>
    obtain ⟨noneLeft, noneRight⟩ := List.forall_mem_append.mp noLineFeed
    rw [text, indented_text noneLeft (left_ih noneLeft),
      indented_text noneRight (right_ih noneRight), outlineLines_branch, followed_cons,
      followed_append, ← followed_outlineLines_close, indent_zero, closing_zero]
    simp only [String.append_assoc, String.empty_append]

end LabelledTree

/-! ## Trees of sentences -/

/-- The words of a tree that is found for a sentence are tokens of that sentence. -/
theorem mem_tokens_of_mem_words {g : Grammar} {sentence word : String} {tree : Tree}
    (found : (g.analyse sentence).tree g = .ok (some tree)) (member : word ∈ tree.words) :
    word ∈ g.tokens sentence := by
  have searched : reconstruct g (g.analyse sentence).chart (g.tokens sentence) =
      .ok (some tree) := by
    rw [Analysis.tree] at found
    split at found
    · exact found
    · cases found
  rw [(confirmed_of_reconstruct searched).2.words_eq] at member
  exact List.mem_of_mem_drop (List.mem_of_mem_take member)

/-- A line feed is white space, and no token has any. -/
theorem lineFeed_not_mem_of_mem_tokens {start : Nonterminal} {rules : List Rule}
    {sentence token : String} (member : token ∈ (Grammar.ofRules start rules).tokens sentence) :
    '\n' ∉ token.toList := fun lineFeed =>
  absurd (Grammar.unspaced_of_mem_tokens start rules sentence member _ lineFeed) (by decide)

/-- The text of a tree without line feeds in its words is its outline, with a line for each node
in preorder. The text of a tree with no spans at its leaves is that of its labelled tree, and the
words of a tree that is found for a sentence have no line feed. -/
theorem text_is_outline :
    (∀ tree : LabelledTree, (∀ word ∈ tree.words, '\n' ∉ word.toList) →
      tree.text = tree.outline 0 ∧
      linesOf tree.text = (tree.nodes 0 0).map LabelledTree.Node.line) ∧
    (∀ tree : Tree, tree.labelled.words = tree.words ∧ tree.labelled.text = tree.text) ∧
    ∀ (start : Nonterminal) (rules : List Rule) (sentence : String) (tree : Tree),
      ((Grammar.ofRules start rules).analyse sentence).tree (Grammar.ofRules start rules) =
        .ok (some tree) →
      ∀ word ∈ tree.words, '\n' ∉ word.toList := by
  refine ⟨fun tree noLineFeed => ?_, fun tree => ⟨tree.words_labelled, tree.text_labelled⟩,
    fun start rules sentence tree found word member =>
      lineFeed_not_mem_of_mem_tokens (mem_tokens_of_mem_words found member)⟩
  have same := LabelledTree.lineFeed_append_text noLineFeed
  constructor
  · have atOnce := LabelledTree.followed_outlineLines tree 0 0
    rw [LabelledTree.indent_zero, LabelledTree.closing_zero, String.empty_append,
      String.append_empty] at atOnce
    exact (String.append_right_inj "\n").mp (same.trans atOnce)
  · exact linesOf_of_followed (tree.outlineLines_ne_nil 0 0)
      (LabelledTree.wholeLine_of_mem_outlineLines noLineFeed) same

/-- Words that are empty, end in a carriage return or have spaces and parentheses in them are
written as they are, and spans that no sentence has as well. -/
theorem text_of_odd_words :
    let tree : LabelledTree :=
      .branch ⟨7, 3, .sentence⟩
        (.branch ⟨0, 1, .predicate⟩ (.leaf ⟨0, 0, .adjectivePhrase⟩ "jegeg\r" 0)
          (.leaf ⟨1, 1, .adverb⟩ " sajan) (" 1))
        (.leaf ⟨2, 2, .subject⟩ "" 2)
    tree.text = tree.outline 0 ∧ linesOf tree.text =
      ["(7..3: K", "  (0..1: P", "    (0..0: AdjP jegeg\r)", "    (1..1: Adv  sajan) ())",
        "  (2..2: S ))"] := by
  intro tree
  obtain ⟨atOnce, byNodes⟩ := text_is_outline.1 tree (by decide)
  exact ⟨atOnce, byNodes.trans (by decide)⟩

end BalineseChart
