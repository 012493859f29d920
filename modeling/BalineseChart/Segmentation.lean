import BalineseChart.Grammar
import BalineseChart.Text.LowerCase
import BalineseChart.Text.WhiteSpace

/-!
# Cutting a sentence into tokens

A sentence is put into lower case and cut at white space. A word that the grammar
knows is one token. Any other word loses the first pronoun, in declared order,
that ends it with something before it, and so becomes the two tokens of its stem
and its clitic; the first pronoun that fits wins, not the longest. A word that no
pronoun ends is one token.
-/

namespace BalineseChart

open Text

/-- Whether `word` ends in `clitic` and has a stem before it. -/
def endsIn (word clitic : String) : Bool :=
  clitic.toList.isSuffixOf word.toList && clitic.toList.length < word.toList.length

/-- What stands before `clitic` in a word that ends in it. -/
def stemOf (word clitic : String) : String :=
  String.ofList (word.toList.take (word.toList.length - clitic.toList.length))

namespace Grammar

/-- The first pronoun, in declared order, that ends the word after a stem. -/
def cliticOf? (g : Grammar) (word : String) : Option String :=
  g.clitics.find? (endsIn word)

/-- The one or two tokens of a word in lower case. -/
def tokensOfWord (g : Grammar) (word : String) : List String :=
  if g.knows word then [word]
  else
    match g.cliticOf? word with
    | some clitic => [stemOf word clitic, clitic]
    | none => [word]

/-- The tokens of a sentence. -/
def tokens (g : Grammar) (sentence : String) : List String :=
  (words (lowerCase sentence.toList)).flatMap fun word => g.tokensOfWord (String.ofList word)

end Grammar

end BalineseChart
