import BalineseChart.Text.CodeRange

/-!
# White space, words and trimming

White space is the twenty-five characters of the `White_Space` property. `words`
cuts a text at them and `trim` removes them from both of its ends.
-/

namespace BalineseChart.Text

/-- The code points of white space. -/
def whiteSpaceRanges : List CodeRange :=
  [⟨0x9, 0xD⟩, ⟨0x20, 0x20⟩, ⟨0x85, 0x85⟩, ⟨0xA0, 0xA0⟩, ⟨0x1680, 0x1680⟩, ⟨0x2000, 0x200A⟩,
   ⟨0x2028, 0x2029⟩, ⟨0x202F, 0x202F⟩, ⟨0x205F, 0x205F⟩, ⟨0x3000, 0x3000⟩]

/-- Whether a character is white space. -/
def isWhiteSpace (c : Char) : Bool :=
  CodeRange.covers whiteSpaceRanges c

/-- The characters before the first white space, and the words after it. -/
def splitFirstWord : List Char → List Char × List (List Char)
  | [] => ([], [])
  | c :: rest =>
    let (first, others) := splitFirstWord rest
    if isWhiteSpace c then
      ([], if first.isEmpty then others else first :: others)
    else
      (c :: first, others)

/-- The longest runs of characters that are not white space, in order. -/
def words (cs : List Char) : List (List Char) :=
  let (first, others) := splitFirstWord cs
  if first.isEmpty then others else first :: others

/-- The text without the white space at its two ends. -/
def trim (cs : List Char) : List Char :=
  ((cs.dropWhile isWhiteSpace).reverse.dropWhile isWhiteSpace).reverse

/-- The string without the white space at its two ends. -/
def trimmed (text : String) : String :=
  String.ofList (trim text.toList)

end BalineseChart.Text
