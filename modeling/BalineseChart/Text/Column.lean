/-!
# Columns

A column is filled with spaces to its width. The width counts characters, and a
text that is wider than its column is not cut.
-/

namespace BalineseChart.Text

/-- The text with spaces after it up to the width. -/
def column (width : Nat) (text : String) : String :=
  text ++ String.ofList (List.replicate (width - text.length) ' ')

end BalineseChart.Text
