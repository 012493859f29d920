import BalineseChart.Text.Printable

/-!
# Quoted text

Text is quoted between quotation marks. A quotation mark and a backslash get a
backslash before them, line ends, tabs and the null character have short escapes,
and any other character that would not show is written as its code point.
-/

namespace BalineseChart.Text

/-- A code point in hexadecimal digits. -/
def hexadecimal (code : Nat) : String :=
  String.ofList (Nat.toDigits 16 code)

/-- A character as it stands between quotation marks. -/
def escaped (c : Char) : String :=
  if c = '\x00' then "\\0"
  else if c = '\t' then "\\t"
  else if c = '\r' then "\\r"
  else if c = '\n' then "\\n"
  else if c = '"' then "\\\""
  else if c = '\\' then "\\\\"
  else if isPrintable c then String.singleton c
  else "\\u\x7b" ++ hexadecimal c.toNat ++ "\x7d"

/-- A text between quotation marks. -/
def quoted (text : String) : String :=
  "\"" ++ String.join (text.toList.map escaped) ++ "\""

end BalineseChart.Text
