import BalineseChart.Text.Quoted

/-!
# Files and the failures that end the command

The command reads the bytes of files and takes them for text. `Fatal` is a failure
that ends it, and `Fatal.line` the last line that it then writes.
-/

namespace BalineseChart

open Text

/-- Why a file cannot be read. -/
inductive ReadFailure where
  | notFound
  | accessDenied
  | notDirectory
  | isDirectory
  | nameTooLong
deriving DecidableEq

namespace ReadFailure

/-- The number of the failure. -/
def code : ReadFailure → Nat
  | .notFound => 2
  | .accessDenied => 13
  | .notDirectory => 20
  | .isDirectory => 21
  | .nameTooLong => 36

/-- The name of the failure. -/
def kind : ReadFailure → String
  | .notFound => "NotFound"
  | .accessDenied => "PermissionDenied"
  | .notDirectory => "NotADirectory"
  | .isDirectory => "IsADirectory"
  | .nameTooLong => "InvalidFilename"

/-- The wording of the failure. -/
def reason : ReadFailure → String
  | .notFound => "No such file or directory"
  | .accessDenied => "Permission denied"
  | .notDirectory => "Not a directory"
  | .isDirectory => "Is a directory"
  | .nameTooLong => "File name too long"

end ReadFailure

/-- What is said of bytes that are not text. -/
def notTextReason : String :=
  "stream did not contain valid UTF-8"

/-- A failure that ends the command. -/
inductive Fatal where
  /-- The grammar file cannot be read. -/
  | unreadable (failure : ReadFailure)
  /-- The bytes read are not text. -/
  | notText
  /-- Any other failure, with its message. -/
  | message (text : String)
deriving DecidableEq

namespace Fatal

/-- The failure as the command shows it: a message in quotation marks, any other
failure as a record of its fields. -/
def text : Fatal → String
  | .unreadable failure =>
    "Os \x7b code: " ++ toString failure.code ++ ", kind: " ++ failure.kind ++ ", message: " ++
      quoted failure.reason ++ " \x7d"
  | .notText => "Error \x7b kind: InvalidData, message: " ++ quoted notTextReason ++ " \x7d"
  | .message text => quoted text

/-- The line that ends the command. -/
def line (fatal : Fatal) : String :=
  "Error: " ++ fatal.text ++ "\n"

end Fatal

/-- The text of a list of bytes, if they are UTF-8. -/
def decode? (bytes : List UInt8) : Option String :=
  String.fromUTF8? ⟨bytes.toArray⟩

/-! ## Files -/

/-- How the bytes of a file are read. -/
abbrev FileReader : Type :=
  String → Except ReadFailure (List UInt8)

/-- The files that the command can see. A path may also lead to the command's own input, of which
then nothing is left to be read in another way. -/
structure Files where
  read : FileReader
  isInput : String → Bool

namespace Files

/-- The files, while some of the input is left. -/
def reader (files : Files) (input : List UInt8) : FileReader :=
  fun path => if files.isInput path then .ok input else files.read path

/-- What is left of the input after a file has been read. -/
def left (files : Files) (input : List UInt8) (path : String) : List UInt8 :=
  if files.isInput path then [] else input

/-- What is left of the input after some files have been read. -/
def leftAfter (files : Files) (input : List UInt8) (paths : List String) : List UInt8 :=
  paths.foldl files.left input

end Files

end BalineseChart
