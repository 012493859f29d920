import BalineseChart.Command.Run

/-!
# Arguments

The command is a function of its options. This module is a shell around it that takes the options
from a list of arguments: flags, options with values and at most one grammar file. Short flags
may be joined (`-cn`). The value of `-m` may be attached (`-m3`, `-m=3`, `--max-tokens=3`) or be
the next argument; `-e` takes the next two arguments. An argument that starts with a hyphen is
never a value, a lone hyphen apart, and after `--` every argument is a file.

Arguments are first read as a list of settings, and `Request.addAll` then refuses settings that
contradict each other or have no meaning. A request for help ends the reading of arguments.
-/

namespace BalineseChart

/-- Why a list of arguments is refused. -/
inductive UsageError where
  /-- No option has this spelling. -/
  | unknownOption (spelling : String)
  /-- An option lacks a value. -/
  | missingValue
  /-- A flag has a value. -/
  | unexpectedValue (spelling : String)
  /-- An option that may stand once stands again. -/
  | repeatedOption (spelling : String)
  /-- The limit on tokens is not a number of the machine's size. -/
  | badLimit (value : String)
  /-- A path is empty. -/
  | emptyPath
  /-- A second grammar file is given. -/
  | extraFile (path : String)
deriving DecidableEq

/-- The wording of a refusal. -/
def UsageError.message : UsageError → String
  | .unknownOption spelling => "unexpected argument '" ++ spelling ++ "'"
  | .missingValue => "a value is required for an option but none was supplied"
  | .unexpectedValue spelling => "unexpected value for '" ++ spelling ++ "'"
  | .repeatedOption spelling => "the argument '" ++ spelling ++ "' cannot be used multiple times"
  | .badLimit value => "invalid value '" ++ value ++ "' for '--max-tokens'"
  | .emptyPath => "a path cannot be empty"
  | .extraFile path => "unexpected argument '" ++ path ++ "'"

/-! ## Settings -/

/-- What one option or file asks for. -/
inductive Setting where
  | help
  | chart
  | noTree
  | audit
  | maxTokens (value : String)
  | eval (positives negatives : String)
  | file (path : String)
deriving DecidableEq

/-- The kinds of argument. -/
inductive Argument where
  /-- The `--` after which no option stands. -/
  | ending
  /-- A long option with the value attached to it. -/
  | long (name : String) (value : Option String)
  /-- Joined short options, and perhaps the value of the last. -/
  | short (letters : List Char)
  /-- Any other argument. -/
  | value (text : String)
deriving DecidableEq

/-- The kind of an argument. -/
def Argument.ofText (text : String) : Argument :=
  match text.toList with
  | ['-', '-'] => .ending
  | '-' :: '-' :: rest =>
    let name := String.ofList (rest.takeWhile (· != '='))
    match rest.dropWhile (· != '=') with
    | [] => .long name none
    | _ :: attached => .long name (some (String.ofList attached))
  | '-' :: letter :: rest => .short (letter :: rest)
  | _ => .value text

/-- What the reader of arguments still waits for. -/
inductive Awaited where
  | nothing
  /-- The value of the limit on tokens. -/
  | limit
  /-- The two files of an evaluation. -/
  | positives
  /-- The second file of an evaluation. -/
  | negatives (positives : String)
deriving DecidableEq

/-- The settings of a long option and what it waits for. -/
def readLong (name : String) (value : Option String) :
    Except UsageError (List Setting × Awaited) :=
  match name, value with
  | "help", none => .ok ([.help], .nothing)
  | "chart", none => .ok ([.chart], .nothing)
  | "no-tree", none => .ok ([.noTree], .nothing)
  | "audit", none => .ok ([.audit], .nothing)
  | "max-tokens", none => .ok ([], .limit)
  | "max-tokens", some value => .ok ([.maxTokens value], .nothing)
  | "eval", none => .ok ([], .positives)
  | "eval", some _ => .error .missingValue
  | "help", some _ => .error (.unexpectedValue "--help")
  | "chart", some _ => .error (.unexpectedValue "--chart")
  | "no-tree", some _ => .error (.unexpectedValue "--no-tree")
  | "audit", some _ => .error (.unexpectedValue "--audit")
  | _, _ => .error (.unknownOption ("--" ++ name))

/-- The value attached to a short option; an equals sign before it is dropped. -/
def attachedValue : List Char → String
  | '=' :: value => String.ofList value
  | value => String.ofList value

/-- The settings of joined short options and what the last of them waits for. What comes after a
request for help is not looked at. -/
def readShort : List Char → Except UsageError (List Setting × Awaited)
  | [] => .ok ([], .nothing)
  | 'h' :: _ => .ok ([.help], .nothing)
  | 'c' :: rest =>
    match readShort rest with
    | .error refusal => .error refusal
    | .ok (settings, awaited) => .ok (.chart :: settings, awaited)
  | 'n' :: rest =>
    match readShort rest with
    | .error refusal => .error refusal
    | .ok (settings, awaited) => .ok (.noTree :: settings, awaited)
  | ['m'] => .ok ([], .limit)
  | 'm' :: value => .ok ([.maxTokens (attachedValue value)], .nothing)
  | ['e'] => .ok ([], .positives)
  | 'e' :: _ => .error .missingValue
  | letter :: _ => .error (.unknownOption (String.ofList ['-', letter]))

/-- The settings, and after them those of the remaining arguments, which are not looked at after a
request for help. -/
def settingsThen (settings : List Setting) (later : Except UsageError (List Setting)) :
    Except UsageError (List Setting) :=
  if settings.contains .help then .ok settings
  else
    match later with
    | .error refusal => .error refusal
    | .ok others => .ok (settings ++ others)

/-- The settings of a list of arguments, of which the first may be awaited. -/
def readSettings (awaited : Awaited) : List String → Except UsageError (List Setting)
  | [] =>
    match awaited with
    | .nothing => .ok []
    | _ => .error .missingValue
  | argument :: rest =>
    match awaited, Argument.ofText argument with
    | .nothing, .ending => .ok (rest.map .file)
    | .nothing, .value path => settingsThen [.file path] (readSettings .nothing rest)
    | .limit, .value text => settingsThen [.maxTokens text] (readSettings .nothing rest)
    | .positives, .value path => readSettings (.negatives path) rest
    | .negatives positives, .value path =>
      settingsThen [.eval positives path] (readSettings .nothing rest)
    | .nothing, .long name value =>
      match readLong name value with
      | .error refusal => .error refusal
      | .ok (settings, next) => settingsThen settings (readSettings next rest)
    | .nothing, .short letters =>
      match readShort letters with
      | .error refusal => .error refusal
      | .ok (settings, next) => settingsThen settings (readSettings next rest)
    | _, _ => .error .missingValue

/-- The number that decimal digits state. -/
def numberOfDigits (digits : List Char) : Nat :=
  digits.foldl (fun n digit => 10 * n + (digit.toNat - '0'.toNat)) 0

/-- A number below `2 ^ 64` in decimal digits, with an optional plus sign. -/
def readLimit (text : String) : Option Nat :=
  let digits :=
    match text.toList with
    | '+' :: digits => digits
    | digits => digits
  if digits.isEmpty || !digits.all Char.isDigit then none
  else if numberOfDigits digits < Nat.pow 2 64 then some (numberOfDigits digits)
  else none

/-- What the arguments ask for. -/
inductive Request where
  | help
  | run (options : Options)
deriving DecidableEq

namespace Options

/-- The options with one more setting. Of several evaluations the first is kept. -/
def add (options : Options) : Setting → Except UsageError Options
  | .help => .ok options
  | .chart =>
    if options.chart then .error (.repeatedOption "--chart")
    else .ok { options with chart := true }
  | .noTree =>
    if options.noTree then .error (.repeatedOption "--no-tree")
    else .ok { options with noTree := true }
  | .audit =>
    if options.audit then .error (.repeatedOption "--audit")
    else .ok { options with audit := true }
  | .maxTokens value =>
    if options.maxTokens.isSome then .error (.repeatedOption "--max-tokens")
    else
      match readLimit value with
      | none => .error (.badLimit value)
      | some limit => .ok { options with maxTokens := some limit }
  | .eval positives negatives =>
    if positives = "" ∨ negatives = "" then .error .emptyPath
    else .ok { options with eval := options.eval.or (some (positives, negatives)) }
  | .file path =>
    if path = "" then .error .emptyPath
    else if options.file.isSome then .error (.extraFile path)
    else .ok { options with file := some path }

end Options

namespace Request

/-- What more settings ask for, where some options are set. -/
def addAll (options : Options) : List Setting → Except UsageError Request
  | [] => .ok (.run options)
  | .help :: _ => .ok .help
  | setting :: others =>
    match options.add setting with
    | .error refusal => .error refusal
    | .ok options => addAll options others

/-- What a list of arguments asks for. -/
def ofArguments (arguments : List String) : Except UsageError Request :=
  match readSettings .nothing arguments with
  | .error refusal => .error refusal
  | .ok settings => addAll {} settings

end Request

/-! ## What the arguments lead to -/

/-- The paths that lead to the input of the command. -/
def inputPaths : List String :=
  ["/dev/stdin", "/dev/fd/0", "/proc/self/fd/0"]

/-- What is written if help is asked for. -/
def helpText : String :=
  "Checks Balinese sentences with a CYK chart parser\n\n" ++
    "Usage: balicyk [OPTIONS] [FILE]\n\n" ++
    "Arguments:\n" ++
    "  [FILE]  CNF grammar file to use instead of the built-in Balinese grammar\n\n" ++
    "Options:\n" ++
    "  -c, --chart                       Print the parse chart\n" ++
    "  -n, --no-tree                     " ++
    "Don't print the derivation tree of accepted sentences\n" ++
    "  -m, --max-tokens <MAX_TOKENS>     " ++
    "Refuse sentences with more tokens than this [default: 64]\n" ++
    "      --audit                       " ++
    "Report unproductive, unreachable and duplicate rules, then exit\n" ++
    "  -e, --eval <POSITIVE> <NEGATIVE>  Score the grammar on two files of one sentence per " ++
    "line, the first grammatical and the second ungrammatical\n" ++
    "  -h, --help                        Print help\n"

/-- The line that reports refused arguments. -/
def usageLine (refusal : UsageError) : String :=
  "error: " ++ refusal.message ++ "\n"

end BalineseChart
