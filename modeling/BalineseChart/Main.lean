import BalineseChart.Command.Arguments

/-!
# The program

The program reads its files and its input, and writes what the command says. A
conversation is held line by line, so that each record stands before the next
prompt.
-/

namespace BalineseChart

/-- The failure that the system reports. -/
def ReadFailure.ofError : IO.Error → ReadFailure
  | .permissionDenied .. => .accessDenied
  | .inappropriateType _ osCode _ =>
    if osCode.toNat = ReadFailure.isDirectory.code then .isDirectory else .notDirectory
  | .invalidArgument .. => .nameTooLong
  | _ => .notFound

/-- The bytes of a file, or why it cannot be read. -/
def readBytes (path : String) : IO (Except ReadFailure (List UInt8)) := do
  try
    return .ok (← IO.FS.readBinFile path).toList
  catch e =>
    return .error (.ofError e)

/-- The files that the options name, in the order in which they are read. -/
def Options.paths (options : Options) : List String :=
  options.file.toList ++
    match options.eval with
    | some (positives, negatives) => [positives, negatives]
    | none => []

/-- The files at the paths, each read once. -/
def readAll (paths : List String) : IO Files := do
  let isInput := fun path => inputPaths.contains path
  let others := paths.filter fun path => !isInput path
  let contents ← others.mapM fun path => return (path, ← readBytes path)
  return ⟨fun path => (contents.lookup path).getD (.error .notFound), isInput⟩

/-- The whole input, if one of the paths leads to it. -/
def readInput (paths : List String) : IO (List UInt8) := do
  if paths.any fun path => inputPaths.contains path then
    return (← (← IO.getStdin).readBinToEnd).toList
  else
    return []

/-- Writes to the errors what is not held back from them. -/
def writeNotices (notices : List Notice) : IO Unit := do
  (← IO.getStderr).putStr (noticesText warningLog notices)

/-- The next line of the input with the line feed that ends it; empty at the end. -/
partial def readLine (input : IO.FS.Stream) (line : List UInt8) : IO (List UInt8) := do
  let next ← input.read 1
  match next.toList with
  | [] => return line.reverse
  | byte :: _ => if byte = 10 then return (byte :: line).reverse else readLine input (byte :: line)

/-- Holds a conversation until the input ends or a line is not text. -/
partial def holdConversation (g : Grammar) (options : Options) : IO UInt32 := do
  let output ← IO.getStdout
  output.putStr prompt
  output.flush
  let line ← readLine (← IO.getStdin) []
  if line.isEmpty then
    return 0
  match respond g options line with
  | .error fatal =>
    writeNotices [.line fatal.line]
    return 1
  | .ok reply =>
    writeNotices reply.errors
    output.putStr reply.output
    holdConversation g options

/-- Writes a transcript; the result is the program's exit code. -/
def writeTranscript (transcript : Transcript) : IO UInt32 := do
  writeNotices transcript.errors
  (← IO.getStdout).putStr transcript.output
  return .ofNat transcript.exitCode

/-- Does what the options ask for. -/
def runProgramWith (options : Options) : IO UInt32 := do
  let files ← readAll options.paths
  let input ← readInput options.paths
  match loadGrammar options (files.reader input) with
  | .error fatal =>
    writeNotices [.line fatal.line]
    return 1
  | .ok g =>
    writeNotices [.event (loadedEvent g)]
    if options.audit ∨ options.eval.isSome then
      writeTranscript (runWith g options files (files.leftAfter input options.file.toList))
    else
      -- If the grammar was read from the input, nothing of that is left to answer.
      holdConversation g options

/-- Does what the arguments ask for; the result is the program's exit code. -/
def runProgram (arguments : List String) : IO UInt32 := do
  match Request.ofArguments arguments with
  | .error refusal =>
    writeNotices [.line (usageLine refusal)]
    return 2
  | .ok .help =>
    (← IO.getStdout).putStr helpText
    return 0
  | .ok (.run options) => runProgramWith options

end BalineseChart

/-- The entry point of the program. -/
def main (arguments : List String) : IO UInt32 :=
  BalineseChart.runProgram arguments
