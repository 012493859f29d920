import BalineseChart.Analysis
import BalineseChart.Text.Quoted

/-!
# The log

What is done is reported while it is done: a grammar has been loaded, a word loses a clitic, no
rule produces a token, the spans of the next length are filled, an input is parsed. Each such
event has a level, a message and some named values.

The log goes where the errors go, and whether and how an event is written there is for others to
say: they may leave out some levels, and may add the time. So the errors of a run are a list
of notices, some of them lines of its own and some of them events, and their text is that for a
`LogFormat`.
-/

namespace BalineseChart

open Text

/-! ## Events -/

/-- How much an event matters. -/
inductive LogLevel where
  | trace
  | debug
  | info
  | warn
deriving DecidableEq

/-- The name of a level. -/
def LogLevel.name : LogLevel → String
  | .trace => "TRACE"
  | .debug => "DEBUG"
  | .info => "INFO"
  | .warn => "WARN"

/-- What is reported. -/
inductive LogEvent where
  /-- A grammar has been loaded. -/
  | grammarLoaded (start : Nonterminal) (rules : Nat)
  /-- A word is cut before its clitic. -/
  | cliticSplit (word stem clitic : String)
  /-- No rule produces a token. -/
  | unknownWord (gap : Gap)
  /-- The cells of the spans of some length are filled next. -/
  | fillingSpans (length : Nat)
  /-- The chart of some tokens is full. -/
  | parsed (tokens : Nat) (accepted : Bool)
deriving DecidableEq

namespace LogEvent

/-- The level of an event. -/
def level : LogEvent → LogLevel
  | .grammarLoaded _ _ => .info
  | .cliticSplit _ _ _ => .debug
  | .unknownWord _ => .warn
  | .fillingSpans _ => .trace
  | .parsed _ _ => .debug

/-- The wording of an event. -/
def message : LogEvent → String
  | .grammarLoaded _ _ => "grammar loaded"
  | .cliticSplit _ _ _ => "split clitic suffix"
  | .unknownWord gap => gap.text
  | .fillingSpans _ => "filling spans"
  | .parsed _ _ => "parsed"

/-- The values of an event, each with its name. -/
def fields : LogEvent → List (String × String)
  | .grammarLoaded start rules => [("start", start.name), ("rules", toString rules)]
  | .cliticSplit word stem clitic =>
    [("word", quoted word), ("stem", quoted stem), ("suffix", quoted clitic)]
  | .unknownWord gap => [("token", gap.token), ("position", toString gap.position)]
  | .fillingSpans length => [("length", toString length)]
  | .parsed tokens accepted => [("tokens", toString tokens), ("accepted", toString accepted)]

/-- Whether an event is a warning. No event has a higher level. -/
def isWarning (event : LogEvent) : Bool :=
  event.level = .warn

/-- An event on a line of its own, without the time. -/
def line (event : LogEvent) : String :=
  event.level.name ++ " " ++ event.message ++
    String.join (event.fields.map fun (name, value) => " " ++ name ++ "=" ++ value) ++ "\n"

end LogEvent

/-! ## The events of an analysis -/

namespace Grammar

/-- The event of a word, if it loses a clitic. -/
def splitEvent? (g : Grammar) (word : String) : Option LogEvent :=
  if g.knows word then none
  else (g.cliticOf? word).map fun clitic => .cliticSplit word (stemOf word clitic) clitic

/-- What is reported while a sentence is cut into tokens. -/
def splitEvents (g : Grammar) (sentence : String) : List LogEvent :=
  (words (lowerCase sentence.toList)).filterMap fun word => g.splitEvent? (String.ofList word)

end Grammar

/-- What is reported while the chart of an analysis is filled, and when it is full. -/
def Analysis.events (analysis : Analysis) : List LogEvent :=
  analysis.gaps.map .unknownWord ++
    (List.range' 2 (analysis.tokens.length - 1)).map .fillingSpans ++
    [.parsed analysis.tokens.length analysis.accepted]

/-- What is reported of a sentence that is analysed. -/
def Grammar.parseEvents (g : Grammar) (sentence : String) : List LogEvent :=
  g.splitEvents sentence ++ (g.analyse sentence).events

/-! ## Notices -/

/-- One thing that a run writes among its errors. -/
inductive Notice where
  /-- A text that the run writes itself. -/
  | line (text : String)
  /-- An event of the log. -/
  | event (reported : LogEvent)
deriving DecidableEq

/-- How the log is written: what there is to see of an event, which may also depend on when it
happens, that is, on its number among the notices of the run. -/
abbrev LogFormat : Type :=
  Nat → LogEvent → String

/-- The text of a notice. -/
def Notice.text (format : LogFormat) (number : Nat) : Notice → String
  | .line text => text
  | .event reported => format number reported

/-- The text of all notices of a run. -/
def noticesText (format : LogFormat) (notices : List Notice) : String :=
  String.join (notices.mapIdx fun number notice => notice.text format number)

/-- The log of warnings, which are what is written if nothing else is asked for. -/
def warningLog : LogFormat :=
  fun _ event => if event.isWarning then event.line else ""

/-- The log of all events. -/
def fullLog : LogFormat :=
  fun _ event => event.line

end BalineseChart
