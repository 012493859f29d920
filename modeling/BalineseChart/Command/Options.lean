/-!
# Options

The options say which grammar the command loads and what it does with it.
-/

namespace BalineseChart

/-- What the command is asked for. -/
structure Options where
  /-- The grammar file; the built-in grammar is used without one. -/
  file : Option String := none
  /-- Whether the chart is shown. -/
  chart : Bool := false
  /-- Whether the tree of an accepted sentence is left out. -/
  noTree : Bool := false
  /-- Whether the grammar is audited instead of used. -/
  audit : Bool := false
  /-- The most tokens a sentence may have, if a limit is given. -/
  maxTokens : Option Nat := none
  /-- The files of grammatical and ungrammatical sentences to score the grammar on. -/
  eval : Option (String × String) := none
deriving DecidableEq

/-- The most tokens a sentence may have. -/
def Options.limit (options : Options) : Nat :=
  options.maxTokens.getD 64

end BalineseChart
