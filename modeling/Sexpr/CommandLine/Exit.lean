import Sexpr.CommandLine.Filter
import Sexpr.CommandLine.Run

namespace Sexpr
namespace CommandLine

def versionText : String := "lispish-cli 0.1.0\n"

def helpText : String :=
  "Usage: lispish [-v] <check|tokens|tree|fmt> [-e EXPR | FILE] [-w WIDTH]\n\n" ++
  "  check   Print the input, its tokens and its parse tree\n" ++
  "  tokens  Print the tokens of the input\n" ++
  "  tree    Print the parse tree of the input\n" ++
  "  fmt     Print the input reformatted to a line width\n"

namespace UsageError

def message : UsageError → String
  | help => helpText
  | version => versionText
  | nothingGiven => helpText
  | missingCommand => "a command is missing"
  | unknownCommand name => s!"unrecognized command '{name}'"
  | unknownArgument argument => s!"unexpected argument '{argument}'"
  | needlessValue option => s!"'{option}' takes no value"
  | missingValue option => s!"'{option}' needs a value"
  | emptyFileName => "the name of the file is empty"
  | repeated option => s!"'{option}' cannot be used twice"
  | textAndFile => "'--expr' cannot be used with a file"
  | invalidWidth text => s!"invalid width '{text}'"

end UsageError

structure Exit where
  code : UInt8
  output : String
  errors : String
deriving DecidableEq

namespace Exit

/-- Help and version are answers, every other usage error is a fault. -/
def ofUsageError : UsageError → Exit
  | .help => { code := 0, output := helpText, errors := "" }
  | .version => { code := 0, output := versionText, errors := "" }
  | e => { code := 2, output := "", errors := s!"error: {e.message}\n" }

/-- The records the filter shows come first and the failure last. -/
def ofReport (f : Filter) (r : Report) : Exit :=
  let shown := String.join ((r.log.filter f.shows).map fun entry => entry.text ++ "\n")
  match r.failure with
  | none => { code := 0, output := r.output, errors := shown }
  | some e => { code := 1, output := r.output, errors := shown ++ s!"error: {e.message}\n" }

end Exit

/-- Runs the program.  `read` gives the text of an input. -/
def execute (env : Environment) (read : Input → Except ReadError String)
    (arguments : List String) : Exit :=
  match Invocation.parse env arguments with
  | .error e => Exit.ofUsageError e
  | .ok i => Exit.ofReport (Filter.choose env.log i.verbosity) (i.run (read i.input))

end CommandLine
end Sexpr
