/-
Invocations: what a command line asks for, or why it asks for nothing that can
be done.
-/
import Sexpr.CommandLine.Input

namespace Sexpr
namespace CommandLine

/-- Why no command can be run.  Asking for help or for the version is one. -/
inductive UsageError where
  | help
  | version
  | nothingGiven
  | missingCommand
  | unknownCommand (name : String)
  | unknownArgument (argument : String)
  | needlessValue (option : String)
  | missingValue (option : String)
  | emptyFileName
  | repeated (option : String)
  | textAndFile
  | invalidWidth (text : String)
deriving DecidableEq

inductive Command where
  | check
  | tokens
  | tree
  | format (width : Nat)
deriving DecidableEq

structure Invocation where
  verbosity : Nat
  command : Command
  input : Input
deriving DecidableEq

structure Environment where
  width : Option String
  log : Option String
deriving DecidableEq

end CommandLine
end Sexpr
