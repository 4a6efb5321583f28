/-
Reading the command line.

A command may be preceded by options of the program and is followed by its own.
Arguments are read from left to right, and the first fault found is the one
reported.
-/
import Sexpr.CommandLine.Draft

namespace Sexpr
namespace CommandLine

namespace Invocation

def isCommandName (name : String) : Bool := (Verb.ofName? name).isSome || name == "help"

/-- A command and what follows it.  A verbose flag after the command makes those
before it forgotten. -/
def ofCommand (env : Environment) (verb : Verb) (verbosity : Nat) (rest : List String) :
    Except UsageError Invocation := do
  let d ← Draft.empty.takeAll verb rest
  let command ← d.command env verb
  let input ← d.input
  return {
    verbosity := if d.verbosity = 0 then verbosity else d.verbosity
    command := command
    input := input }

/-- What follows `help`: one name of a command, or nothing. -/
def ofHelp : List String → UsageError
  | [] => .help
  | name :: rest =>
    if !isCommandName name then .unknownCommand name
    else
      match rest with
      | [] => .help
      | extra :: _ => .unknownCommand extra

/-- Counts the letters behind a single dash that stand before the command. -/
def takeLetters (verbosity : Nat) : List Char → Except UsageError Nat
  | [] => .ok verbosity
  | c :: cs =>
    if c = 'v' then takeLetters (countFlag verbosity) cs
    else if c = 'h' then .error .help
    else if c = 'V' then .error .version
    else .error (.unknownArgument (String.ofList ['-', c]))

def takeLong (verbosity : Nat) (name : String) (value : Option String) :
    Except UsageError Nat :=
  if name = "verbose" ∨ name = "help" ∨ name = "version" then
    if value.isSome then .error (.needlessValue name)
    else if name = "verbose" then .ok (countFlag verbosity)
    else .error (if name = "help" then .help else .version)
  else .error (.unknownArgument name)

/-- Reads the arguments of the program.  Behind two dashes no command can
stand. -/
def ofArguments (env : Environment) (verbosity : Nat) :
    List String → Except UsageError Invocation
  | [] => .error (if verbosity = 0 then .nothingGiven else .missingCommand)
  | argument :: rest =>
    match Verb.ofName? argument with
    | some verb => ofCommand env verb verbosity rest
    | none =>
      if argument = "help" then .error (ofHelp rest)
      else do
        match Shape.of argument with
        | .dashes =>
          match rest with
          | [] => throw (if verbosity = 0 then .nothingGiven else .missingCommand)
          | name :: _ =>
            throw (if isCommandName name then .unknownArgument name else .unknownCommand name)
        | .long name value => ofArguments env (← takeLong verbosity name value) rest
        | .short letters => ofArguments env (← takeLetters verbosity letters) rest
        | .plain => throw (.unknownCommand argument)

def parse (env : Environment) (arguments : List String) : Except UsageError Invocation :=
  ofArguments env 0 arguments

end Invocation
end CommandLine
end Sexpr
