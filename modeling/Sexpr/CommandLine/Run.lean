/-
Running a command on its source text.

A command writes to its output as it goes and leaves log records behind.  When
it fails, what it has written stays written.
-/
import Sexpr.CommandLine.Arguments
import Sexpr.CommandLine.Log
import Sexpr.Dump
import Sexpr.Layout.Pretty
import Sexpr.Source

namespace Sexpr
namespace CommandLine

inductive Failure where
  | unreadable (input : Input) (e : ReadError)
  | invalid (e : SourceError)
deriving DecidableEq

namespace Failure

def message : Failure → String
  | unreadable (.file path) e => s!"failed to read {path}: {e.message}"
  | unreadable _ e => s!"failed to read standard input: {e.message}"
  | invalid e => e.message

end Failure

/-- What a command has written and logged so far. -/
structure Transcript where
  output : String
  log : List Record
deriving DecidableEq

abbrev Run := ExceptT Failure (StateM Transcript)

namespace Run

def write (text : String) : Run Unit :=
  modify fun t => { t with output := t.output ++ text }

def writeLine (text : String) : Run Unit := write (text ++ "\n")

def log (r : Record) : Run Unit :=
  modify fun t => { t with log := t.log ++ [r] }

def lexerRecord (event field value : String) : Record :=
  { level := .debug, target := "lispish::lexer", event := event, field := field, value := value }

def parserRecord (event field value : String) : Record :=
  { level := .debug, target := "lispish::parser", event := event, field := field, value := value }

def checkRecord (event field value : String) : Record :=
  { level := .info, target := "lispish_cli::cmds::check", event := event, field := field,
    value := value }

/-- Cuts the source into tokens and logs how it went. -/
def tokenize (source : String) : Run (List Token) :=
  match Sexpr.tokenize source with
  | .ok tokens => do
    log (lexerRecord "tokenized input" "tokens" (toString tokens.length))
    return tokens
  | .error e => do
    log (lexerRecord "tokenize failed" "error" e.message)
    throw (.invalid (.lexical e))

/-- Reads the tokens as a program and logs how it went. -/
def parse (tokens : List Token) : Run Program :=
  match Sexpr.parse tokens with
  | .ok p => do
    log (parserRecord "parsed program" "expressions" (toString p.size))
    return p
  | .error e => do
    log (parserRecord "parse failed" "error" e.message)
    throw (.invalid (.syntactic e))

/-- A line of fifty equal characters. -/
def rule (c : Char) : String := String.ofList (List.replicate 50 c)

/-- One line for each token: its kind in 21 columns, and after a tab its text. -/
def tokenTable (tokens : List Token) : String :=
  String.join (tokens.map fun t => Text.pad .left 21 t.kind.name ++ "\t: " ++ t.text ++ "\n")

def tokens (source : String) : Run Unit := do
  let tokens ← tokenize source
  write (tokenTable tokens)

def tree (source : String) : Run Unit := do
  let p ← parse (← tokenize source)
  write (Node.program p).dump

def format (width : Nat) (source : String) : Run Unit := do
  let p ← parse (← tokenize source)
  writeLine (pretty width p)

/-- Writes a report section by section, so that all up to a fault is shown. -/
def check (source : String) : Run Unit := do
  writeLine (rule '=')
  writeLine ("Input: " ++ source)
  writeLine (rule '-')
  let tokens ← tokenize source
  writeLine "Tokens"
  writeLine (rule '-')
  write (tokenTable tokens)
  writeLine (rule '-')
  let p ← parse tokens
  writeLine "Parse Tree"
  writeLine (rule '-')
  write (Node.program p).dump
  writeLine (rule '-')
  log (checkRecord "check passed" "expressions" (toString p.size))

end Run

def Command.run (source : String) : Command → Run Unit
  | check => Run.check source
  | tokens => Run.tokens source
  | tree => Run.tree source
  | format width => Run.format width source

structure Report where
  output : String
  log : List Record
  failure : Option Failure
deriving DecidableEq

def Invocation.run (i : Invocation) (source : Except ReadError String) : Report :=
  let body : Run Unit :=
    match source with
    | .ok text => i.command.run text
    | .error e => throw (.unreadable i.input e)
  let (result, t) := body.run.run { output := "", log := [] }
  let failure := match result with
    | .ok _ => none
    | .error e => some e
  { output := t.output, log := t.log, failure := failure }

end CommandLine
end Sexpr
