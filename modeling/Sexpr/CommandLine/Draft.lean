/-
Drafts: the arguments of a command as they come in.

A value is looked at only when the next option or file comes, or at the end, so
an argument that is not known at all wins over a bad value before it.
-/
import Sexpr.CommandLine.Invocation
import Sexpr.CommandLine.Option

namespace Sexpr
namespace CommandLine

/-- What the arguments of a command have given so far.  The last argument that
carries a value is `pending` until it is looked at; an option waits there for
its value. -/
structure Draft where
  file : Option String
  expr : Option String
  width : Option Nat
  verbosity : Nat
  pending : Option (Slot × Option String)
deriving DecidableEq

namespace Draft

def empty : Draft :=
  { file := none, expr := none, width := none, verbosity := 0, pending := none }

def fill (d : Draft) (slot : Slot) (value : String) : Except UsageError Draft :=
  match slot with
  | .file => if value = "" then .error .emptyFileName else .ok { d with file := some value }
  | .expr =>
    if d.expr.isSome then .error (.repeated slot.name) else .ok { d with expr := some value }
  | .width =>
    if d.width.isSome then .error (.repeated slot.name)
    else
      match width? value with
      | some n => .ok { d with width := some n }
      | none => .error (.invalidWidth value)

def settle (d : Draft) : Except UsageError Draft :=
  match d.pending with
  | none => .ok d
  | some (slot, none) => .error (.missingValue slot.name)
  | some (slot, some value) => fill { d with pending := none } slot value

def countVerbose (d : Draft) : Except UsageError Draft := do
  let d ← d.settle
  return { d with verbosity := countFlag d.verbosity }

/-- Takes an option, with its value if that is attached. -/
def takeOption (d : Draft) (slot : Slot) (attached : Option String) :
    Except UsageError Draft := do
  let d ← d.settle
  match attached with
  | some value => d.fill slot value
  | none => return { d with pending := some (slot, none) }

/-- Takes the name of the file.  There is room for one. -/
def takeFile (d : Draft) (path : String) : Except UsageError Draft := do
  let isFile : Slot × Option String → Bool := fun p => p.1 = .file
  if d.file.isSome || d.pending.any isFile then
    throw (.unknownArgument path)
  let d ← d.settle
  return { d with pending := some (.file, some path) }

def takePlain (d : Draft) (argument : String) : Except UsageError Draft :=
  match d.pending with
  | some (slot, none) => .ok { d with pending := some (slot, some argument) }
  | _ => d.takeFile argument

/-- Takes the letters behind a single dash.  An option takes the letters after it
as its value, less one `=`. -/
def takeLetters (verb : Verb) (d : Draft) : List Char → Except UsageError Draft
  | [] => .ok d
  | c :: cs =>
    if c = 'v' then do takeLetters verb (← d.countVerbose) cs
    else if c = 'h' then do
      let _ ← d.settle
      throw .help
    else
      match Slot.ofLetter? verb c with
      | none => .error (.unknownArgument (String.ofList ['-', c]))
      | some slot =>
        match cs with
        | [] => d.takeOption slot none
        | '=' :: value => d.takeOption slot (some (String.ofList value))
        | value => d.takeOption slot (some (String.ofList value))

def takeLong (verb : Verb) (d : Draft) (name : String) (value : Option String) :
    Except UsageError Draft :=
  match Slot.ofLongName? verb name with
  | some slot => d.takeOption slot value
  | none =>
    if name = "verbose" ∨ name = "help" then
      if value.isSome then .error (.needlessValue name)
      else if name = "verbose" then d.countVerbose
      else do
        let _ ← d.settle
        throw .help
    else .error (.unknownArgument name)

def takeAll (verb : Verb) (d : Draft) : List String → Except UsageError Draft
  | [] => d.settle
  | argument :: rest => do
    match Shape.of argument with
    | .dashes => (← rest.foldlM takeFile d).settle
    | .long name value => takeAll verb (← d.takeLong verb name value) rest
    | .short letters => takeAll verb (← d.takeLetters verb letters) rest
    | .plain => takeAll verb (← d.takePlain argument) rest

/-- The width to format to: the one given, the one in the environment, or the
default. -/
def chooseWidth (d : Draft) (env : Environment) : Except UsageError Nat :=
  match d.width, env.width with
  | some n, _ => .ok n
  | none, none => .ok defaultWidth
  | none, some text =>
    match width? text with
    | some n => .ok n
    | none => .error (.invalidWidth text)

def command (d : Draft) (env : Environment) : Verb → Except UsageError Command
  | .check => .ok .check
  | .tokens => .ok .tokens
  | .tree => .ok .tree
  | .fmt => (d.chooseWidth env).map .format

def input (d : Draft) : Except UsageError Input :=
  match d.expr, d.file with
  | some _, some _ => .error .textAndFile
  | some source, none => .ok (.text source)
  | none, some path => .ok (.file path)
  | none, none => .ok .standardInput

end Draft

end CommandLine
end Sexpr
