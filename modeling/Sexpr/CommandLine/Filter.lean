/-
The filter that chooses which log records are shown.

A filter is a list of directives.  The most specific one that is about a record
decides whether the record is urgent enough, and a record that none is about is
not shown.
-/
import Sexpr.CommandLine.Log
import Sexpr.Text.Alphanumeric
import Sexpr.Text.Numeral

namespace Sexpr
namespace CommandLine

/-- The records a directive is about, among those of its target. -/
inductive Scope where
  | all
  | field (name : String)
  /-- What happens inside a span, or with a certain value in a field.  No record
  here is of that kind. -/
  | span
deriving DecidableEq

/-- Shows the records of the targets that start with `target`, up to a level.  At
rank zero nothing is shown. -/
structure Directive where
  target : String
  scope : Scope
  rank : Nat
deriving DecidableEq

namespace Directive

/-- The rank of a level by its number, or by its name in any case. -/
def rank? (text : List Char) : Option Nat :=
  match Text.unsigned? text with
  | some n => if n ≤ Level.trace.rank then some n else none
  | none =>
    match String.ofList (text.map Char.toLower) with
    | "off" => some 0
    | "error" => some Level.error.rank
    | "warn" => some Level.warn.rank
    | "info" => some Level.info.rank
    | "debug" => some Level.debug.rank
    | "trace" => some Level.trace.rank
    | _ => none

/-! ## Reading a directive

The forms are `LEVEL`, `TARGET` and `TARGET=LEVEL`, where a target may be followed,
or replaced, by `[SPAN]`, `[{FIELD}]` or `[SPAN{FIELD}]`.  Without a level everything
is shown.

The form is read off the text without the blanks around it.  The names are cut
from the text as it is, at the offsets where the form has them.  So blanks at the
end belong to the last name, and blanks at the start push every name to the left.
Each function below gets the rest of the form and the rest of the text. -/

def startsTarget (c : Char) : Bool :=
  c = '-' || c = ':' || c = '_' || Text.isAlphanumeric c

/-- The level after the equals sign, if there is one. -/
def level? : List Char → List Char → Option Nat
  | [], _ => some Level.trace.rank
  | '=' :: _, text => if text.drop 1 = [] then some Level.trace.rank else rank? (text.drop 1)
  | _, _ => none

/-- What is between the braces: a field, or a field and a value. -/
def scopeOfField (text : List Char) : Scope :=
  if text.contains '=' then .span else .field (String.ofList text)

/-- What follows the opening bracket. -/
def span? (form text : List Char) : Option (Scope × Nat) :=
  let name := form.takeWhile fun c => c != ']' && c != '{'
  let text' := text.drop (name.length + 1)
  match form.drop name.length with
  | ']' :: rest => (level? rest text').map fun rank => (.span, rank)
  | '{' :: rest =>
    let field := rest.takeWhile (· != '}')
    match rest.drop field.length with
    | '}' :: ']' :: rest' =>
      if field = [] then none
      else
        let scope := if name = [] then scopeOfField (text'.take field.length) else .span
        (level? rest' (text'.drop (field.length + 2))).map fun rank => (scope, rank)
    | _ => none
  | _ => none

def parse? (text : String) : Option Directive :=
  let text := text.toList
  let form := ((text.dropWhile Text.isBlank).reverse.dropWhile Text.isBlank).reverse
  match form with
  | [] => none
  | '[' :: rest =>
    (span? rest (text.drop 1)).map fun (scope, rank) =>
      { target := "", scope := scope, rank := rank }
  | c :: _ =>
    let name := form.takeWhile fun c => c != '=' && c != '['
    let target := String.ofList (text.take name.length)
    if !startsTarget c then none
    else
      match form.drop name.length with
      | [] =>
        match rank? text with
        | some rank => some { target := "", scope := .all, rank := rank }
        | none => some { target := String.ofList text, scope := .all, rank := Level.trace.rank }
      | '[' :: rest =>
        (span? rest (text.drop (name.length + 1))).map fun (scope, rank) =>
          { target := target, scope := scope, rank := rank }
      | rest =>
        (level? rest (text.drop name.length)).map fun rank =>
          { target := target, scope := .all, rank := rank }

/-- Every record carries a message besides its own field. -/
def isAbout (d : Directive) (r : Record) : Bool :=
  d.target.toList.isPrefixOf r.target.toList &&
    match d.scope with
    | .all => true
    | .field name => name = r.field || name = "message"
    | .span => false

/-- Whether `d`, given after `e`, is the one to decide.  A longer target is more
specific, then a field, and of two fields the one that is later in order. -/
def overrules (d e : Directive) : Bool :=
  if d.target.length = e.target.length then
    match d.scope, e.scope with
    | .field name, .field other => !(name < other)
    | .all, .field _ => false
    | _, _ => true
  else e.target.length < d.target.length

end Directive

abbrev Filter := List Directive

namespace Filter

def upTo (rank : Nat) : Filter := [{ target := "", scope := .all, rank := rank }]

/-- Reads directives separated by commas.  An empty list shows errors alone. -/
def parse? (text : String) : Option Filter :=
  let parts := (text.splitOn ",").filter (· ≠ "")
  if parts = [] then some (upTo Level.error.rank)
  else parts.mapM Directive.parse?

/-- The directive that decides about a record: of those that are about it, the
most specific, and of equals the last. -/
def decisive? (f : Filter) (r : Record) : Option Directive :=
  (f.filter (·.isAbout r)).foldl (fun best d =>
    match best with
    | some e => if d.overrules e then some d else best
    | none => some d) none

def shows (f : Filter) (r : Record) : Bool :=
  match f.decisive? r with
  | some d => r.level.rank ≤ d.rank
  | none => false

/-- The filter in force when none is asked for: warnings, and with every
repetition of the verbose flag more. -/
def ofVerbosity : Nat → Filter
  | 0 => upTo Level.warn.rank
  | 1 => upTo Level.debug.rank
  | _ => upTo Level.trace.rank

/-- A filter that cannot be read counts as none. -/
def choose (asked : Option String) (verbosity : Nat) : Filter :=
  (asked.bind parse?).getD (ofVerbosity verbosity)

end Filter
end CommandLine
end Sexpr
