/-
Parsers over positions.

A stepper keeps a position, and answers or fails with an error; it has a position also when
it fails.  A third outcome, `none`, is that of an index out of range.  Only `step` moves the
position, and it does so when what it tries succeeds.

Each nonterminal has a stepper that calls those of others or itself.  That the calls come to
an end is nowhere to be seen in it, and depends on the buffer: one whose last token opens a
list would be read for ever.  So there is a bound on how deep calls may nest, and a run that
would go deeper has no answer either.
-/
import Sexpr.Parser.Nonterminal
import Sexpr.Position

namespace Sexpr

abbrev Stepper := ExceptT ParseError (StateT Position Option)

namespace Stepper

variable {α : Type}

/-- What a stepper does from a position: its answer, and where it stands then. -/
def runFrom (s : Stepper α) (p : Position) : Option (Except ParseError α × Position) :=
  StateT.run (ExceptT.run s) p

/-- Looks at the position, and leaves it as it is. -/
def look (question : Position → Option α) : Stepper α := fun p => do
  return (.ok (← question p), p)

/-- Goes where `f` leads.  If `f` fails, the position stays. -/
def step (f : Position → Option (Except ParseError (α × Position))) : Stepper α := fun p => do
  match ← f p with
  | .ok (a, q) => return (.ok a, q)
  | .error e => return (.error e, p)

/-- Consumes the current token if it is the one asked for. -/
def take (terminal : Terminal) : Stepper Token :=
  step fun p => do
    match ← p.take terminal with
    | some taken => return .ok taken
    | none => return .error (← p.unexpected terminal.name)

/-- A stepper that is cut short. -/
def cut : Stepper α := fun _ => none

end Stepper

open Stepper

/-- A stepper for each nonterminal. -/
structure Steppers where
  program : Stepper Program
  sexpr : Stepper SExpr
  list : Stepper SExpr
  seq : Stepper Sequence
  atom : Stepper Token

namespace Steppers

/-- What each nonterminal does, if `call` is what it calls.  The loop of a program goes on by a
call of its own. -/
def body (call : Steppers) : Steppers where
  program := do
    if ← look (·.isEnd) then
      return { exprs := [] }
    else
      let x ← call.sexpr
      let p ← call.program
      return { exprs := x :: p.exprs }
  sexpr := do if ← look (·.peekAtom) then SExpr.atom <$> call.atom else call.list
  list := do
    let opening ← take (.literal "(")
    if ← look (·.peekLiteral ")") then
      let closing ← take (.literal ")")
      return .list opening [] closing
    else
      let items ← Sequence.items <$> call.seq
      let closing ← take (.literal ")")
      return .list opening items closing
  seq := do
    let head ← call.sexpr
    if ← look (·.peekLiteral ")") then
      return { head := head, tail := [] }
    else
      let tail ← Sequence.items <$> call.seq
      return { head := head, tail := tail }
  atom := take .atom

/-- The steppers with no more than `depth` calls inside one another. -/
def nested : Nat → Steppers
  | 0 => ⟨cut, cut, cut, cut, cut⟩
  | depth + 1 => body (nested depth)

/-- Reads one derivation of a nonterminal. -/
def node (call : Steppers) : Nonterminal → Stepper Node
  | .program => Node.program <$> call.program
  | .sexpr => Node.sexpr <$> call.sexpr
  | .list => SExpr.production <$> call.list
  | .seq => Node.seq <$> call.seq
  | .atom => Node.atom <$> call.atom

/-- Reads all of `tokens` as a program. -/
def parse (call : Steppers) (tokens : List Token) : Option (Except ParseError Program) :=
  (call.program.runFrom (Buffer.ofTokens tokens).start).map (·.1)

end Steppers
end Sexpr
