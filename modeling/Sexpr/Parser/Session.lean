/-
Sessions: a parser driven step by step.

A session has a current cursor and a pile of cursors laid aside.  A step that
fails reports an error and the session goes on from wherever the step left the
cursor.
-/
import Sexpr.Parser.Nonterminal

namespace Sexpr
namespace Cursor

/-- The next `count` tokens and the cursor after them, if all are atoms, or the
cursor at the first that is not. -/
def atoms : Nat → Cursor → Except Cursor (List Token × Cursor)
  | 0, c => .ok ([], c)
  | n + 1, c =>
    match c.atom with
    | none => .error c
    | some (t, d) =>
      match atoms n d with
      | .error e => .error e
      | .ok (ts, e) => .ok (t :: ts, e)

end Cursor

namespace Parser

/-- Consumes `count` atoms, or nothing at all. -/
def atoms (count : Nat) : Parser (List Token) := fun c =>
  match c.atoms count with
  | .ok (ts, d) => (.ok ts, d)
  | .error d => (.error (d.unexpected s!"{count} atoms"), c)

end Parser

/-- What a session can be asked to do. -/
inductive Step where
  | literal (text : String)
  | atom
  | atoms (count : Nat)
  | nonterminal (n : Nonterminal)
  | fail (expected : String)
  | peekLiteral (text : String)
  | peekAtom
  | isEnd
  | current
  | afterLiteral (text : String)
  | save
  | restore
deriving DecidableEq

inductive Reply where
  | token (t : Token)
  | tokens (ts : List Token)
  | node (n : Node)
  | flag (b : Bool)
  | ahead (t : Option Token)
  | saved (count : Nat)
deriving DecidableEq

structure Session where
  cursor : Cursor
  saved : List Cursor
deriving DecidableEq

namespace Session

def ofTokens (tokens : List Token) : Session :=
  { cursor := Cursor.ofTokens tokens, saved := [] }

/-- Lets a parser work on the current cursor. -/
def run {α : Type} (p : Parser α) (reply : α → Reply) (s : Session) :
    Except ParseError Reply × Session :=
  let (answer, c) := p s.cursor
  (answer.map reply, { s with cursor := c })

/-- The reply to a question, which moves nothing. -/
def look (reply : Cursor → Reply) (s : Session) : Except ParseError Reply × Session :=
  (.ok (reply s.cursor), s)

def step (s : Session) : Step → Except ParseError Reply × Session
  | .literal text => s.run (Parser.literal text) .token
  | .atom => s.run Parser.atom .token
  | .atoms count => s.run (Parser.atoms count) .tokens
  | .nonterminal n => s.run n.parser .node
  | .fail expected => s.run (Parser.unexpected expected) .token
  | .peekLiteral text => s.look fun c => .flag (c.peekLiteral text)
  | .peekAtom => s.look fun c => .flag c.peekAtom
  | .isEnd => s.look fun c => .flag c.isEnd
  | .current => s.look fun c => .token c.token
  | .afterLiteral text => s.look fun c => .ahead ((c.literal text).map (·.2.token))
  | .save => (.ok (.saved (s.saved.length + 1)), { s with saved := s.cursor :: s.saved })
  | .restore =>
    match s.saved with
    | [] => (.ok (.flag false), s)
    | c :: saved => (.ok (.flag true), { cursor := c, saved := saved })

/-- All replies to a row of steps, each with the session it leaves. -/
def play (s : Session) : List Step → List (Except ParseError Reply × Session)
  | [] => []
  | step :: steps =>
    let (reply, t) := s.step step
    (reply, t) :: t.play steps

end Session
end Sexpr
