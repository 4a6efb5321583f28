import Sexpr.Parser.Grammar
import Sexpr.Token.Lexer

namespace Sexpr

/-- What can be wrong with a source: its tokens, or their order. -/
inductive SourceError where
  | lexical (e : LexError)
  | syntactic (e : ParseError)
deriving DecidableEq

namespace SourceError

def message : SourceError → String
  | lexical e => e.message
  | syntactic e => e.message

def span : SourceError → Span
  | lexical e => e.span
  | syntactic e => e.span

end SourceError

def Program.ofSource (source : String) : Except SourceError Program :=
  match tokenize source with
  | .error e => .error (.lexical e)
  | .ok tokens =>
    match parse tokens with
    | .error e => .error (.syntactic e)
    | .ok p => .ok p

end Sexpr
