import Sexpr.Text.Bytes
import Sexpr.Token.Rule

namespace Sexpr

inductive LexError where
  | unterminatedString (span : Span)
  | unrecognized (span : Span)
deriving DecidableEq

namespace LexError

def span : LexError → Span
  | .unterminatedString span | .unrecognized span => span

def message : LexError → String
  | .unterminatedString span => s!"unterminated string starting at offset {span.start}"
  | .unrecognized span => s!"unrecognized input at offset {span.start}"

end LexError

namespace Lexer

/-- The token of `lexeme`, which stands at byte `offset`. -/
def tokenAt (kind : Kind) (lexeme : List Char) (offset : Nat) : Token :=
  { kind := kind
    text := String.ofList lexeme
    span := { start := offset, stop := offset + Text.byteLength lexeme } }

/-- The error at the front of a text to which no rule applies.  A quote that
nothing closes is reported up to where the string got stuck. -/
def complaint (offset : Nat) : List Char → LexError
  | [] => .unrecognized { start := offset, stop := offset }
  | c :: r =>
    let seen := if c = '"' then r.take (Rule.stuck r) else []
    let span := { start := offset, stop := offset + Text.byteLength (c :: seen) }
    if c = '"' then .unterminatedString span else .unrecognized span

/-- The tokens of a text whose first character stands at byte `offset`.  Blank
characters are passed over one at a time; a token is taken by the first rule
that applies, and the rest is scanned from where it ends. -/
def scan (offset : Nat) (cs : List Char) : Except LexError (List Token) :=
  match cs with
  | [] => .ok []
  | c :: r =>
    if Text.isBlank c then scan (offset + c.utf8Size) r
    else
      match _h : Rule.first (c :: r) with
      | none => .error (complaint offset (c :: r))
      | some (kind, n) =>
        let token := tokenAt kind ((c :: r).take n) offset
        match scan token.span.stop ((c :: r).drop n) with
        | .error e => .error e
        | .ok tokens => .ok (token :: tokens)
termination_by cs.length
decreasing_by
  · simp
  · have := Rule.first_bounds ‹_›
    simp only [List.length_drop, List.length_cons]
    omega

end Lexer

/-- Cuts a source into tokens.  It fails at the first place where no token can be
recognized, and then there are no tokens at all. -/
def tokenize (source : String) : Except LexError (List Token) :=
  Lexer.scan 0 source.toList

end Sexpr
