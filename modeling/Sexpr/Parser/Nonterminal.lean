import Sexpr.Node
import Sexpr.Parser.Grammar

namespace Sexpr

/-- The rules of the grammar by name. -/
inductive Nonterminal where
  | program
  | sexpr
  | list
  | seq
  | atom
deriving DecidableEq

namespace Nonterminal

/-- Reads one derivation of a nonterminal. -/
def parser : Nonterminal → Parser Node
  | program => Node.program <$> Parser.program
  | sexpr => Node.sexpr <$> Parser.sexpr
  | list => SExpr.production <$> Parser.list
  | seq => Node.seq <$> Parser.seq
  | atom => Node.atom <$> Parser.atom

end Nonterminal
end Sexpr
