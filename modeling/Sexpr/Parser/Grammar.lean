/-
The grammar.

  Program = { SExpr }
  SExpr   = Atom | List
  List    = "(" ")" | "(" Seq ")"
  Seq     = SExpr Seq | SExpr
  Atom    = ID | INT | REAL | STRING

One token of lookahead decides every choice, so nothing is ever taken back.  The
choice between atom and list looks at the kind of the token, the parentheses are
consumed by their text, a list ends at a `)` of kind literal, and a program ends
at a token of kind end.  On tokens that a source gives rise to these tests say
the same, on others they may not.
-/
import Sexpr.Parser.Progress
import Sexpr.Tree

namespace Sexpr
namespace Parser

mutual
def sexprFrom (c : Cursor) : Progress 1 SExpr c :=
  if c.peekAtom then
    Progress.bind (Progress.ofAtom c) fun t d _ => Progress.pure (.atom t) d
  else
    -- A token that starts nothing is left to the list, which reports it.
    listFrom c
termination_by 3 * c.rest.length + 1

def listFrom (c : Cursor) : Progress 1 SExpr c :=
  ((Progress.bind (Progress.ofLiteral "(" (by decide) c) fun opening d _ =>
    Progress.bind (itemsFrom d) fun items e _ =>
      Progress.bind (Progress.ofLiteral ")" (by decide) e) fun closing f _ =>
        Progress.pure (SExpr.list opening items closing) f) :
    Progress (1 + (0 + (1 + 0))) SExpr c).weaken (by decide)
termination_by 3 * c.rest.length

/-- The s-expressions up to the `)` that ends a list. -/
def itemsFrom (c : Cursor) : Progress 0 (List SExpr) c :=
  if c.peekLiteral ")" then Progress.pure [] c
  else
    ((Progress.bind (sexprFrom c) fun x d _ =>
      Progress.bind (itemsFrom d) fun xs e _ => Progress.pure (x :: xs) e) :
      Progress (1 + (0 + 0)) (List SExpr) c).weaken (by decide)
termination_by 3 * c.rest.length + 2
end

/-- The s-expressions up to the end of the input. -/
def exprsFrom (c : Cursor) : Progress 0 (List SExpr) c :=
  if c.isEnd then Progress.pure [] c
  else
    ((Progress.bind (sexprFrom c) fun x d _ =>
      Progress.bind (exprsFrom d) fun xs e _ => Progress.pure (x :: xs) e) :
      Progress (1 + (0 + 0)) (List SExpr) c).weaken (by decide)
termination_by c.rest.length

def sexpr : Parser SExpr := fun c => (sexprFrom c).answer

def list : Parser SExpr := fun c => (listFrom c).answer

def items : Parser (List SExpr) := fun c => (itemsFrom c).answer

def exprs : Parser (List SExpr) := fun c => (exprsFrom c).answer

/-- At least one s-expression, and then all up to the `)` that ends the list. -/
def seq : Parser Sequence := do
  let head ← sexpr
  let tail ← items
  return { head := head, tail := tail }

def program : Parser Program := do
  return { exprs := ← exprs }

/- What the nonterminals do, with the bookkeeping of `Progress` gone.  Nothing
else needs to look inside their definitions. -/

theorem sexpr_eq (c : Cursor) :
    sexpr c = if c.peekAtom then (SExpr.atom <$> atom) c else list c := by
  rw [sexpr, sexprFrom]
  split
  · exact Progress.answer_bind _ _ rfl fun _ _ _ => rfl
  · rfl

theorem list_eq :
    list = (do
      let opening ← literal "("
      let items ← items
      let closing ← literal ")"
      return SExpr.list opening items closing) := by
  funext c
  rw [list, listFrom]
  exact Progress.answer_bind _ _ rfl fun _ _ _ =>
    Progress.answer_bind _ _ rfl fun _ _ _ => Progress.answer_bind _ _ rfl fun _ _ _ => rfl

theorem items_eq (c : Cursor) :
    items c = if c.peekLiteral ")" then (.ok [], c)
      else (do let x ← sexpr; let xs ← items; return x :: xs : Parser (List SExpr)) c := by
  rw [items, itemsFrom]
  split
  · rfl
  · exact Progress.answer_bind _ _ rfl fun _ _ _ => Progress.answer_bind _ _ rfl fun _ _ _ => rfl

theorem exprs_eq (c : Cursor) :
    exprs c = if c.isEnd then (.ok [], c)
      else (do let x ← sexpr; let xs ← exprs; return x :: xs : Parser (List SExpr)) c := by
  rw [exprs, exprsFrom]
  split
  · rfl
  · exact Progress.answer_bind _ _ rfl fun _ _ _ => Progress.answer_bind _ _ rfl fun _ _ _ => rfl

end Parser

/-- Reads all of `tokens` as a program. -/
def parse (tokens : List Token) : Except ParseError Program :=
  (Parser.program (Cursor.ofTokens tokens)).1

end Sexpr
