/-
Reading sources.

A source is read as the one program of the grammar that has its tokens.  Reading is
done with a program before it looks at what follows it: where no word runs on, a second
source behind the first is read as it would be alone, and the expressions or the error
found in it are moved by the bytes of the first.
-/
import Sexpr.Node
import Sexpr.Source
import Sexpr.Proofs.Lexing.Seam
import Sexpr.Proofs.Lexing.Spacing
import Sexpr.Proofs.Parsing.Relocation

namespace Sexpr

def SourceError.mapSpan (g : Span → Span) : SourceError → SourceError
  | .lexical e => .lexical (e.mapSpan g)
  | .syntactic e => .syntactic (e.mapSpan g)

namespace Program

theorem ofSource_of_lexError {source : String} {e : LexError} (h : tokenize source = .error e) :
    ofSource source = .error (.lexical e) := by
  rw [ofSource, h]

theorem ofSource_of_tokens {source : String} {ts : List Token} (h : tokenize source = .ok ts) :
    ofSource source = (parse ts).mapError .syntactic := by
  rw [ofSource, h]
  dsimp only
  cases parse ts <;> rfl

theorem ofSource_eq_ok {source : String} {p : Program} :
    ofSource source = .ok p ↔ ∃ ts, tokenize source = .ok ts ∧ parse ts = .ok p := by
  constructor
  · intro h
    cases hts : tokenize source with
    | error e =>
        rw [ofSource_of_lexError hts] at h
        exact nomatch h
    | ok ts =>
        rw [ofSource_of_tokens hts] at h
        cases hp : parse ts with
        | error e =>
            rw [hp] at h
            exact nomatch h
        | ok q =>
            rw [hp] at h
            obtain rfl := Except.ok.inj h
            exact ⟨ts, rfl, hp⟩
  · rintro ⟨ts, hts, hp⟩
    rw [ofSource_of_tokens hts, hp]
    rfl

/-- A source is read as the program of the grammar that has its tokens. -/
theorem ofSource_eq_ok_iff_tokens {source : String} {p : Program} :
    ofSource source = .ok p ↔ p.Shaped ∧ tokenize source = .ok p.tokens := by
  rw [ofSource_eq_ok]
  constructor
  · rintro ⟨ts, hts, hp⟩
    have hplain := kind_ne_endMark_of_tokenize hts
    obtain ⟨hshaped, rfl⟩ := (Parser.parse_eq_ok_of_no_endMark hplain p).1 hp
    exact ⟨hshaped, hts⟩
  · rintro ⟨hshaped, hts⟩
    have hplain := kind_ne_endMark_of_tokenize hts
    exact ⟨p.tokens, hts, (Parser.parse_eq_ok_of_no_endMark hplain p).2 ⟨hshaped, rfl⟩⟩

/-- A program that was read is one of the grammar, made of tokens of the lexer. -/
theorem shaped_of_ofSource {source : String} {p : Program} (h : ofSource source = .ok p) :
    p.Shaped ∧ ∀ t ∈ p.tokens, t.Lexed := by
  obtain ⟨hshaped, hts⟩ := ofSource_eq_ok_iff_tokens.1 h
  exact ⟨hshaped, fun t ht => Token.lexed_of_tokenize hts ht⟩

/-! ## Sources behind one another -/

theorem append_nil (p : Program) : p ++ ({ exprs := [] } : Program) = p :=
  congrArg Program.mk (List.append_nil p.exprs)

theorem ofSource_of_no_tokens {source : String} (h : tokenize source = .ok []) :
    ofSource source = .ok { exprs := [] } :=
  ofSource_eq_ok_iff_tokens.2 ⟨SExpr.allShaped_nil, h⟩

theorem ofSource_blank {u : String} (hu : Blank u) : ofSource u = .ok { exprs := [] } := by
  have hscan := Lexer.scan_blanks hu 0 []
  rw [List.append_nil, Lexer.scan_nil] at hscan
  exact ofSource_of_no_tokens hscan

/-- Sources that meet at a boundary are read one after the other. -/
theorem ofSource_append {a b : String} {p : Program} (ha : ofSource a = .ok p)
    (hab : Boundary a.toList b.toList) :
    ofSource (a ++ b) =
      ((ofSource b).mapError (·.mapSpan (·.shift a.utf8ByteSize))).map
        (p ++ ·.mapSpan (·.shift a.utf8ByteSize)) := by
  obtain ⟨hshaped, hts⟩ := ofSource_eq_ok_iff_tokens.1 ha
  have hstarted := Parser.started_of_tokens (kind_ne_endMark_of_tokenize hts)
  have happend := tokenize_append hts hab
  cases hb : tokenize b with
  | error e =>
      rw [hb] at happend
      rw [ofSource_of_lexError happend, ofSource_of_lexError hb]
      rfl
  | ok us =>
      rw [hb] at happend
      by_cases hne : us = []
      · -- The end marker stays behind the first source, and nothing is left to be read.
        subst hne
        have hp : tokenize (a ++ b) = .ok p.tokens := happend.trans (congrArg _ (List.append_nil _))
        rw [ofSource_eq_ok_iff_tokens.2 ⟨hshaped, hp⟩, ofSource_of_no_tokens hb]
        exact congrArg Except.ok (append_nil p).symm
      · have hparse := parse_append_mapSpan hshaped hstarted (g := (·.shift a.utf8ByteSize))
          (fun _ => rfl) hne
        rw [ofSource_of_tokens happend, ofSource_of_tokens hb, hparse]
        cases parse us <;> rfl

theorem ofSource_append_blank {a u : String} {p : Program} (ha : ofSource a = .ok p)
    (hu : Blank u) : ofSource (a ++ u) = .ok p := by
  rw [ofSource_append ha hu.boundary_left, ofSource_blank hu]
  exact congrArg Except.ok (append_nil p)

end Program

/-- A source that is read as one s-expression. -/
structure Single where
  source : String
  expr : SExpr
  read : Program.ofSource source = .ok { exprs := [expr] }

namespace Single

/-- The text of sources in a row, each with a gap behind it. -/
def joined : List (Single × String) → String
  | [] => ""
  | (x, gap) :: row => x.source ++ gap ++ joined row

/-- The s-expressions of sources in a row, each at the place it has in the row. -/
def placed : List (Single × String) → List SExpr
  | [] => []
  | (x, gap) :: row =>
    x.expr :: SExpr.mapAll (Token.mapSpan (·.shift (x.source ++ gap).utf8ByteSize)) (placed row)

/-- Whether the sources of a row are kept apart.  The last gap may be empty. -/
structure Apart (row : List (Single × String)) : Prop where
  blank : ∀ p ∈ row, Blank p.2
  nonempty : ∀ p ∈ row.dropLast, p.2 ≠ ""

variable {x : Single} {gap : String} {row : List (Single × String)}

theorem Apart.tail (h : Apart ((x, gap) :: row)) : Apart row where
  blank p hp := h.blank p (List.mem_cons_of_mem _ hp)
  nonempty p hp := by
    refine h.nonempty p ?_
    cases row with
    | nil => exact absurd hp List.not_mem_nil
    | cons q row => exact List.mem_cons_of_mem _ hp

theorem Apart.boundary (h : Apart ((x, gap) :: row)) :
    Boundary (x.source ++ gap).toList (joined row).toList := by
  cases row with
  | nil => exact fun _ _ d hd => nomatch hd
  | cons q row =>
      have hgap : Gap gap.toList := by
        refine ⟨?_, h.blank (x, gap) List.mem_cons_self⟩
        rw [Ne, String.toList_eq_nil_iff]
        exact h.nonempty (x, gap) List.mem_cons_self
      rw [String.toList_append]
      exact hgap.boundary_right

theorem ofSource_joined (h : Apart row) :
    Program.ofSource (joined row) = .ok { exprs := placed row } := by
  induction row with
  | nil => exact Program.ofSource_of_no_tokens (Lexer.scan_nil 0)
  | cons p row ih =>
      obtain ⟨x, gap⟩ := p
      have hx := Program.ofSource_append_blank x.read (h.blank (x, gap) List.mem_cons_self)
      rw [joined, Program.ofSource_append hx h.boundary, ih h.tail]
      rfl

/-- Up to their places the s-expressions of the row are those of the sources. -/
theorem unplaced_placed (row : List (Single × String)) :
    (placed row).map SExpr.unplaced = row.map (·.1.expr.unplaced) := by
  induction row with
  | nil => rfl
  | cons p row ih =>
      obtain ⟨x, gap⟩ := p
      have hmoved (g : Span → Span) (xs : List SExpr) :
          (SExpr.mapAll (Token.mapSpan g) xs).map SExpr.unplaced = xs.map SExpr.unplaced := by
        rw [SExpr.mapAll_eq_map, List.map_map]
        exact List.map_congr_left fun x _ => SExpr.unplaced_mapTokens_mapSpan g x
      rw [placed, List.map_cons, List.map_cons, hmoved, ih]

end Single

/-- Sources that are kept apart are read as their programs side by side, each where it
stands, and an error in the last is found where it stands.  So sources of one
s-expression each make a program of just these s-expressions in this order. -/
theorem programs_concatenate :
    (∀ (a u b : String) (p : Program), Program.ofSource a = .ok p → Gap u.toList →
      (∀ q, Program.ofSource b = .ok q →
        Program.ofSource (a ++ u ++ b) = .ok (p ++ q.mapSpan (·.shift (a ++ u).utf8ByteSize))) ∧
      ∀ e, Program.ofSource b = .error e →
        Program.ofSource (a ++ u ++ b) = .error (e.mapSpan (·.shift (a ++ u).utf8ByteSize))) ∧
    ∀ row : List (Single × String), Single.Apart row →
      ∃ q, Program.ofSource (Single.joined row) = .ok q ∧
        (Node.program q).children = (Single.placed row).map Node.sexpr ∧
        (Single.placed row).map SExpr.unplaced = row.map (·.1.expr.unplaced) := by
  constructor
  · intro a u b p ha hu
    have hfront := Program.ofSource_append_blank ha hu.2
    have hab : Boundary (a ++ u).toList b.toList := by
      rw [String.toList_append]
      exact hu.boundary_right
    have happend := Program.ofSource_append hfront hab
    constructor
    · intro q hb
      rw [happend, hb]
      rfl
    · intro e hb
      rw [happend, hb]
      rfl
  · intro row h
    exact ⟨_, Single.ofSource_joined h, rfl, Single.unplaced_placed row⟩

/-- A list left open behind another source, and two sources of one s-expression each. -/
theorem programs_concatenate_at_open_list :
    Gap "\n".toList ∧
    Program.ofSource ("é" ++ "\n" ++ "(x") = .error (.syntactic ⟨"", .endMark, "`(`", ⟨5, 5⟩⟩) ∧
    ∃ q, Program.ofSource "(é)\nx" = .ok q ∧ (Node.program q).children.length = 2 := by
  have ha : Program.ofSource "é" = .ok { exprs := [.atom ⟨.id, "é", ⟨0, 2⟩⟩] } := by decide +kernel
  have hb : Program.ofSource "(x" = .error (.syntactic ⟨"", .endMark, "`(`", ⟨2, 2⟩⟩) := by decide +kernel
  have hblank : Blank "\n" ∧ Blank "" := by decide
  have hu : Gap "\n".toList := ⟨by simp, hblank.1⟩
  let list : Single :=
    { source := "(é)"
      expr := .list ⟨.literal, "(", ⟨0, 1⟩⟩ [.atom ⟨.id, "é", ⟨1, 3⟩⟩] ⟨.literal, ")", ⟨3, 4⟩⟩
      read := by decide +kernel }
  let word : Single :=
    { source := "x"
      expr := .atom ⟨.id, "x", ⟨0, 1⟩⟩
      read := by decide +kernel }
  have happart : Single.Apart [(list, "\n"), (word, "")] :=
    { blank := by simpa using hblank
      nonempty := by simp }
  obtain ⟨q, hq, hchildren, -⟩ := programs_concatenate.2 _ happart
  refine ⟨hu, (programs_concatenate.1 _ _ _ _ ha hu).2 _ hb, q, hq, ?_⟩
  rw [hchildren]
  rfl

end Sexpr
