/-
Two texts joined into one.

The scan knows where it is only to say where tokens and errors are: started at a
later byte it finds the same, so much later.  With a boundary at the seam the
second text is scanned as it would be alone, and what comes of it, tokens or an
error, is moved by the bytes of the first.
-/
import Sexpr.Proofs.Lexing.Spelling

namespace Sexpr

open Text

def LexError.mapSpan (g : Span → Span) : LexError → LexError
  | .unterminatedString span => .unterminatedString (g span)
  | .unrecognized span => .unrecognized (g span)

namespace Lexer

/-- What a scan comes to, moved as a whole. -/
def moved (g : Span → Span) (r : Except LexError (List Token)) : Except LexError (List Token) :=
  (r.mapError (·.mapSpan g)).map (·.map (·.mapSpan g))

variable {g : Span → Span}

theorem moved_cons (t : Token) (r : Except LexError (List Token)) :
    moved g (r.map (t :: ·)) = (moved g r).map (t.mapSpan g :: ·) := by
  cases r <;> rfl

theorem tokenAt_shift (n : Nat) (kind : Kind) (lexeme : List Char) (offset : Nat) :
    tokenAt kind lexeme (n + offset) = (tokenAt kind lexeme offset).mapSpan (·.shift n) := by
  simp only [tokenAt, Token.mapSpan, Span.shift, Nat.add_assoc]

theorem complaint_shift (n offset : Nat) (c : Char) (r : List Char) :
    complaint (n + offset) (c :: r) = (complaint offset (c :: r)).mapSpan (·.shift n) := by
  simp only [complaint, Nat.add_assoc]
  split <;> rfl

theorem scan_shift (n offset : Nat) (cs : List Char) :
    scan (n + offset) cs = moved (·.shift n) (scan offset cs) := by
  induction offset, cs using scan_induction with
  | nil offset =>
      rw [scan_nil, scan_nil]
      rfl
  | blank offset c r hc ih =>
      rw [scan_blank hc, scan_blank hc, Nat.add_assoc, ih]
  | stuck offset c r hc hf =>
      rw [scan_stuck hc hf, scan_stuck hc hf, complaint_shift]
      rfl
  | token offset c r kind n' hc hf ih =>
      rw [scan_token hc hf, scan_token hc hf, moved_cons, ← ih, tokenAt_shift]
      rfl

end Lexer

/-- The tokens of two texts that meet at a boundary. -/
theorem tokenize_append {a b : String} {ts : List Token} (ha : tokenize a = .ok ts)
    (hab : Boundary a.toList b.toList) :
    tokenize (a ++ b) =
      (Lexer.moved (·.shift a.utf8ByteSize) (tokenize b)).map (ts ++ ·) := by
  have hscan := Lexer.scan_append ha hab
  rw [Nat.zero_add, byteLength_toList] at hscan
  have hshift := Lexer.scan_shift a.utf8ByteSize 0 b.toList
  rw [Nat.add_zero] at hshift
  rw [tokenize, String.toList_append, hscan, hshift, tokenize]

/-- Where no word runs from one text into the next, the tokens of both are those of the
first and then those of the second, moved by the bytes of the first.  An error in the
second is moved likewise. -/
theorem tokenize_compositional {a b : String} {ts : List Token} (ha : tokenize a = .ok ts)
    (hab : Boundary a.toList b.toList) :
    (∀ us, tokenize b = .ok us →
      tokenize (a ++ b) = .ok (ts ++ us.map (·.mapSpan (·.shift a.utf8ByteSize)))) ∧
    ∀ e, tokenize b = .error e →
      tokenize (a ++ b) = .error (e.mapSpan (·.shift a.utf8ByteSize)) := by
  have happend := tokenize_append ha hab
  constructor
  · intro us hb
    rw [happend, hb]
    rfl
  · intro e hb
    rw [happend, hb]
    rfl

/-- A quote behind a number, in a string that is closed and in one that gets stuck. -/
theorem tokenize_compositional_at_quote :
    Boundary "é 1".toList "\"x\".5".toList ∧ Boundary "é 1".toList "\"x\\\n".toList ∧
    tokenize ("é 1" ++ "\"x\".5") = .ok [⟨.id, "é", ⟨0, 2⟩⟩, ⟨.int, "1", ⟨3, 4⟩⟩,
      ⟨.string, "\"x\"", ⟨4, 7⟩⟩, ⟨.real, ".5", ⟨7, 9⟩⟩] ∧
    tokenize ("é 1" ++ "\"x\\\n") = .error (.unterminatedString ⟨4, 6⟩) := by
  have ha : tokenize "é 1" = .ok [⟨.id, "é", ⟨0, 2⟩⟩, ⟨.int, "1", ⟨3, 4⟩⟩] := by decide +kernel
  have hb : tokenize "\"x\".5" =
      .ok [⟨.string, "\"x\"", ⟨0, 3⟩⟩, ⟨.real, ".5", ⟨3, 5⟩⟩] := by decide +kernel
  have hstuck : tokenize "\"x\\\n" = .error (.unterminatedString ⟨0, 2⟩) := by decide +kernel
  have hab : Boundary "é 1".toList "\"x\".5".toList := Boundary.of_head Rule.isWordChar_quote _
  have hab' : Boundary "é 1".toList "\"x\\\n".toList := Boundary.of_head Rule.isWordChar_quote _
  exact ⟨hab, hab', (tokenize_compositional ha hab).1 _ hb,
    (tokenize_compositional ha hab').2 _ hstuck⟩

end Sexpr
