/-
What the stages of a command do.

A command goes through stages, each of which writes and logs something and comes to a
result.  What was written before only stands in front of it, so a stage is known by what it
adds.  Stages in a row add up, until one of them fails.
-/
import Sexpr.CommandLine.Run

namespace Sexpr
namespace CommandLine

/-- Whether a stage comes to `r` when it has written `text` and logged `entries`, whatever
there was before. -/
def Run.Ends {α : Type} (x : Run α) (r : Except Failure α) (text : String)
    (entries : List Record) : Prop :=
  ∀ t : Transcript, x.run.run t = (r, { output := t.output ++ text, log := t.log ++ entries })

namespace Run

variable {α β : Type} {x : Run α} {f : α → Run β} {a : α} {e : Failure} {r : Except Failure β}
  {text : String} {entries entries' : List Record}

/-- A stage that succeeds without writing anything only adds to the log. -/
theorem Ends.bind_ok (hx : x.Ends (.ok a) "" entries) (hf : (f a).Ends r text entries') :
    (x >>= f).Ends r text (entries ++ entries') := by
  intro t
  rw [ExceptT.run_bind, StateT.run_bind, hx t]
  show (f a).run.run _ = _
  rw [hf, String.append_empty, List.append_assoc]

/-- After a stage that fails nothing is done. -/
theorem Ends.bind_error (hx : x.Ends (.error e) text entries) :
    (x >>= f).Ends (.error e) text entries := by
  intro t
  rw [ExceptT.run_bind, StateT.run_bind, hx t]
  rfl

theorem write_ends (text : String) : (write text).Ends (.ok ()) text [] := by
  intro t
  show (Except.ok (), { t with output := t.output ++ text }) = _
  rw [List.append_nil]

theorem log_ends (entry : Record) : (log entry).Ends (.ok ()) "" [entry] := by
  intro t
  show (Except.ok (), { t with log := t.log ++ [entry] }) = _
  rw [String.append_empty]

/-! ## Reading the source -/

variable {source : String} {ts : List Token} {p : Program}

theorem tokenize_ends (h : Sexpr.tokenize source = .ok ts) :
    (tokenize source).Ends (.ok ts) ""
      [lexerRecord "tokenized input" "tokens" (toString ts.length)] := by
  intro t
  rw [tokenize, h, String.append_empty]
  rfl

theorem tokenize_ends_of_error {e : LexError} (h : Sexpr.tokenize source = .error e) :
    (tokenize source).Ends (.error (.invalid (.lexical e))) ""
      [lexerRecord "tokenize failed" "error" e.message] := by
  intro t
  rw [tokenize, h, String.append_empty]
  rfl

theorem parse_ends (h : Sexpr.parse ts = .ok p) :
    (parse ts).Ends (.ok p) "" [parserRecord "parsed program" "expressions" (toString p.size)] := by
  intro t
  rw [parse, h, String.append_empty]
  rfl

theorem parse_ends_of_error {e : ParseError} (h : Sexpr.parse ts = .error e) :
    (parse ts).Ends (.error (.invalid (.syntactic e))) ""
      [parserRecord "parse failed" "error" e.message] := by
  intro t
  rw [parse, h, String.append_empty]
  rfl

/- Commands that need a program read it like this and write afterwards, or not at all. -/

theorem read_ends {f : Program → Run β} (hts : Sexpr.tokenize source = .ok ts)
    (hp : Sexpr.parse ts = .ok p) (hf : (f p).Ends r text entries) :
    (do let p ← parse (← tokenize source); f p).Ends r text
      ([lexerRecord "tokenized input" "tokens" (toString ts.length)] ++
        ([parserRecord "parsed program" "expressions" (toString p.size)] ++ entries)) :=
  (tokenize_ends hts).bind_ok ((parse_ends hp).bind_ok hf)

theorem read_ends_of_lexError {e : LexError} (h : Sexpr.tokenize source = .error e)
    (f : Program → Run β) :
    (do let p ← parse (← tokenize source); f p).Ends (.error (.invalid (.lexical e))) ""
      [lexerRecord "tokenize failed" "error" e.message] :=
  (tokenize_ends_of_error h).bind_error

theorem read_ends_of_parseError {e : ParseError} (hts : Sexpr.tokenize source = .ok ts)
    (h : Sexpr.parse ts = .error e) (f : Program → Run β) :
    (do let p ← parse (← tokenize source); f p).Ends (.error (.invalid (.syntactic e))) ""
      ([lexerRecord "tokenized input" "tokens" (toString ts.length)] ++
        [parserRecord "parse failed" "error" e.message]) :=
  (tokenize_ends hts).bind_ok (parse_ends_of_error h).bind_error

end Run

/-- What a result says about failing. -/
def Failure.ofResult? {α : Type} : Except Failure α → Option Failure
  | .ok _ => none
  | .error e => some e

/-- The report of a command on a source it was given. -/
theorem Invocation.run_of_ends {i : Invocation} {source text : String}
    {r : Except Failure Unit} {entries : List Record}
    (h : (i.command.run source).Ends r text entries) :
    i.run (.ok source) = { output := text, log := entries, failure := Failure.ofResult? r } := by
  have hrun := h { output := "", log := [] }
  rw [String.empty_append, List.nil_append] at hrun
  unfold Invocation.run
  simp only [hrun]
  cases r <;> rfl

end CommandLine
end Sexpr
