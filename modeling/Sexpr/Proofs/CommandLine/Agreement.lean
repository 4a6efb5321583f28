/-
How the commands agree.

All commands read their source in the same two stages, so they come to the same faults and
report them alike.  Only the check writes anything before it has read everything.  What it
has written by then is the head of its report, and after the first stage the section of the
tokens; a report that is complete holds what the two commands for tokens and tree write.
-/
import Sexpr.Proofs.CommandLine.Stage
import Sexpr.Proofs.Parsing.Reading

namespace Sexpr
namespace CommandLine
namespace Run

variable {α : Type} {source text : String} {ts : List Token} {p : Program}
  {entries : List Record} {r : Except Failure α}

/-- The head of a check report: a rule of fifty equal signs, the source, and a rule of fifty
dashes. -/
def header (source : String) : String :=
  String.ofList (List.replicate 50 '=') ++ "\n" ++ ("Input: " ++ source ++ "\n") ++
    (String.ofList (List.replicate 50 '-') ++ "\n")

/-- A section of a check report: its title, its body between two rules of fifty dashes. -/
def titled (title body : String) : String :=
  title ++ "\n" ++ (String.ofList (List.replicate 50 '-') ++ "\n") ++ body ++
    (String.ofList (List.replicate 50 '-') ++ "\n")

theorem header_eq (source : String) :
    header source =
      rule '=' ++ "\n" ++ ("Input: " ++ source ++ "\n") ++ (rule '-' ++ "\n") := rfl

theorem titled_eq (title body : String) :
    titled title body =
      title ++ "\n" ++ (rule '-' ++ "\n") ++ body ++ (rule '-' ++ "\n") := rfl

theorem header_ends {next : Run α} (h : next.Ends r text entries) :
    (do writeLine (rule '=')
        writeLine ("Input: " ++ source)
        writeLine (rule '-')
        next).Ends r (header source ++ text) entries := by
  intro t
  show next.run.run { t with
    output := t.output ++ (rule '=' ++ "\n") ++ ("Input: " ++ source ++ "\n") ++
      (rule '-' ++ "\n") } = _
  rw [h]
  simp only [header_eq, String.append_assoc]

theorem titled_ends (title body : String) {next : Run α} (h : next.Ends r text entries) :
    (do writeLine title
        writeLine (rule '-')
        write body
        writeLine (rule '-')
        next).Ends r (titled title body ++ text) entries := by
  intro t
  show next.run.run { t with
    output := t.output ++ (title ++ "\n") ++ (rule '-' ++ "\n") ++ body ++ (rule '-' ++ "\n") } = _
  rw [h]
  simp only [titled_eq, String.append_assoc]

/-! ## The check, by how far it gets -/

theorem check_ends (hts : Sexpr.tokenize source = .ok ts) (hp : Sexpr.parse ts = .ok p) :
    ∃ entries, (check source).Ends (.ok ())
      (header source ++ titled "Tokens" (tokenTable ts) ++ titled "Parse Tree" (Node.program p).dump)
      entries := by
  have hend : (do let p ← parse ts
                  writeLine "Parse Tree"
                  writeLine (rule '-')
                  write (Node.program p).dump
                  writeLine (rule '-')
                  log (checkRecord "check passed" "expressions" (toString p.size))).Ends _ _ _ :=
    (parse_ends hp).bind_ok (titled_ends _ _ (log_ends _))
  have h : (check source).Ends _ _ _ :=
    header_ends ((tokenize_ends hts).bind_ok (titled_ends _ _ hend))
  rw [String.append_empty, ← String.append_assoc] at h
  exact ⟨_, h⟩

theorem check_ends_of_lexError {e : LexError} (h : Sexpr.tokenize source = .error e) :
    ∃ entries, (check source).Ends (.error (.invalid (.lexical e))) (header source) entries := by
  have h : (check source).Ends _ _ _ := header_ends (tokenize_ends_of_error h).bind_error
  rw [String.append_empty] at h
  exact ⟨_, h⟩

theorem check_ends_of_parseError {e : ParseError} (hts : Sexpr.tokenize source = .ok ts)
    (h : Sexpr.parse ts = .error e) :
    ∃ entries, (check source).Ends (.error (.invalid (.syntactic e)))
      (header source ++ titled "Tokens" (tokenTable ts)) entries := by
  have h : (check source).Ends _ _ _ :=
    header_ends ((tokenize_ends hts).bind_ok (titled_ends _ _ (parse_ends_of_error h).bind_error))
  rw [String.append_empty] at h
  exact ⟨_, h⟩

end Run

theorem Failure.ofResult?_error {ε α β : Type} (e : ε) (g : ε → Failure) (f : Failure) :
    ofResult? (.error (g e) : Except Failure β) = some f ↔
      ∃ e', (.error e : Except ε α) = .error e' ∧ f = g e' := by
  constructor
  · intro h
    exact ⟨e, rfl, (Option.some.inj h).symm⟩
  · intro h
    obtain ⟨e', he, rfl⟩ := h
    rw [Except.error.inj he]
    rfl

theorem Invocation.run_of_exists_ends {i : Invocation} {source text : String}
    {r : Except Failure Unit} (h : ∃ entries, (i.command.run source).Ends r text entries) :
    (i.run (.ok source)).output = text ∧ (i.run (.ok source)).failure = Failure.ofResult? r := by
  obtain ⟨entries, h⟩ := h
  rw [run_of_ends h]
  exact ⟨rfl, rfl⟩

end CommandLine

open CommandLine Run in
/-- All commands agree on every source.  Those that need a program fail where it cannot be
read, with the error of reading it, and the tokens are written unless the source cannot be
cut into them.  A failing command has written nothing, but for the check, which has written
what it knew by then.  A complete check report holds the tokens and the tree as the other
two commands write them. -/
theorem commands_agree (source : String) (width verbosity : Nat) (input : Input) :
    let report (c : Command) : Report := Invocation.run ⟨verbosity, c, input⟩ (.ok source)
    (∀ f, (report .tree).failure = some f ↔
      ∃ e, Program.ofSource source = .error e ∧ f = .invalid e) ∧
    (report .check).failure = (report .tree).failure ∧
    (report (.format width)).failure = (report .tree).failure ∧
    (∀ f, (report .tokens).failure = some f ↔
      ∃ e, tokenize source = .error e ∧ f = .invalid (.lexical e)) ∧
    (∀ c ∈ [Command.tokens, .tree, .format width],
      (report c).failure ≠ none → (report c).output = "") ∧
    (∀ e, tokenize source = .error e → (report .check).output = header source) ∧
    (∀ ts e, tokenize source = .ok ts → parse ts = .error e →
      (report .check).output = header source ++ titled "Tokens" (report .tokens).output) ∧
    ((report .check).failure = none →
      (report .check).output = header source ++ titled "Tokens" (report .tokens).output ++
        titled "Parse Tree" (report .tree).output) := by
  intro report
  have hreport (c : Command) {r : Except Failure Unit} {text : String}
      (h : ∃ entries, (c.run source).Ends r text entries) :
      (report c).output = text ∧ (report c).failure = Failure.ofResult? r :=
    Invocation.run_of_exists_ends h
  -- There are three outcomes, by the stage that fails, and in each all commands are known.
  cases hts : tokenize source with
  | error e =>
      obtain ⟨hcheck, hcheck'⟩ := hreport .check (check_ends_of_lexError hts)
      obtain ⟨htokens, htokens'⟩ := hreport .tokens ⟨_, (tokenize_ends_of_error hts).bind_error⟩
      obtain ⟨htree, htree'⟩ := hreport .tree ⟨_, read_ends_of_lexError hts _⟩
      obtain ⟨hformat, hformat'⟩ := hreport (.format width) ⟨_, read_ends_of_lexError hts _⟩
      rw [Program.ofSource_of_lexError hts, htree', htokens', hcheck']
      refine ⟨Failure.ofResult?_error (.lexical e) .invalid, rfl, hformat',
        Failure.ofResult?_error e (fun e => .invalid (.lexical e)), ?_, fun _ _ => hcheck, nofun,
        nofun⟩
      simp only [List.forall_mem_cons, htokens, htree, hformat, implies_true, List.not_mem_nil,
        false_implies, and_self]
  | ok ts =>
      obtain ⟨htokens, htokens'⟩ :=
        hreport .tokens ⟨_, (tokenize_ends hts).bind_ok (write_ends (tokenTable ts))⟩
      -- The command for tokens does not fail any more.
      have htokens_ok (h : (report .tokens).failure ≠ none) : (report .tokens).output = "" :=
        absurd htokens' h
      rw [Program.ofSource_of_tokens hts, htokens', htokens]
      cases hp : parse ts with
      | error e =>
          obtain ⟨hcheck, hcheck'⟩ := hreport .check (check_ends_of_parseError hts hp)
          obtain ⟨htree, htree'⟩ := hreport .tree ⟨_, read_ends_of_parseError hts hp _⟩
          obtain ⟨hformat, hformat'⟩ := hreport (.format width) ⟨_, read_ends_of_parseError hts hp _⟩
          rw [htree', hcheck']
          refine ⟨Failure.ofResult?_error (.syntactic e) .invalid, rfl, hformat',
            fun f => ⟨nofun, nofun⟩, ?_, nofun, ?_, nofun⟩
          · simp only [List.forall_mem_cons, htree, hformat, implies_true, List.not_mem_nil,
              false_implies, and_self, and_true]
            exact htokens_ok
          · intro us d hus _
            obtain rfl := Except.ok.inj hus
            exact hcheck
      | ok p =>
          obtain ⟨hcheck, hcheck'⟩ := hreport .check (check_ends hts hp)
          obtain ⟨htree, htree'⟩ := hreport .tree ⟨_, read_ends hts hp (write_ends _)⟩
          obtain ⟨hformat, hformat'⟩ := hreport (.format width) ⟨_, read_ends hts hp (write_ends _)⟩
          rw [htree', hcheck', htree]
          refine ⟨fun f => ⟨nofun, nofun⟩, rfl, hformat', fun f => ⟨nofun, nofun⟩, ?_, nofun, ?_,
            fun _ => hcheck⟩
          · simp only [List.forall_mem_cons, List.not_mem_nil, false_implies, implies_true, and_true]
            exact ⟨htokens_ok, fun h => absurd htree' h, fun h => absurd hformat' h⟩
          · intro us d hus hd
            obtain rfl := Except.ok.inj hus
            exact nomatch hp.symm.trans hd

open CommandLine Run in
/-- The three outcomes: a list that is complete, one that is never closed, and a string that
is not. -/
theorem commands_agree_on_stages :
    let report (c : Command) (source : String) : Report :=
      Invocation.run ⟨0, c, .text source⟩ (.ok source)
    (report .check "()").failure = none ∧
    (report .check "()").output = "\n".intercalate
      ["==================================================",
       "Input: ()",
       "--------------------------------------------------",
       "Tokens",
       "--------------------------------------------------",
       "LITERAL              \t: (",
       "LITERAL              \t: )",
       "--------------------------------------------------",
       "Parse Tree",
       "--------------------------------------------------",
       "Program                                    ",
       "  SExpr                                    ",
       "    List                                   ",
       "      LITERAL                              (",
       "      LITERAL                              )",
       "--------------------------------------------------",
       ""] ∧
    (report .check "(").output = "\n".intercalate
      ["==================================================",
       "Input: (",
       "--------------------------------------------------",
       "Tokens",
       "--------------------------------------------------",
       "LITERAL              \t: (",
       "--------------------------------------------------",
       ""] ∧
    (report .check "\"").output = "\n".intercalate
      ["==================================================",
       "Input: \"",
       "--------------------------------------------------",
       ""] := by
  intro report
  have hsucceeds : (report .check "()").failure = none := by decide +kernel
  have htokens : tokenize "(" = .ok [⟨.literal, "(", ⟨0, 1⟩⟩] := by decide +kernel
  have hparse : parse [⟨.literal, "(", ⟨0, 1⟩⟩] = .error ⟨"", .endMark, "`(`", ⟨1, 1⟩⟩ := by
    decide +kernel
  have hstring : tokenize "\"" = .error (.unterminatedString ⟨0, 1⟩) := by decide +kernel
  obtain ⟨-, -, -, -, -, -, -, hcomplete⟩ := commands_agree "()" 80 0 (.text "()")
  obtain ⟨-, -, -, -, -, -, hopen, -⟩ := commands_agree "(" 80 0 (.text "(")
  obtain ⟨-, -, -, -, -, hlexical, -⟩ := commands_agree "\"" 80 0 (.text "\"")
  refine ⟨hsucceeds, (hcomplete hsucceeds).trans ?_, (hopen _ _ htokens hparse).trans ?_,
    (hlexical _ hstring).trans ?_⟩
  · decide +kernel
  · decide +kernel
  · decide +kernel

end Sexpr
