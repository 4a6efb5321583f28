/-
The formatting command.

The command cuts its source into tokens, reads them, and writes the program it
found.  Its whole report, log records included, can be told from the program, so
two texts of one program are formatted with the same report.
-/
import Sexpr.Proofs.CommandLine.Stage
import Sexpr.Proofs.Printing.NormalForm

namespace Sexpr
namespace CommandLine

open Run in
/-- Texts of one program are formatted alike. -/
theorem run_format {i : Invocation} {width : Nat} (hi : i.command = .format width) {p : Program}
    {source : String} (h : p.RestoredBy source) :
    i.run (.ok source) = {
      output := pretty width p ++ "\n"
      log := [lexerRecord "tokenized input" "tokens" (toString p.tokens.length),
        parserRecord "parsed program" "expressions" (toString p.size)]
      failure := none } := by
  obtain ⟨⟨q, hq, hplaced⟩, us, hus, hlabels⟩ := h
  obtain ⟨ts, hts, hparse⟩ := Program.ofSource_eq_ok.1 hq
  obtain rfl := Except.ok.inj (hus.symm.trans hts)
  have hlength : us.length = p.tokens.length := by
    simpa only [List.length_map] using congrArg List.length hlabels
  have hcommand : i.command.run source = format width source := by
    rw [hi]
    rfl
  have hends : (format width source).Ends (.ok ()) (pretty width q ++ "\n") _ :=
    read_ends hts hparse (write_ends _)
  rw [Invocation.run_of_ends (hcommand ▸ hends), hlength, Program.size_of_unplaced hplaced,
    Program.pretty_of_unplaced hplaced]
  rfl

end CommandLine

open CommandLine in
/-- What the printers write of a program is read as one that they write alike, at every
width.  So formatting at one width changes nothing for formatting at another, and
formatting twice at the same width is formatting once, to the last line break. -/
theorem formatting_normalizes {source : String} {p : Program}
    (h : Program.ofSource source = .ok p) :
    (∀ w₁ w₂, ∃ q, Program.ofSource (pretty w₁ p) = .ok q ∧ pretty w₂ q = pretty w₂ p) ∧
    (∀ w, ∃ q, Program.ofSource (oneLine p) = .ok q ∧ pretty w q = pretty w p) ∧
    ∀ (i j : Invocation) (w₁ w₂ : Nat), i.command = .format w₁ → j.command = .format w₂ →
      (i.run (.ok source)).output = pretty w₁ p ++ "\n" ∧
      (i.run (.ok source)).failure = none ∧
      j.run (.ok (i.run (.ok source)).output) = j.run (.ok source) := by
  obtain ⟨hp, hlexed⟩ := Program.shaped_of_ofSource h
  refine ⟨?_, ?_, ?_⟩
  · intro w₁ w₂
    have hrestored := Program.restoredBy_of_spells hp (Program.spells_pretty hp hlexed w₁)
    exact hrestored.pretty_eq w₂
  · intro w
    have hrestored := Program.restoredBy_of_spells hp (Program.spells_oneLine hp hlexed)
    exact hrestored.pretty_eq w
  · intro i j w₁ w₂ hi hj
    have hsource := Program.restoredBy_of_ofSource h
    have hfirst := run_format hi hsource
    refine ⟨by rw [hfirst], by rw [hfirst], ?_⟩
    rw [hfirst, run_format hj (Program.restoredBy_formatted h w₁), run_format hj hsource]

open CommandLine in
/-- A string with a line break in it, and tokens that touch. -/
theorem formatting_normalizes_touching_tokens :
    ∃ p, Program.ofSource "(f \"a\nb\" 1.x)" = .ok p ∧
      (∃ q, Program.ofSource (pretty 4 p) = .ok q ∧ pretty 80 q = pretty 80 p) ∧
      (∃ q, Program.ofSource (oneLine p) = .ok q ∧ pretty 4 q = pretty 4 p) ∧
      let narrow : Invocation := ⟨0, .format 4, .standardInput⟩
      let wide : Invocation := ⟨0, .format 80, .standardInput⟩
      (narrow.run (.ok "(f \"a\nb\" 1.x)")).output = "(f\n  \"a\nb\"\n  1\n  .x)\n" ∧
      wide.run (.ok "(f\n  \"a\nb\"\n  1\n  .x)\n") = wide.run (.ok "(f \"a\nb\" 1.x)") := by
  have h : Program.ofSource "(f \"a\nb\" 1.x)" = .ok ⟨[.list ⟨.literal, "(", ⟨0, 1⟩⟩
      [.atom ⟨.id, "f", ⟨1, 2⟩⟩, .atom ⟨.string, "\"a\nb\"", ⟨3, 8⟩⟩,
        .atom ⟨.int, "1", ⟨9, 10⟩⟩, .atom ⟨.id, ".x", ⟨10, 12⟩⟩]
      ⟨.literal, ")", ⟨12, 13⟩⟩]⟩ := by decide +kernel
  obtain ⟨hpretty, hline, hrun⟩ := formatting_normalizes h
  obtain ⟨houtput, -, hagain⟩ :=
    hrun ⟨0, .format 4, .standardInput⟩ ⟨0, .format 80, .standardInput⟩ 4 80 rfl rfl
  have htext := houtput.trans (show _ = "(f\n  \"a\nb\"\n  1\n  .x)\n" by decide +kernel)
  rw [htext] at hagain
  exact ⟨_, h, hpretty 4 80, hline 4, htext, hagain⟩

end Sexpr
