/-
Where the errors of a source point.

An error names a stretch of the source.  There stands what was found instead of a
parenthesis, or the string that is never closed, as far as it could be read.  At the end
of the input nothing is left to be found: the stretch is empty, right behind the last
token, and only blank text follows it.
-/
import Sexpr.Proofs.Lexing.Cover
import Sexpr.Proofs.Lexing.Unclosed
import Sexpr.Proofs.Parsing.Reading

namespace Sexpr

open Text

/-- The error for a string that is never closed covers the quote and all of the string
that could be read. -/
theorem OpenString.span_reads {source before after : String} (h : OpenString source before after)
    {body : List Char} (hbody : Pattern.StuckAfter after.toList body) :
    Span.Reads { start := before.utf8ByteSize,
                 stop := before.utf8ByteSize + 1 + byteLength body }
      source ("\"" ++ String.ofList body) := by
  obtain ⟨rest, hrest, -⟩ := hbody.rest
  have hafter : after = String.ofList body ++ String.ofList rest := by
    rw [← String.ofList_append, ← hrest, String.ofList_toList]
  have hsource : source = before ++ (("\"" ++ String.ofList body) ++ String.ofList rest) := by
    rw [h.split, hafter]
    simp only [String.append_assoc]
  have hquote : "\"".utf8ByteSize = 1 := by decide
  rw [hsource]
  apply Span.reads_of_append rfl
  rw [String.utf8ByteSize_append, hquote, byteLength_ofList, Nat.add_assoc]

namespace Parser

/-- The token that a failed parse reports is one of those it was given, or the end marker
behind the last of them. -/
theorem exists_found {ts : List Token} {e : ParseError} (h : parse ts = .error e) :
    ∃ t, e = { found := t.text, kind := t.kind, expected := "`(`", span := t.span } ∧
      (t ∈ ts ∨ ts ≠ [] ∧ t = Token.endAt (Cursor.ofTokens ts).stop) := by
  have hread := consumption.of_exprs (Cursor.ofTokens ts)
  rw [parse_eq] at h
  rcases hr : exprs (Cursor.ofTokens ts) with ⟨result, ⟨rest, stop⟩⟩
  rw [hr] at h hread
  cases result with
  | ok xs => exact nomatch h
  | error d =>
      obtain rfl := Except.error.inj h
      obtain ⟨rfl, us, hus, hstop⟩ := hread
      refine ⟨(Cursor.mk rest stop).token, rfl, ?_⟩
      cases rest with
      | cons t rest =>
          have hts : ts = us ++ t :: rest := hus
          exact .inl (hts ▸ List.mem_append_right us List.mem_cons_self)
      | nil =>
          refine .inr ⟨?_, congrArg Token.endAt hstop.symm⟩
          rintro rfl
          rw [exprs_of_end rfl] at hr
          exact nomatch (Prod.mk.inj hr).1

end Parser

/-- Whether an error says that the input ended too early: it found nothing, right behind
the last token of the source, where the source has nothing but blank text left. -/
structure ParseError.AtEnd (e : ParseError) (source : String) : Prop where
  found : e.found = ""
  behind_last : ∃ ts t, tokenize source = .ok (ts ++ [t]) ∧ e.span = ⟨t.span.stop, t.span.stop⟩
  blank_behind : ∃ before after, source = before ++ after ∧
    e.span.start = before.utf8ByteSize ∧ Blank after

/-- An error in the order of the tokens stands where the token it found stands. -/
theorem ParseError.reads_found {source : String} {ts : List Token} {e : ParseError}
    (hts : tokenize source = .ok ts) (he : parse ts = .error e) :
    e.span.Reads source e.found ∧ (e.kind = .endMark → e.AtEnd source) := by
  have hcovers : Covers 0 source.toList ts := Covers.of_scan hts
  obtain ⟨t, rfl, ht | ⟨hne, rfl⟩⟩ := Parser.exists_found he
  · exact ⟨(hcovers.standsIn ht).reads, fun hk => absurd hk (kind_ne_endMark_of_tokenize hts t ht)⟩
  · obtain ⟨before, after, hsplit, hblank, hlast⟩ := hcovers.blank_behind
    rw [Nat.zero_add, ← byteLength_ofList] at hlast
    have hsource : source = String.ofList before ++ ("" ++ String.ofList after) := by
      rw [← String.ofList_toList (s := source), hsplit, String.ofList_append, String.empty_append]
    constructor
    · rw [hsource]
      exact Span.reads_of_append hlast.symm rfl
    · intro _
      have hlast' := List.getLast?_eq_some_getLast hne
      exact
        { found := rfl
          behind_last := by
            refine ⟨ts.dropLast, ts.getLast hne, ?_, ?_⟩
            · rwa [List.dropLast_append_getLast]
            · rw [← Cursor.stop_ofTokens hlast']
              rfl
          blank_behind := by
            refine ⟨String.ofList before, String.ofList after, ?_, hlast.symm, ?_⟩
            · rw [hsource, String.empty_append]
            · rwa [Blank, String.toList_ofList] }

/-- Every error of a source points into the source, at a text that shows what is wrong.
What the error says it found stands there, or the quote of a string that is never closed
and the rest of it that could be read.  An error at the end of the input stands behind the
last token. -/
theorem errors_point_into_source {source : String} {e : SourceError}
    (h : Program.ofSource source = .error e) :
    ∃ text, e.span.Reads source text ∧
      (∀ p, e = .syntactic p → text = p.found ∧ (p.kind = .endMark → p.AtEnd source)) ∧
      ∀ span, e = .lexical (.unterminatedString span) → ∃ body, text = "\"" ++ body := by
  cases hts : tokenize source with
  | error d =>
      rw [Program.ofSource_of_lexError hts] at h
      obtain rfl := Except.error.inj h
      obtain ⟨before, after, hopen⟩ := OpenString.of_tokenize hts
      have hbody := Pattern.StuckAfter.of_closing hopen.closing
      obtain rfl := Except.error.inj (hts.symm.trans (hopen.tokenize_eq hbody))
      exact ⟨_, hopen.span_reads hbody, nofun, fun _ _ => ⟨_, rfl⟩⟩
  | ok ts =>
      rw [Program.ofSource_of_tokens hts] at h
      cases hp : parse ts with
      | ok p =>
          rw [hp] at h
          exact nomatch h
      | error p =>
          rw [hp] at h
          obtain rfl := Except.error.inj h
          obtain ⟨hreads, hend⟩ := ParseError.reads_found hts hp
          refine ⟨p.found, hreads, ?_, nofun⟩
          intro q hq
          obtain rfl := SourceError.syntactic.inj hq
          exact ⟨rfl, hend⟩

/-- A string that gets stuck at a line break, behind characters of two bytes, a list that is
never closed, and a parenthesis too many. -/
theorem errors_point_into_source_of_two_bytes :
    (∃ body, Span.Reads ⟨3, 6⟩ "é \"é\\\nx\"" ("\"" ++ body)) ∧
    ParseError.AtEnd ⟨"", .endMark, "`(`", ⟨6, 6⟩⟩ "é (é \n" ∧
    Span.Reads ⟨2, 3⟩ "é)" ")" := by
  have hopen : Program.ofSource "é \"é\\\nx\"" =
      .error (.lexical (.unterminatedString ⟨3, 6⟩)) := by decide +kernel
  have hend : Program.ofSource "é (é \n" =
      .error (.syntactic ⟨"", .endMark, "`(`", ⟨6, 6⟩⟩) := by decide +kernel
  have hclose : Program.ofSource "é)" =
      .error (.syntactic ⟨")", .literal, "`(`", ⟨2, 3⟩⟩) := by decide +kernel
  refine ⟨?_, ?_, ?_⟩
  · obtain ⟨text, hreads, -, hstring⟩ := errors_point_into_source hopen
    obtain ⟨body, rfl⟩ := hstring _ rfl
    exact ⟨body, hreads⟩
  · obtain ⟨text, -, hparse, -⟩ := errors_point_into_source hend
    exact (hparse _ rfl).2 rfl
  · obtain ⟨text, hreads, hparse, -⟩ := errors_point_into_source hclose
    obtain ⟨rfl, -⟩ := hparse _ rfl
    exact hreads

end Sexpr
