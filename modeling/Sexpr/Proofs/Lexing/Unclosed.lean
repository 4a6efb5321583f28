/-
Where no token can be found.

Every character that is not blank starts a token, but for a quote that no other quote
closes.  So a source fails to be cut into tokens exactly where a string is opened and
never closed, and what stands in front of that place is cut as if it stood alone: none
of its tokens looks past the quote.
-/
import Sexpr.Proofs.Lexing.Boundary

namespace Sexpr

open scoped Computability
open Text

namespace Pattern

open Rule

/-- Whether reading the body of a string at the front of a text gets stuck behind `body`:
units make it up, and what follows is nothing or a backslash with nothing to hide. -/
structure StuckAfter (cs body : List Char) : Prop where
  units : body ∈ unit∗
  rest : ∃ rest, cs = body ++ rest ∧
    (rest = [] ∨ rest = ['\\'] ∨ ∃ r, rest = '\\' :: '\n' :: r)

theorem stuck_append {w : List Char} (hw : w ∈ unit∗) (rest : List Char) :
    stuck (w ++ rest) = w.length + stuck rest := by
  refine unit_kstar_induction (P := fun w => stuck (w ++ rest) = w.length + stuck rest)
    ?_ ?_ ?_ hw
  · rw [List.nil_append, List.length_nil, Nat.zero_add]
  · intro c w _ hb ih
    rw [List.cons_append, stuck.eq_def]
    simp only [hb, if_false, ih, List.length_cons]
    omega
  · intro d w hd ih
    rw [List.cons_append, List.cons_append, stuck.eq_def]
    simp only [hd, if_false, if_true, ih, List.length_cons]
    omega

namespace StuckAfter

variable {cs body : List Char}

theorem append {u : List Char} (hu : u ∈ unit) (h : StuckAfter cs body) :
    StuckAfter (u ++ cs) (u ++ body) := by
  obtain ⟨rest, rfl, hrest⟩ := h.rest
  exact ⟨append_mem_unit_kstar hu h.units, rest, (List.append_assoc ..).symm, hrest⟩

theorem eq_take (h : StuckAfter cs body) : body = cs.take (stuck cs) := by
  obtain ⟨rest, rfl, hrest⟩ := h.rest
  have hzero : stuck rest = 0 := by
    rcases hrest with rfl | rfl | ⟨r, rfl⟩ <;> rw [stuck.eq_def] <;> rfl
  rw [stuck_append h.units, hzero, Nat.add_zero, List.take_left]

/-- A string that nothing closes gets stuck somewhere. -/
theorem of_closing (h : closing cs = none) : StuckAfter cs (cs.take (stuck cs)) := by
  fun_induction closing cs with
  | case1 => exact ⟨nil_mem_unit_kstar, [], rfl, .inl rfl⟩
  | case2 => cases h
  | case3 => exact ⟨nil_mem_unit_kstar, ['\\'], rfl, .inr (.inl rfl)⟩
  | case4 r => exact ⟨nil_mem_unit_kstar, '\\' :: '\n' :: r, rfl, .inr (.inr ⟨r, rfl⟩)⟩
  | case5 d r hd _ ih =>
      have hu : ['\\', d] ∈ unit := mem_unit_of_escaped hd
      have hstuck : stuck ('\\' :: d :: r) = stuck r + 2 := by
        rw [stuck.eq_def]
        simp only [hd, if_false, if_true]
      rw [hstuck]
      exact (ih (Option.map_eq_none_iff.1 h)).append hu
  | case6 c r hq hb ih =>
      have hu : [c] ∈ unit := mem_unit_of_plain hq hb
      have hstuck : stuck (c :: r) = stuck r + 1 := by
        rw [stuck.eq_def]
        simp only [hb, if_false]
      rw [hstuck]
      exact (ih (Option.map_eq_none_iff.1 h)).append hu

end StuckAfter

theorem string_of_quote (r : List Char) : Rule.string ('"' :: r) = (closing r).map (· + 1) := by
  simp only [Rule.string, if_true]

theorem closing_eq_none_iff {r : List Char} :
    closing r = none ↔ ∀ w ∈ string, ¬w <+: '"' :: r := by
  rw [← computes_string.none_iff, string_of_quote, Option.map_eq_none_iff]

end Pattern

namespace Lexer

open Pattern

variable {offset : Nat}

theorem complaint_of_quote (offset : Nat) (r : List Char) :
    complaint offset ('"' :: r) =
      .unterminatedString { start := offset,
                            stop := offset + 1 + byteLength (r.take (Rule.stuck r)) } := by
  have hquote : '"'.utf8Size = 1 := by decide
  simp only [complaint, if_true, byteLength_cons, hquote, Nat.add_assoc]

/-- Scanning stops at a quote that nothing closes, if it gets there. -/
theorem scan_of_open {a r : List Char} {ts : List Token} (ha : scan offset a = .ok ts)
    (hr : Rule.closing r = none) :
    scan offset (a ++ '"' :: r) = .error (complaint (offset + byteLength a) ('"' :: r)) := by
  have hfirst : Rule.first ('"' :: r) = none := by rw [Rule.first_of_quote, hr, Option.map_none]
  rw [scan_append ha (Boundary.of_head Rule.isWordChar_quote r), scan_stuck (by decide) hfirst]
  rfl

/-- The scan that fails gets to such a quote.  What it takes on the way ends before the
quote, so it would take the same if the text ended there. -/
theorem exists_open_of_scan {cs : List Char} {e : LexError} (h : scan offset cs = .error e) :
    ∃ a r ts, cs = a ++ '"' :: r ∧ scan offset a = .ok ts ∧ Rule.closing r = none := by
  induction offset, cs using scan_induction with
  | nil offset =>
      rw [scan_nil] at h
      exact nomatch h
  | blank offset c r hc ih =>
      rw [scan_blank hc] at h
      obtain ⟨a, r, ts, rfl, ha, hr⟩ := ih h
      refine ⟨c :: a, r, ts, rfl, ?_, hr⟩
      rw [scan_blank hc]
      exact ha
  | stuck offset c r hc hf =>
      rcases Rule.start_cases hc with hp | rfl | hw
      · rw [Rule.first_of_parenthesis hp] at hf
        exact nomatch hf
      · rw [Rule.first_of_quote, Option.map_eq_none_iff] at hf
        exact ⟨[], r, [], rfl, scan_nil offset, hf⟩
      · exact absurd hf (Rule.first_of_word_ne_none hw)
  | token offset c r kind n hc hf ih =>
      obtain ⟨a, s, ts, hs, ha, hr⟩ := ih (scan_token_eq_error hc hf h)
      obtain ⟨hpos, hn⟩ := Rule.first_bounds hf
      obtain ⟨m, rfl⟩ := Nat.exists_eq_succ_of_ne_zero (Nat.ne_of_gt hpos)
      rw [Nat.succ_eq_add_one, List.drop_succ_cons] at hs
      have hlen : (r.take m).length = m := List.length_take_of_le (Nat.le_of_succ_le_succ hn)
      have hsplit : r.take m ++ a ++ '"' :: s = r := by
        rw [List.append_assoc, ← hs, List.take_append_drop]
      have hf' : Rule.first (c :: (r.take m ++ a)) = some (kind, m + 1) := by
        refine first_of_append (b := '"' :: s) (Boundary.of_head Rule.isWordChar_quote s) ?_ ?_
        · rw [hsplit]
          exact hf
        · simp only [List.length_cons, List.length_append, hlen]
          omega
      have htake : (c :: (r.take m ++ a)).take (m + 1) = (c :: r).take (m + 1) := by
        rw [List.take_succ_cons, List.take_succ_cons, List.take_left' hlen]
      have hdrop : (c :: (r.take m ++ a)).drop (m + 1) = a := by
        rw [List.drop_succ_cons, List.drop_left' hlen]
      let t := tokenAt kind ((c :: r).take (m + 1)) offset
      refine ⟨c :: (r.take m ++ a), s, t :: ts, ?_, ?_, hr⟩
      · rw [List.cons_append, hsplit]
      · rw [scan_token hc hf', htake, hdrop, ha]
        rfl

end Lexer

/-- Whether a source opens a string behind `before` that is never closed: what stands
before is cut into tokens, and no string starts at the quote. -/
structure OpenString (source before after : String) : Prop where
  split : source = before ++ "\"" ++ after
  lexed : ∃ ts, tokenize before = .ok ts
  unclosed : ∀ w ∈ Pattern.string, ¬w <+: '"' :: after.toList

namespace OpenString

variable {source before after : String}

theorem toList (h : OpenString source before after) :
    source.toList = before.toList ++ '"' :: after.toList := by
  rw [h.split, String.toList_append, String.toList_append, List.append_assoc]
  rfl

theorem closing (h : OpenString source before after) : Rule.closing after.toList = none :=
  Pattern.closing_eq_none_iff.2 h.unclosed

/-- The error lies between the quote and the place where the string gets stuck. -/
theorem tokenize_eq (h : OpenString source before after) {body : List Char}
    (hbody : Pattern.StuckAfter after.toList body) :
    tokenize source = .error (.unterminatedString
      { start := before.utf8ByteSize, stop := before.utf8ByteSize + 1 + byteLength body }) := by
  obtain ⟨ts, hts⟩ := h.lexed
  have hscan := Lexer.scan_of_open hts h.closing
  rw [tokenize, h.toList, hscan, Lexer.complaint_of_quote, ← hbody.eq_take, Nat.zero_add,
    byteLength_toList]

theorem of_tokenize {e : LexError} (h : tokenize source = .error e) :
    ∃ before after, OpenString source before after := by
  obtain ⟨a, r, ts, hsplit, ha, hr⟩ := Lexer.exists_open_of_scan h
  refine ⟨String.ofList a, String.ofList r, ?_, ⟨ts, ?_⟩, ?_⟩
  · rw [← String.toList_inj, hsplit]
    simp only [String.toList_append, String.toList_ofList, List.append_assoc]
    rfl
  · rw [tokenize, String.toList_ofList]
    exact ha
  · rw [String.toList_ofList]
    exact Pattern.closing_eq_none_iff.1 hr

/-- The error names the place of the quote, so there is one such place. -/
theorem unique {before' after' : String} (h : OpenString source before after)
    (h' : OpenString source before' after') : before = before' ∧ after = after' := by
  have herror := h.tokenize_eq (Pattern.StuckAfter.of_closing h.closing)
  rw [h'.tokenize_eq (Pattern.StuckAfter.of_closing h'.closing)] at herror
  have hspan := LexError.unterminatedString.inj (Except.error.inj herror)
  have hsize : before'.toByteArray.size = before.toByteArray.size := congrArg Span.start hspan
  have hsplit : before ++ ("\"" ++ after) = before' ++ ("\"" ++ after') := by
    rw [← String.append_assoc, ← String.append_assoc, ← h.split, h'.split]
  have hbytes := congrArg String.toByteArray hsplit
  rw [String.toByteArray_append, String.toByteArray_append] at hbytes
  obtain rfl := String.toByteArray_inj.1 (ByteArray.append_inj_left hbytes hsize.symm)
  exact ⟨rfl, (String.append_right_inj _).1 ((String.append_right_inj _).1 hsplit)⟩

end OpenString

/-- A source is not cut into tokens if and only if it opens a string that it does not
close.  There is one place where it does, the error reaches from there to where the
string gets stuck, and no other error arises. -/
theorem tokenize_fails_at_open_string (source : String) :
    ((∃ e, tokenize source = .error e) ↔ ∃ before after, OpenString source before after) ∧
    (∀ before after, OpenString source before after →
      (∀ before' after', OpenString source before' after' → before' = before ∧ after' = after) ∧
      (∃ body, Pattern.StuckAfter after.toList body) ∧
      ∀ body, Pattern.StuckAfter after.toList body →
        tokenize source = .error (.unterminatedString
          { start := before.utf8ByteSize,
            stop := before.utf8ByteSize + 1 + byteLength body })) ∧
    ∀ span, tokenize source ≠ .error (.unrecognized span) := by
  have hstuck : ∀ {before after}, OpenString source before after →
      ∃ body, Pattern.StuckAfter after.toList body := fun h =>
    ⟨_, Pattern.StuckAfter.of_closing h.closing⟩
  refine ⟨⟨?_, ?_⟩, ?_, ?_⟩
  · rintro ⟨e, he⟩
    exact OpenString.of_tokenize he
  · rintro ⟨before, after, h⟩
    obtain ⟨body, hbody⟩ := hstuck h
    exact ⟨_, h.tokenize_eq hbody⟩
  · intro before after h
    exact ⟨fun _ _ h' => h'.unique h, hstuck h, fun body hbody => h.tokenize_eq hbody⟩
  · intro span hspan
    obtain ⟨before, after, h⟩ := OpenString.of_tokenize hspan
    obtain ⟨body, hbody⟩ := hstuck h
    rw [h.tokenize_eq hbody] at hspan
    exact nomatch hspan

/- An escape cannot hide a line break, so the second quote is never reached. -/
example : tokenize "a \"b\\\nc\"" = .error (.unterminatedString ⟨2, 4⟩) := by cbv

end Sexpr
