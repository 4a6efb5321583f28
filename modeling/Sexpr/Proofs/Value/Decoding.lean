/-
What the tokens of a source come to.

The lexer and the decoders have grammars of their own, and here they are compared.  An integer
of the lexer is a numeral, so only its size can be wrong.  A real of the lexer has a digit
behind its point, which is all that reading it asks for.  The body of a string is cut by the
lexer into the pairs that unescaping is told by, none of them broken off by the closing quote.
-/
import Mathlib.Data.List.TakeWhile
import Sexpr.Proofs.Lexing.Spelling
import Sexpr.Proofs.Value.EscapePair

namespace Sexpr

open scoped Computability

namespace Token

variable {t : Token}

/-- The text of a token of a source matches a pattern of its kind. -/
theorem Lexed.mem_pattern (h : t.Lexed) :
    ∃ l, (some t.kind, l) ∈ Pattern.patterns ∧ t.text.toList ∈ l := by
  obtain ⟨c, r, htext, -, hfirst⟩ := h.first
  obtain ⟨l, hl, hmem⟩ := Pattern.mem_of_first hfirst
  rw [List.take_length] at hmem
  exact ⟨l, hl, htext ▸ hmem⟩

theorem Lexed.mem_of_only {l : Language Char} (h : t.Lexed)
    (honly : ∀ l', (some t.kind, l') ∈ Pattern.patterns → l' = l) : t.text.toList ∈ l := by
  obtain ⟨l', hl', hmem⟩ := h.mem_pattern
  rwa [honly l' hl'] at hmem

end Token

/-! ## Integers -/

namespace Pattern

open Text

variable {w : List Char}

/-- Every integer of the lexer is a numeral. -/
theorem exists_writesInteger (h : w ∈ integer) : ∃ m, WritesInteger w m := by
  obtain ⟨s, ds, hs, hne, hds, rfl⟩ := mem_integer.1 h
  have hdecimal : WritesDecimal ds (ofDigits 10 ds) := writesDecimal_iff.2 ⟨hds, rfl⟩
  rcases mem_optional.1 hs with rfl | ⟨c, rfl, hc⟩
  · exact ⟨_, .bare hne hdecimal⟩
  · rcases Rule.isSign_iff.1 hc with rfl | rfl
    · exact ⟨_, .plus hne hdecimal⟩
    · exact ⟨_, .minus hne hdecimal⟩

/-! ## Strings -/

/-- The units of the lexer are escape pairs. -/
theorem paired_of_mem (h : w ∈ unit∗) : Paired w :=
  unit_kstar_induction .nil (fun _ _ _ hb hw => .single hb hw) (fun _ _ _ hw => .pair hw) h

end Pattern

/-! ## Reals -/

theorem Decimal.read?_of_digits {ds fs : List Char} (hds : ∀ c ∈ ds, c.isDigit = true)
    (hfs : ∀ c ∈ fs, c.isDigit = true) (hne : fs ≠ []) :
    read? (ds ++ '.' :: fs) = some ⟨Text.ofDigits 10 (ds ++ fs), -(fs.length : Int)⟩ := by
  have hwhole : (ds ++ '.' :: fs).takeWhile Char.isDigit = ds := by
    rw [List.takeWhile_append_of_pos hds, List.takeWhile_cons_of_neg (by decide), List.append_nil]
  have hrest : (ds ++ '.' :: fs).dropWhile Char.isDigit = '.' :: fs := by
    rw [List.dropWhile_append_of_pos hds, List.dropWhile_cons_of_neg (by decide)]
  have htake : fs.takeWhile Char.isDigit = fs := List.takeWhile_eq_self_iff.2 hfs
  have hdrop : fs.dropWhile Char.isDigit = [] := List.dropWhile_eq_nil_iff.2 hfs
  simp [read?, hwhole, hrest, fraction, htake, hdrop, hne, exponent?]

namespace Real

/-- A point stands in no name of a real, so digits around a point are read as a decimal. -/
theorem unsigned?_of_digits {ds fs : List Char} (hds : ∀ c ∈ ds, c.isDigit = true)
    (hfs : ∀ c ∈ fs, c.isDigit = true) (hne : fs ≠ []) :
    unsigned? (ds ++ '.' :: fs) =
      some (Decimal.toFloat ⟨Text.ofDigits 10 (ds ++ fs), -(fs.length : Int)⟩) := by
  have hname (name : String) (h : '.' ∉ name.toList) :
      String.ofList ((ds ++ '.' :: fs).map Char.toLower) ≠ name := by
    rintro rfl
    refine h ?_
    rw [String.toList_ofList, List.map_append, List.map_cons]
    exact List.mem_append_right _ List.mem_cons_self
  have hinf := hname "inf" (by decide)
  have hinfinity := hname "infinity" (by decide)
  have hnan := hname "nan" (by decide)
  simp only [unsigned?, hinf, hinfinity, hnan, or_self, if_false,
    Decimal.read?_of_digits hds hfs hne, Option.map_some]

theorem ofString?_unsigned {text : String} (hminus : text.toList.head? ≠ some '-')
    (hplus : text.toList.head? ≠ some '+') : ofString? text = unsigned? text.toList := by
  unfold ofString?
  split
  · rename_i htext
    exact absurd (by rw [htext, List.head?_cons]) hminus
  · rename_i htext
    exact absurd (by rw [htext, List.head?_cons]) hplus
  · rfl

/-- Every real of the lexer is read. -/
theorem exists_of_mem {text : String} (h : text.toList ∈ Pattern.real) :
    ∃ x, ofString? text = some x := by
  obtain ⟨s, ds, fs, hs, hds, hne, hfs, htext⟩ := Pattern.mem_real.1 h
  have hread := unsigned?_of_digits hds hfs hne
  rcases Pattern.mem_optional.1 hs with rfl | ⟨c, rfl, hc⟩
  · have hhead {c : Char} (hc : c.isDigit = false) (hdot : '.' ≠ c) :
        text.toList.head? ≠ some c := by
      rw [htext, List.nil_append]
      cases ds with
      | nil => simpa using hdot
      | cons d ds => simpa using Rule.ne_of_isDigit (hds d List.mem_cons_self) hc
    rw [ofString?_unsigned (hhead (by decide) (by decide)) (hhead (by decide) (by decide)), htext]
    exact ⟨_, hread⟩
  · unfold ofString?
    rw [htext]
    rcases Rule.isSign_iff.1 hc with rfl | rfl
    · exact ⟨_, hread⟩
    · show ∃ x, (unsigned? (ds ++ '.' :: fs)).map (fun x => -x) = some x
      rw [hread]
      exact ⟨_, rfl⟩

end Real

/-! ## Tokens of a source -/

namespace Value

variable {t : Token}

theorem ofToken_real (h : t.Lexed) (hk : t.kind = .real) : ∃ x, ofToken t = .ok (.real x) := by
  have hmem : t.text.toList ∈ Pattern.real := h.mem_of_only (by simp [hk, Pattern.patterns])
  obtain ⟨x, hx⟩ := Real.exists_of_mem hmem
  exact ⟨x, by simp only [ofToken, hk, hx]⟩

theorem ofToken_int (h : t.Lexed) (hk : t.kind = .int) :
    ∃ m, Text.WritesInteger t.text.toList m ∧
      (FitsInt64 m ∧ (∃ n : Int64, ofToken t = .ok (.int n) ∧ n.toInt = m) ∨
        ¬FitsInt64 m ∧ ofToken t = .error (.intOutOfRange t.text)) := by
  have hmem : t.text.toList ∈ Pattern.integer := h.mem_of_only (by simp [hk, Pattern.patterns])
  obtain ⟨m, hm⟩ := Pattern.exists_writesInteger hmem
  refine ⟨m, hm, ?_⟩
  by_cases hfits : FitsInt64 m
  · left
    have hread := int64?_of_writes hm hfits
    exact ⟨hfits, Int64.ofInt m, by simp only [ofToken, hk, hread], toInt_ofInt_of_fits hfits⟩
  · right
    have hread : int64? t.text = none := by
      rw [int64?_eq_none_iff]
      rintro ⟨k, hk, hkfits⟩
      exact hfits (hm.unique hk ▸ hkfits)
    exact ⟨hfits, by simp only [ofToken, hk, hread]⟩

theorem string?_of_toList {text : String} {body : List Char}
    (h : text.toList = '"' :: (body ++ ['"'])) :
    string? text = (Text.unescape body).map String.ofList := by
  rw [string?, Text.unquote?_of_toList h, Option.bind_some]

theorem ofToken_string (h : t.Lexed) (hk : t.kind = .string) :
    ∃ body, t.text.toList = '"' :: (body ++ ['"']) ∧ Text.Paired body ∧
      ((∃ s, ofToken t = .ok (.string s)) ↔ ¬Text.MeetsBadCodePoint body) ∧
      (ofToken t = .error (.invalidEscape t.text) ↔ Text.MeetsBadCodePoint body) := by
  have hmem : t.text.toList ∈ Pattern.string := h.mem_of_only (by simp [hk, Pattern.patterns])
  obtain ⟨body, hbody, htext⟩ := Pattern.mem_string.1 hmem
  have hpaired := Pattern.paired_of_mem hbody
  have hread := string?_of_toList htext
  refine ⟨body, htext, hpaired, ?_⟩
  rw [← Text.unescape_eq_none_iff_of_paired hpaired]
  cases hbody' : Text.unescape body with
  | none => simp [ofToken, hk, hread, hbody']
  | some cs => simp [ofToken, hk, hread, hbody']

/-- Only a real can be an invalid one. -/
theorem kind_of_invalidReal {text : String} (h : ofToken t = .error (.invalidReal text)) :
    t.kind = .real := by
  unfold ofToken at h
  split at h
  · exact nomatch h
  · split at h <;> exact nomatch h
  · assumption
  · split at h <;> exact nomatch h
  · exact nomatch h
  · exact nomatch h

end Value

/-- What a token of a source comes to.  A symbol is its text, and a real is always read.  The
text of an integer writes one, which is refused only if it does not fit in 64 bits.  A string
is a body in quotes, cut into escape pairs with nothing left over, and it is refused if and
only if they come to a `\u` that no code point follows.  A parenthesis has no value. -/
theorem lexed_tokens_decode {source : String} {ts : List Token} (h : tokenize source = .ok ts)
    {t : Token} (ht : t ∈ ts) :
    (t.kind = .id → Value.ofToken t = .ok (.symbol t.text)) ∧
    (t.kind = .real → ∃ x, Value.ofToken t = .ok (.real x)) ∧
    (∀ text, Value.ofToken t ≠ .error (.invalidReal text)) ∧
    (t.kind = .int → ∃ m, Text.WritesInteger t.text.toList m ∧
      (Value.FitsInt64 m ∧ (∃ n : Int64, Value.ofToken t = .ok (.int n) ∧ n.toInt = m) ∨
        ¬Value.FitsInt64 m ∧ Value.ofToken t = .error (.intOutOfRange t.text))) ∧
    (t.kind = .string → ∃ body, t.text.toList = '"' :: (body ++ ['"']) ∧
      Text.unquote? t.text = some body ∧ ¬Text.Dangles body ∧
      ((∃ s, Value.ofToken t = .ok (.string s)) ↔ ¬Text.MeetsBadCodePoint body) ∧
      (Value.ofToken t = .error (.invalidEscape t.text) ↔ Text.MeetsBadCodePoint body)) ∧
    (t.kind = .literal → (t.text = "(" ∨ t.text = ")") ∧
      Value.ofToken t = .error (.notAnAtom .literal)) ∧
    t.kind ≠ .endMark := by
  have hlexed := Token.lexed_of_tokenize h ht
  refine ⟨?_, Value.ofToken_real hlexed, ?_, Value.ofToken_int hlexed, ?_, ?_, hlexed.plain.kind_ne⟩
  · intro hk
    simp only [Value.ofToken, hk]
  · intro text hinvalid
    obtain ⟨x, hx⟩ := Value.ofToken_real hlexed (Value.kind_of_invalidReal hinvalid)
    rw [hx] at hinvalid
    cases hinvalid
  · intro hk
    obtain ⟨body, htext, hpaired, hstring, hinvalid⟩ := Value.ofToken_string hlexed hk
    exact ⟨body, htext, Text.unquote?_of_toList htext, hpaired.not_dangles, hstring, hinvalid⟩
  · intro hk
    rcases hlexed.plain with hatom | ⟨-, htext⟩
    · rw [hk] at hatom
      exact Bool.noConfusion hatom
    · exact ⟨htext, by simp only [Value.ofToken, hk]⟩

/-- A real without digits before its point, an integer one too large, and a string in which a
surrogate comes behind a hidden backslash. -/
theorem lexed_tokens_decode_at_surrogate :
    ∃ ts, tokenize "-.5 9223372036854775808 \"\\\\\\u\x7bD800\x7d\"" = .ok ts ∧
      (∃ x, Value.ofToken ⟨.real, "-.5", ⟨0, 3⟩⟩ = .ok (.real x)) ∧
      Value.ofToken ⟨.int, "9223372036854775808", ⟨4, 23⟩⟩ =
        .error (.intOutOfRange "9223372036854775808") ∧
      Value.ofToken ⟨.string, "\"\\\\\\u\x7bD800\x7d\"", ⟨24, 36⟩⟩ =
        .error (.invalidEscape "\"\\\\\\u\x7bD800\x7d\"") := by
  let real : Token := ⟨.real, "-.5", ⟨0, 3⟩⟩
  let int : Token := ⟨.int, "9223372036854775808", ⟨4, 23⟩⟩
  let string : Token := ⟨.string, "\"\\\\\\u\x7bD800\x7d\"", ⟨24, 36⟩⟩
  have hts : tokenize "-.5 9223372036854775808 \"\\\\\\u\x7bD800\x7d\"" =
      .ok [real, int, string] := by decide +kernel
  refine ⟨_, hts, ?_, ?_, ?_⟩
  · exact (lexed_tokens_decode hts (t := real) (by simp)).2.1 rfl
  · obtain ⟨m, -, ⟨-, n, hn, -⟩ | ⟨-, herror⟩⟩ :=
      (lexed_tokens_decode hts (t := int) (by simp)).2.2.2.1 rfl
    · have hnone : Value.int64? "9223372036854775808" = none := by decide +kernel
      rw [Value.ofToken_int_of_none hnone] at hn
      exact nomatch hn
    · exact herror
  · obtain ⟨body, hbody, -, -, -, hinvalid⟩ :=
      (lexed_tokens_decode hts (t := string) (by simp)).2.2.2.2.1 rfl
    have hsplit : string.text.toList =
        '"' :: (['\\', '\\'] ++ '\\' :: 'u' :: "\x7bD800\x7d".toList ++ ['"']) := by
      decide +kernel
    have hfront := List.append_cancel_right (List.cons.inj (hbody.symm.trans hsplit)).2
    refine hinvalid.2 ⟨_, _, .pair .nil, hfront, ?_⟩
    exact Text.braced?_eq_none_iff.1 (by decide +kernel)

end Sexpr
