/-
Where the tokens of a source stand.

The tokens follow one another through the source.  The text of each is what stands
at its span, and all that lies before, between and after them is blank, so nothing
of the source is lost and nothing stands in two tokens.  Spans count bytes while the
scan runs over characters: `Covers` follows both at once, and everything else is read
off from it.
-/
import Sexpr.Proofs.Lexing.Spacing

namespace Sexpr

open Text

/-- Whether `ts` stand in a text one after the other, each at its span, with nothing
but blank characters around them.  The text starts at byte `offset`. -/
inductive Covers : Nat → List Char → List Token → Prop where
  | gap {offset gap} : (∀ c ∈ gap, isBlank c = true) → Covers offset gap []
  | token {offset gap kind lexeme rest ts} : (∀ c ∈ gap, isBlank c = true) → lexeme ≠ [] →
      Covers (offset + byteLength gap + byteLength lexeme) rest ts →
      Covers offset (gap ++ (lexeme ++ rest))
        (Lexer.tokenAt kind lexeme (offset + byteLength gap) :: ts)

namespace Covers

variable {offset : Nat} {cs : List Char} {ts : List Token}

theorem blank {c : Char} {r : List Char} (hc : isBlank c = true)
    (h : Covers (offset + c.utf8Size) r ts) : Covers offset (c :: r) ts := by
  cases h with
  | gap hgap => exact .gap (List.forall_mem_cons.2 ⟨hc, hgap⟩)
  | @token _ gap kind lexeme rest ts hgap hne hrest =>
      have hlen : offset + c.utf8Size + byteLength gap = offset + byteLength (c :: gap) := by
        rw [byteLength_cons, Nat.add_assoc]
      rw [hlen] at hrest ⊢
      exact .token (List.forall_mem_cons.2 ⟨hc, hgap⟩) hne hrest

theorem of_scan (h : Lexer.scan offset cs = .ok ts) : Covers offset cs ts := by
  induction offset, cs using Lexer.scan_induction generalizing ts with
  | nil offset =>
      rw [Lexer.scan_nil] at h
      cases h
      exact .gap fun c hc => absurd hc List.not_mem_nil
  | blank offset c r hc ih =>
      rw [Lexer.scan_blank hc] at h
      exact (ih h).blank hc
  | stuck offset c r hc hf =>
      rw [Lexer.scan_stuck hc hf] at h
      exact nomatch h
  | token offset c r kind n hc hf ih =>
      obtain ⟨us, hus, rfl⟩ := Lexer.scan_token_eq_ok hc hf h
      have hpos := (Rule.first_bounds hf).1
      have hne : (c :: r).take n ≠ [] := by
        rw [Ne, List.take_eq_nil_iff]
        simp only [reduceCtorEq, or_false]
        omega
      have hcover : Covers offset ([] ++ ((c :: r).take n ++ (c :: r).drop n))
          (Lexer.tokenAt kind ((c :: r).take n) offset :: us) :=
        .token (fun d hd => absurd hd List.not_mem_nil) hne (ih hus)
      rwa [List.nil_append, List.take_append_drop] at hcover

/-- Each token is the part of the text that its span names. -/
theorem split (h : Covers offset cs ts) {t : Token} (ht : t ∈ ts) :
    ∃ before after, cs = before ++ (t.text.toList ++ after) ∧ t.text.toList ≠ [] ∧
      t.span.start = offset + byteLength before ∧
      t.span.stop = t.span.start + byteLength t.text.toList := by
  induction h with
  | gap => exact absurd ht List.not_mem_nil
  | @token offset gap kind lexeme rest ts _ hne _ ih =>
      rcases List.mem_cons.1 ht with rfl | ht
      · have htext : (String.ofList lexeme).toList = lexeme := String.toList_ofList
        refine ⟨gap, rest, ?_⟩
        simp only [Lexer.tokenAt, htext]
        exact ⟨trivial, hne, trivial, trivial⟩
      · obtain ⟨before, after, hrest, hne', hstart, hstop⟩ := ih ht
        refine ⟨gap ++ (lexeme ++ before), after, ?_, hne', ?_, hstop⟩
        · rw [hrest]
          simp only [List.append_assoc]
        · rw [hstart]
          simp only [byteLength_append]
          omega

theorem le_start (h : Covers offset cs ts) {t : Token} (ht : t ∈ ts) : offset ≤ t.span.start := by
  obtain ⟨before, after, -, -, hstart, -⟩ := h.split ht
  omega

theorem ordered (h : Covers offset cs ts) :
    ts.Pairwise fun t u => t.span.stop ≤ u.span.start := by
  induction h with
  | gap => exact .nil
  | token _ _ hrest ih => exact List.pairwise_cons.2 ⟨fun u hu => hrest.le_start hu, ih⟩

/-- Where no token stands, the text is blank. -/
theorem isBlank_of_outside (h : Covers offset cs ts) {before after : List Char} {c : Char}
    (hcs : cs = before ++ c :: after)
    (hout : ∀ t ∈ ts, ¬(t.span.start ≤ offset + byteLength before ∧
      offset + byteLength before < t.span.stop)) : isBlank c = true := by
  induction h generalizing before with
  | gap hgap => exact hgap c (hcs ▸ List.mem_append_right _ List.mem_cons_self)
  | @token offset gap kind lexeme rest ts hgap _ _ ih =>
      rcases append_eq_append_cons hcs with ⟨r, hr⟩ | ⟨inner, rfl, hinner⟩
      · exact hgap c (hr ▸ List.mem_append_right _ List.mem_cons_self)
      · rw [byteLength_append] at hout
        rcases append_eq_append_cons hinner with ⟨r, rfl⟩ | ⟨behind, rfl, hbehind⟩
        · -- The first token would stand here.
          refine absurd ?_ (hout _ List.mem_cons_self)
          have hc := c.utf8Size_pos
          simp only [Lexer.tokenAt, byteLength_append, byteLength_cons]
          omega
        · refine ih hbehind ?_
          intro t ht
          have hne := hout t (List.mem_cons_of_mem _ ht)
          rw [byteLength_append] at hne
          omega

/-- Behind the last token the text is blank. -/
theorem blank_behind (h : Covers offset cs ts) :
    ∃ before after, cs = before ++ after ∧ (∀ c ∈ after, isBlank c = true) ∧
      offset + byteLength before = (ts.getLast?.map (·.span.stop)).getD offset := by
  induction h with
  | gap hgap => exact ⟨[], _, rfl, hgap, rfl⟩
  | @token offset gap kind lexeme rest ts _ _ _ ih =>
      obtain ⟨before, after, rfl, hafter, hlast⟩ := ih
      refine ⟨gap ++ (lexeme ++ before), after, by simp only [List.append_assoc], hafter, ?_⟩
      have hsum : offset + byteLength (gap ++ (lexeme ++ before)) =
          offset + byteLength gap + byteLength lexeme + byteLength before := by
        simp only [byteLength_append, Nat.add_assoc]
      rw [hsum, hlast]
      cases ts with
      | nil => rfl
      | cons t ts =>
          rw [List.getLast?_cons_cons, List.getLast?_eq_some_getLast (List.cons_ne_nil t ts)]
          rfl

theorem exists_row (h : Covers offset cs ts) :
    ∃ row last, row.map (·.2) = ts ∧ (∀ p ∈ row, Blank p.1) ∧ Blank last ∧
      (spaced row last).toList = cs := by
  induction h with
  | @gap offset gap hgap =>
      refine ⟨[], String.ofList gap, rfl, fun p hp => absurd hp List.not_mem_nil, ?_, ?_⟩
      · rwa [Blank, String.toList_ofList]
      · exact String.toList_ofList
  | @token offset gap kind lexeme rest ts hgap _ _ ih =>
      obtain ⟨row, last, rfl, hrow, hlast, hrest⟩ := ih
      let t := Lexer.tokenAt kind lexeme (offset + byteLength gap)
      refine ⟨(String.ofList gap, t) :: row, last, rfl, ?_, hlast, ?_⟩
      · refine List.forall_mem_cons.2 ⟨?_, hrow⟩
        rwa [Blank, String.toList_ofList]
      · show (String.ofList gap ++ String.ofList lexeme ++ spaced row last).toList = _
        simp only [String.toList_append, String.toList_ofList, hrest, List.append_assoc]

end Covers

/-- Whether a span of a source reads `text`: it starts and stops between two characters,
and what stands there is `text`, byte for byte.  The text may be empty. -/
structure Span.Reads (s : Span) (source text : String) : Prop where
  start_le_stop : s.start ≤ s.stop
  stop_le : s.stop ≤ source.utf8ByteSize
  start_valid : String.Pos.Raw.IsValid source ⟨s.start⟩
  stop_valid : String.Pos.Raw.IsValid source ⟨s.stop⟩
  bytes : source.toByteArray.extract s.start s.stop = text.toByteArray

theorem Span.reads_of_append {s : Span} {before text after : String}
    (hstart : s.start = before.utf8ByteSize) (hstop : s.stop = s.start + text.utf8ByteSize) :
    s.Reads (before ++ (text ++ after)) text where
  start_le_stop := by omega
  stop_le := by
    rw [String.utf8ByteSize_append, String.utf8ByteSize_append]
    omega
  start_valid := by
    rw [hstart]
    exact String.Pos.Raw.isValid_iff_exists_append.2 ⟨before, text ++ after, rfl, rfl⟩
  stop_valid := by
    rw [hstop, hstart, ← String.utf8ByteSize_append]
    exact String.Pos.Raw.isValid_iff_exists_append.2
      ⟨before ++ text, after, (String.append_assoc ..).symm, rfl⟩
  bytes := by
    have hsize : before.toByteArray.size = s.start := hstart.symm
    have hsize' : text.toByteArray.size = text.utf8ByteSize := rfl
    rw [String.toByteArray_append, String.toByteArray_append, hstop, ← hsize, ← hsize']
    have hcut := ByteArray.extract_append_size_add (a := before.toByteArray)
      (b := text.toByteArray ++ after.toByteArray) (i := 0) (j := text.toByteArray.size)
    rw [Nat.add_zero] at hcut
    rw [hcut]
    exact ByteArray.extract_append_eq_left rfl

/-- Whether a token has its place in a source: its span is not empty, starts and stops
between two characters, and cuts the text of the token out of the bytes of the source. -/
structure Token.StandsIn (t : Token) (source : String) : Prop where
  start_lt_stop : t.span.start < t.span.stop
  start_valid : String.Pos.Raw.IsValid source ⟨t.span.start⟩
  stop_valid : String.Pos.Raw.IsValid source ⟨t.span.stop⟩
  bytes : source.toByteArray.extract t.span.start t.span.stop = t.text.toByteArray

namespace Token

theorem standsIn_of_reads {t : Token} {source : String} (hne : t.span.start ≠ t.span.stop)
    (h : t.span.Reads source t.text) : t.StandsIn source where
  start_lt_stop := Nat.lt_of_le_of_ne h.start_le_stop hne
  start_valid := h.start_valid
  stop_valid := h.stop_valid
  bytes := h.bytes

theorem StandsIn.reads {t : Token} {source : String} (h : t.StandsIn source) :
    t.span.Reads source t.text where
  start_le_stop := Nat.le_of_lt h.start_lt_stop
  stop_le := h.stop_valid.le_rawEndPos
  start_valid := h.start_valid
  stop_valid := h.stop_valid
  bytes := h.bytes

end Token

/-- Whether tokens account for a whole source: they stand in it in order and apart,
and it is made of their texts and of blank text around them. -/
structure Cover (source : String) (ts : List Token) : Prop where
  stands : ∀ t ∈ ts, t.StandsIn source
  ordered : ts.Pairwise fun t u => t.span.stop ≤ u.span.start
  blank_outside : ∀ (p : source.Pos) (hp : p ≠ source.endPos),
    (∀ t ∈ ts, ¬(t.span.start ≤ p.offset.byteIdx ∧ p.offset.byteIdx < t.span.stop)) →
      isBlank (p.get hp) = true
  recovered : ∃ row last, row.map (·.2) = ts ∧ (∀ p ∈ row, Blank p.1) ∧ Blank last ∧
    spaced row last = source
  no_endMark : ∀ t ∈ ts, t.kind ≠ .endMark

namespace Covers

variable {source : String} {ts : List Token}

theorem standsIn (h : Covers 0 source.toList ts) {t : Token} (ht : t ∈ ts) : t.StandsIn source := by
  obtain ⟨before, after, hsplit, hne, hstart, hstop⟩ := h.split ht
  have hsource : source = String.ofList before ++ (t.text ++ String.ofList after) := by
    rw [← String.ofList_toList (s := source), hsplit]
    simp only [String.ofList_append, String.ofList_toList]
  rw [Nat.zero_add, ← byteLength_ofList] at hstart
  rw [byteLength_toList] at hstop
  rw [Ne, String.toList_eq_nil_iff] at hne
  have hpos : t.text.utf8ByteSize ≠ 0 := by rwa [Ne, String.utf8ByteSize_eq_zero_iff]
  rw [hsource]
  exact Token.standsIn_of_reads (by omega) (Span.reads_of_append hstart hstop)

theorem isBlank_get (h : Covers 0 source.toList ts) (p : source.Pos) (hp : p ≠ source.endPos)
    (hout : ∀ t ∈ ts, ¬(t.span.start ≤ p.offset.byteIdx ∧ p.offset.byteIdx < t.span.stop)) :
    isBlank (p.get hp) = true := by
  have hsplits := p.splits_next_right hp
  have hlist := congrArg String.toList hsplits.eq_append
  rw [String.toList_append, String.toList_append, String.toList_singleton] at hlist
  have hoffset : (source.sliceTo p).copy.utf8ByteSize = p.offset.byteIdx :=
    (congrArg String.Pos.Raw.byteIdx hsplits.offset_eq_rawEndPos).symm
  refine h.isBlank_of_outside hlist ?_
  rw [Nat.zero_add, byteLength_toList, hoffset]
  exact hout

end Covers

/-- The tokens of a source cover it. -/
theorem cover_of_tokenize {source : String} {ts : List Token} (h : tokenize source = .ok ts) :
    Cover source ts := by
  have hcovers : Covers 0 source.toList ts := Covers.of_scan h
  obtain ⟨row, last, hrow, hblank, hlast, htext⟩ := hcovers.exists_row
  exact
    { stands := fun t ht => hcovers.standsIn ht
      ordered := hcovers.ordered
      blank_outside := hcovers.isBlank_get
      recovered := ⟨row, last, hrow, hblank, hlast, String.toList_inj.1 htext⟩
      no_endMark := kind_ne_endMark_of_tokenize h }

/-- A character of two bytes, blanks and a parenthesis inside a string, and tokens that
touch. -/
theorem cover_of_touching_tokens :
    ∃ ts, tokenize "é(\"a )\" 1.x" = .ok ts ∧ Cover "é(\"a )\" 1.x" ts := by
  have h : tokenize "é(\"a )\" 1.x" =
      .ok [⟨.id, "é", ⟨0, 2⟩⟩, ⟨.literal, "(", ⟨2, 3⟩⟩, ⟨.string, "\"a )\"", ⟨3, 8⟩⟩,
        ⟨.int, "1", ⟨9, 10⟩⟩, ⟨.id, ".x", ⟨10, 12⟩⟩] := by decide +kernel
  exact ⟨_, h, cover_of_tokenize h⟩

end Sexpr
