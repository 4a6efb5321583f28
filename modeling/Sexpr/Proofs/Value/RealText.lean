/-
Which reals read back as reals.

A double of ordinary size is written in positions, as digits around a point, and this is a real
of the lexer.  Very large and very small ones are written with an exponent, which no number of
the lexer has: there the number ends, and the exponent is an identifier.  So is the name of a
double that is infinite or undefined.  Integers, strings and symbols all read back as what they
are.
-/
import Sexpr.Proofs.Value.Decoding
import Sexpr.Proofs.Value.Double
import Sexpr.Proofs.Value.ReadBack

namespace Sexpr

open Text

/-! ## Numbers in front of words -/

theorem prefix_append_cons_iff {w x r : List Char} {c : Char} (h : c ∉ x) :
    x <+: w ++ c :: r ↔ x <+: w := by
  constructor
  · rintro ⟨y, hy⟩
    rcases append_eq_append_cons hy with ⟨z, rfl⟩ | ⟨z, rfl, -⟩
    · exact absurd (List.mem_append_right w List.mem_cons_self) h
    · exact List.prefix_append x z
  · exact fun hx => hx.trans (List.prefix_append _ _)

namespace Pattern

open Rule

variable {w r : List Char} {c : Char}

/-- Whether a character may stand in a number. -/
def Numeric (c : Char) : Prop := isSign c = true ∨ c = '.' ∨ c.isDigit = true

instance (c : Char) : Decidable (Numeric c) := inferInstanceAs (Decidable (_ ∨ _))

theorem numeric_of_mem_sign {s : List Char} (hs : s ∈ optional sign) : ∀ c ∈ s, Numeric c := by
  rcases mem_optional.1 hs with rfl | ⟨d, rfl, hd⟩
  · exact nofun
  · intro c hc
    rw [List.mem_singleton.1 hc]
    exact .inl hd

theorem numeric_of_mem_integer (h : w ∈ integer) : ∀ c ∈ w, Numeric c := by
  obtain ⟨s, ds, hs, -, hds, rfl⟩ := mem_integer.1 h
  intro c hc
  rcases List.mem_append.1 hc with hc | hc
  · exact numeric_of_mem_sign hs c hc
  · exact .inr (.inr (hds c hc))

theorem numeric_of_mem_real (h : w ∈ real) : ∀ c ∈ w, Numeric c := by
  obtain ⟨s, ds, fs, hs, hds, -, hfs, rfl⟩ := mem_real.1 h
  intro c hc
  rcases List.mem_append.1 hc with hc | hc
  · exact numeric_of_mem_sign hs c hc
  · rcases List.mem_append.1 hc with hc | hc
    · exact .inr (.inr (hds c hc))
    · rcases List.mem_cons.1 hc with rfl | hc
      · exact .inr (.inl rfl)
      · exact .inr (.inr (hfs c hc))

theorem real_append_cons (hc : ¬Numeric c) : Rule.real (w ++ c :: r) = Rule.real w :=
  computes_real.congr fun _ hx =>
    prefix_append_cons_iff fun hmem => hc (numeric_of_mem_real hx c hmem)

theorem integer_append_cons (hc : ¬Numeric c) : Rule.integer (w ++ c :: r) = Rule.integer w :=
  computes_integer.congr fun _ hx =>
    prefix_append_cons_iff fun hmem => hc (numeric_of_mem_integer hx c hmem)

/-- The texts of numbers, each with the kind of its token. -/
def IsNumber (kind : Kind) (w : List Char) : Prop :=
  kind = .int ∧ w ∈ integer ∨ kind = .real ∧ w ∈ real

/-- A number in front of what cannot continue it is taken as a whole. -/
theorem IsNumber.first_append {kind : Kind} (h : IsNumber kind w) (hc : ¬Numeric c) :
    first (w ++ c :: r) = some (kind, w.length) := by
  rcases h with ⟨rfl, hw⟩ | ⟨rfl, hw⟩
  · refine first_of_integer ?_ ?_
    · rw [real_append_cons hc, real_eq_none_of_mem_integer hw]
    · rw [integer_append_cons hc, computes_integer.self hw]
  · refine first_of_real ?_
    rw [real_append_cons hc, computes_real.self hw]

/-- A number with a word behind it that starts with a letter is two tokens. -/
theorem IsNumber.tokenize {kind : Kind} {source : String} (h : IsNumber kind w)
    (hc : ¬Numeric c) (hword : ∀ d ∈ c :: r, isWordChar d = true)
    (hsource : source.toList = w ++ c :: r) :
    ∃ us, Sexpr.tokenize source = .ok us ∧ us.map Token.kind = [kind, .id] := by
  have hstart : startsNumber (c :: r) = false := by
    rw [startsNumber_of_not_sign (Bool.eq_false_iff.2 fun hs => hc (.inl hs))]
    have hdigit : c.isDigit = false := Bool.eq_false_iff.2 fun hd => hc (.inr (.inr hd))
    have hdot : (c == '.') = false := beq_false_of_ne fun hd => hc (.inr (.inl hd))
    rw [hdigit, hdot]
    rfl
  have hid : first (c :: r) = some (.id, (c :: r).length) :=
    first_of_mem_identifier (mem_identifier.2 ⟨List.cons_ne_nil c r, hword, hstart⟩)
  have hfirst : first (w ++ c :: r) = some (kind, w.length) := h.first_append hc
  let word : Token := ⟨.id, String.ofList (c :: r), ⟨0, 0⟩⟩
  have hrest := Token.scan_of_first (t := word) (by rwa [String.toList_ofList])
    (Lexer.tokenAt kind w 0).span.stop
  rw [String.toList_ofList] at hrest
  obtain ⟨d, q, rfl⟩ := List.exists_cons_of_length_pos (first_bounds hfirst).1
  have hscan : Lexer.scan 0 (d :: (q ++ c :: r)) = _ :=
    Lexer.scan_token (isBlank_of_first hfirst) hfirst
  rw [← List.cons_append, List.take_left, List.drop_left, hrest] at hscan
  rw [Sexpr.tokenize, hsource, hscan]
  exact ⟨_, rfl, rfl⟩

end Pattern

namespace Decimal

theorem digitChars_ne_nil (d : Decimal) : d.digitChars ≠ [] := Nat.toDigits_ne_nil

theorem isDigit_digitChars (d : Decimal) : ∀ c ∈ d.digitChars, c.isDigit = true :=
  isDigit_toDigits d.digits

theorem isDigit_replicate (n : Nat) : ∀ c ∈ List.replicate n '0', c.isDigit = true := by
  intro c hc
  rw [List.eq_of_mem_replicate hc]
  rfl

/-- In positions a decimal is digits around a point. -/
theorem exists_digits_positional (d : Decimal) :
    ∃ ds fs, (∀ c ∈ ds, c.isDigit = true) ∧ fs ≠ [] ∧ (∀ c ∈ fs, c.isDigit = true) ∧
      d.positional = ds ++ '.' :: fs := by
  have hdigit := d.isDigit_digitChars
  have hne := d.digitChars_ne_nil
  unfold positional
  simp only
  split
  · refine ⟨['0'], List.replicate (-d.point).toNat '0' ++ d.digitChars, isDigit_replicate 1,
      List.append_ne_nil_of_right_ne_nil _ hne, ?_, rfl⟩
    exact fun c hc => (List.mem_append.1 hc).elim (isDigit_replicate _ c) (hdigit c)
  · split
    · rename_i hlt
      refine ⟨d.digitChars.take d.point.toNat, d.digitChars.drop d.point.toNat,
        fun c hc => hdigit c (List.mem_of_mem_take hc), ?_,
        fun c hc => hdigit c (List.mem_of_mem_drop hc), rfl⟩
      rw [ne_eq, List.drop_eq_nil_iff]
      omega
    · refine ⟨d.digitChars ++ List.replicate (d.point - d.digitChars.length).toNat '0', ['0'],
        ?_, List.cons_ne_nil _ _, isDigit_replicate 1, rfl⟩
      exact fun c hc => (List.mem_append.1 hc).elim (hdigit c) (isDigit_replicate _ c)

/-- With an exponent a decimal is a number and a word. -/
theorem exists_number_scientific (d : Decimal) {s : List Char}
    (hs : s ∈ Pattern.optional Pattern.sign) :
    ∃ kind w, Pattern.IsNumber kind (s ++ w) ∧
      d.scientific = w ++ 'e' :: (toString (d.point - 1)).toList := by
  have hdigit := d.isDigit_digitChars
  obtain ⟨c, cs, hcs⟩ := List.exists_cons_of_ne_nil d.digitChars_ne_nil
  rw [hcs] at hdigit
  obtain ⟨hc, htail⟩ := List.forall_mem_cons.1 hdigit
  unfold scientific
  simp only [hcs]
  cases cs with
  | nil =>
      refine ⟨.int, [c], .inl ⟨rfl, ?_⟩, rfl⟩
      exact Pattern.mem_integer.2 ⟨s, [c], hs, List.cons_ne_nil _ _, hdigit, rfl⟩
  | cons f fs =>
      refine ⟨.real, [c] ++ '.' :: f :: fs, .inr ⟨rfl, ?_⟩, ?_⟩
      · have hwhole : ∀ e ∈ [c], e.isDigit = true := by simpa using hc
        exact Pattern.mem_real.2 ⟨s, [c], f :: fs, hs, hwhole, List.cons_ne_nil _ _, htail, rfl⟩
      · rw [if_neg (by simp)]
        rfl

end Decimal

/-! ## Doubles -/

namespace Binary

variable {b : Binary}

theorem isDouble_lower : Real.lower.IsDouble := by
  constructor <;> decide

theorem isDouble_upper : Real.upper.IsDouble := by
  constructor <;> decide

theorem shortest_lower : Real.lower.shortest = ⟨1, -4⟩ := by decide +kernel

theorem shortest_upper : Real.upper.shortest = ⟨1, 16⟩ := by decide +kernel

theorem value_shortest_lt_lower (hb : b.IsDouble) :
    b.shortest.value < 10 ^ (-4 : Int) ↔ b.Below Real.lower := by
  refine value_shortest_lt_iff isDouble_lower hb ?_ ?_ ?_
  · norm_num [low, quarter, Real.lower]
  · norm_num [high, quarter, Real.lower]
  · rw [shortest_lower]
    norm_num [Decimal.value]

theorem value_shortest_lt_upper (hb : b.IsDouble) :
    b.shortest.value < 10 ^ (16 : Int) ↔ b.Below Real.upper := by
  refine value_shortest_lt_iff isDouble_upper hb ?_ ?_ ?_
  · norm_num [low, quarter, Real.upper]
  · norm_num [high, quarter, Real.upper]
  · rw [shortest_upper]
    norm_num [Decimal.value]

/-- Positions are used for the doubles between the bounds. -/
theorem point_inside_iff (hb : b.IsDouble) :
    Real.format.leastPoint ≤ b.shortest.point ∧ b.shortest.point ≤ Real.format.greatestPoint ↔
      ¬b.Below Real.lower ∧ b.Below Real.upper := by
  have hpos := shortest_digits_pos hb
  have hleast : Real.format.leastPoint ≤ b.shortest.point ↔ ¬b.shortest.point ≤ -4 := by
    show -3 ≤ b.shortest.point ↔ _
    omega
  have hgreatest : b.shortest.point ≤ Real.format.greatestPoint ↔ b.shortest.point ≤ 16 := Iff.rfl
  rw [hleast, hgreatest, Decimal.point_le_iff hpos, Decimal.point_le_iff hpos,
    value_shortest_lt_lower hb, value_shortest_lt_upper hb]

end Binary

namespace Real

variable {x : Float}

/-- The sign in front of the text of a double. -/
def sign (x : Float) : List Char := if isNegative x.toBits then ['-'] else []

theorem sign_mem (x : Float) : sign x ∈ Pattern.optional Pattern.sign := by
  rw [Pattern.mem_optional, sign]
  split
  · exact .inr ⟨'-', rfl, by decide⟩
  · exact .inl rfl

theorem text_of_zero (h : Magnitude.ofBits x.toBits = .zero) :
    (text x).toList = sign x ++ "0.0".toList := by
  simp only [text, h, String.toList_ofList, sign]

theorem text_of_finite {b : Binary} (h : Magnitude.ofBits x.toBits = .finite b) :
    (text x).toList = sign x ++ b.shortest.format format := by
  simp only [text, h, String.toList_ofList, sign]

/-- A double between the bounds is written as a real. -/
theorem text_mem_real (h : IsPlain x) : (text x).toList ∈ Pattern.real := by
  rcases (isPlain_iff x).1 h with hzero | ⟨b, hb, hbounds⟩
  · rw [text_of_zero hzero]
    exact Pattern.mem_real.2 ⟨sign x, ['0'], ['0'], sign_mem x, Decimal.isDigit_replicate 1,
      List.cons_ne_nil _ _, Decimal.isDigit_replicate 1, rfl⟩
  · have hpositions := (Binary.point_inside_iff (Magnitude.isDouble_of_ofBits hb)).2 hbounds
    obtain ⟨ds, fs, hds, hne, hfs, htext⟩ := b.shortest.exists_digits_positional
    rw [text_of_finite hb, Decimal.format, if_pos hpositions, htext]
    exact Pattern.mem_real.2 ⟨sign x, ds, fs, sign_mem x, hds, hne, hfs, rfl⟩

theorem kinds_of_infinite (h : Magnitude.ofBits x.toBits = .infinite) :
    ∃ us, tokenize (text x) = .ok us ∧ us.map Token.kind = [.id] := by
  have htext : text x = "inf" ∨ text x = "-inf" := by
    simp only [text, h]
    split
    · exact .inr (by decide)
    · exact .inl (by decide)
  rcases htext with htext | htext <;> rw [htext]
  · exact ⟨[⟨.id, "inf", ⟨0, 3⟩⟩], by decide +kernel, rfl⟩
  · exact ⟨[⟨.id, "-inf", ⟨0, 4⟩⟩], by decide +kernel, rfl⟩

/-- A finite double outside the bounds has an exponent, and this is an identifier. -/
theorem kinds_of_outside {b : Binary} (h : Magnitude.ofBits x.toBits = .finite b)
    (houtside : ¬(¬b.Below lower ∧ b.Below upper)) :
    ∃ us, tokenize (text x) = .ok us ∧
      (us.map Token.kind = [.int, .id] ∨ us.map Token.kind = [.real, .id]) := by
  rw [← Binary.point_inside_iff (Magnitude.isDouble_of_ofBits h)] at houtside
  obtain ⟨kind, w, hnumber, htext⟩ := b.shortest.exists_number_scientific (sign_mem x)
  let exponent := (toString (b.shortest.point - 1)).toList
  have hsource : (text x).toList = (sign x ++ w) ++ 'e' :: exponent := by
    rw [text_of_finite h, Decimal.format, if_neg houtside, htext, List.append_assoc]
  have hword : ∀ d ∈ 'e' :: exponent, Rule.isWordChar d = true := by
    refine List.forall_mem_cons.2 ⟨by decide, ?_⟩
    exact Pattern.isWordChar_of_mem_integer (Pattern.toString_mem_integer _)
  obtain ⟨us, hus, hkinds⟩ := hnumber.tokenize (by decide) hword hsource
  refine ⟨us, hus, ?_⟩
  rw [hkinds]
  rcases hnumber with ⟨rfl, -⟩ | ⟨rfl, -⟩
  · exact .inl rfl
  · exact .inr rfl

/-- The text of any other double is an identifier, or a number and an identifier. -/
theorem kinds_of_not_plain (h : ¬IsPlain x) :
    ∃ us, tokenize (text x) = .ok us ∧
      us.map Token.kind ∈ [[.id], [.int, .id], [.real, .id]] := by
  rw [isPlain_iff] at h
  cases hx : Magnitude.ofBits x.toBits with
  | zero => exact absurd (.inl hx) h
  | undefined =>
      have htext : text x = "NaN" := by simp only [text, hx]
      rw [htext]
      exact ⟨[⟨.id, "NaN", ⟨0, 3⟩⟩], by decide +kernel, by decide⟩
  | infinite =>
      obtain ⟨us, hus, hkinds⟩ := kinds_of_infinite hx
      exact ⟨us, hus, by simp [hkinds]⟩
  | finite b =>
      obtain ⟨us, hus, hkinds⟩ := kinds_of_outside hx fun hbounds => h (.inr ⟨b, hx, hbounds⟩)
      exact ⟨us, hus, by rcases hkinds with hkinds | hkinds <;> simp [hkinds]⟩

end Real

/-! ## Values -/

namespace Value

/-- The kind of the tokens that denote such a value. -/
def kind : Value → Kind
  | symbol _ => .id
  | int _ => .int
  | real _ => .real
  | string _ => .string

variable {t : Token} {v : Value}

/-- Whether the text of a value is one token of the kind that fits it. -/
def KeepsKind (v : Value) : Prop := ∃ u, tokenize v.text = .ok [u] ∧ u.kind = v.kind

theorem ReadsBack.keepsKind (h : v.ReadsBack v.kind) : v.KeepsKind := ⟨_, h.lexed, rfl⟩

theorem kind_of_ofToken (h : ofToken t = .ok v) : t.kind = v.kind := by
  unfold ofToken at h
  split at h
  · cases h
    assumption
  · split at h <;> cases h
    assumption
  · split at h <;> cases h
    assumption
  · split at h <;> cases h
    assumption
  · cases h
  · cases h

theorem keepsKind_real_iff (x : Float) : (real x).KeepsKind ↔ Real.IsPlain x := by
  constructor
  · rintro ⟨u, hu, hkind⟩
    by_contra hplain
    obtain ⟨us, hus, hkinds⟩ := Real.kinds_of_not_plain hplain
    obtain rfl : us = [u] := Except.ok.inj (hus.symm.trans hu)
    rw [List.map_singleton, hkind, kind] at hkinds
    exact absurd hkinds (by decide)
  · intro hplain
    let u : Token := ⟨.real, Real.text x, ⟨0, 0⟩⟩
    have hlexable : u.Lexable :=
      Token.lexable_of_mem (by simp [Pattern.patterns, u]) (Real.text_mem_real hplain)
    exact ⟨_, hlexable, rfl⟩

/-- Only a real can fail to read back as what it is. -/
theorem keepsKind_of_plain (h : t.Lexed) (hv : ofToken t = .ok v)
    (hplain : ∀ x, v = .real x → Real.IsPlain x) : v.KeepsKind := by
  have hkind := kind_of_ofToken hv
  cases v with
  | symbol name =>
      have hname : t.text = name := by
        simp only [ofToken, hkind, kind] at hv
        exact symbol.inj (Except.ok.inj hv)
      rw [← hname]
      exact (readsBack_symbol h hkind).keepsKind
  | int n => exact (readsBack_int n).keepsKind
  | real x => exact (keepsKind_real_iff x).2 (hplain x rfl)
  | string s => exact (readsBack_string s).keepsKind

end Value

/-- Every real of a source has a value.  The text of the value of a token is one token of the same
kind, unless it is the value of a real that is neither zero nor, without its sign, at least 1e-4
and less than 1e16 as a double.  The text of such a real is an identifier, or a number and
an identifier behind it. -/
theorem value_text_keeps_kind_iff {source : String} {ts : List Token}
    (h : tokenize source = .ok ts) {t : Token} (ht : t ∈ ts) :
    (t.kind = .real → ∃ x, Value.ofToken t = .ok (.real x)) ∧
    ∀ v, Value.ofToken t = .ok v →
      ((∃ u, tokenize v.text = .ok [u] ∧ u.kind = t.kind) ↔ ∀ x, v = .real x → Real.IsPlain x) ∧
      ∀ x, v = .real x → ¬Real.IsPlain x → ∃ us, tokenize v.text = .ok us ∧
        us.map Token.kind ∈ [[.id], [.int, .id], [.real, .id]] := by
  have hlexed := Token.lexed_of_tokenize h ht
  refine ⟨Value.ofToken_real hlexed, ?_⟩
  intro v hv
  refine ⟨?_, ?_⟩
  · rw [Value.kind_of_ofToken hv]
    constructor
    · rintro hkeeps x rfl
      exact (Value.keepsKind_real_iff x).1 hkeeps
    · exact Value.keepsKind_of_plain hlexed hv
  · rintro x rfl hplain
    exact Real.kinds_of_not_plain hplain

/-- A real just below the upper bound. -/
theorem value_text_keeps_kind_below_bound :
    ∃ x, Value.ofToken ⟨.real, "9999999999999998.0", ⟨0, 18⟩⟩ = .ok (.real x) ∧
      ∃ u, tokenize (Value.real x).text = .ok [u] ∧ u.kind = .real := by
  let t : Token := ⟨.real, "9999999999999998.0", ⟨0, 18⟩⟩
  have hts : tokenize "9999999999999998.0" = .ok [t] := by decide +kernel
  have hread : Real.ofString? "9999999999999998.0" = some 9999999999999998.0 := by decide +kernel
  have hvalue : Value.ofToken t = .ok (.real 9999999999999998.0) := by
    simp only [Value.ofToken, t, hread]
  refine ⟨_, hvalue, ?_⟩
  refine ((value_text_keeps_kind_iff hts List.mem_cons_self).2 _ hvalue).1.2 ?_
  intro x hx
  rw [← Value.real.inj hx]
  decide +kernel

/-- A real at the upper bound reads back as an integer and a symbol. -/
theorem value_text_splits_at_bound :
    tokenize "10000000000000000.0" = .ok [⟨.real, "10000000000000000.0", ⟨0, 19⟩⟩] ∧
    (Value.ofToken ⟨.real, "10000000000000000.0", ⟨0, 19⟩⟩).map Value.text = .ok "1e16" ∧
    tokenize "1e16" = .ok [⟨.int, "1", ⟨0, 1⟩⟩, ⟨.id, "e16", ⟨1, 4⟩⟩] := by
  refine ⟨by decide +kernel, by decide +kernel, by decide +kernel⟩

end Sexpr
