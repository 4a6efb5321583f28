/-
Values that read back.

The text of a symbol, an integer or a string is source text: alone it is one token, of the
kind that fits the value, and this token denotes the value again.  The digits of an integer
are read by a sum of their own, a string by the units of its body, and a symbol by nothing
but its kind.
-/
import Sexpr.Proofs.Lexing.Spacing
import Sexpr.Proofs.Value.Escape
import Sexpr.Proofs.Value.Numeral

namespace Sexpr

namespace Text

variable {cs : List Char}

/-! ## Integers -/

theorem ofDigits_of_isDigit (h : ∀ c ∈ cs, c.isDigit = true) :
    ofDigits 10 cs = Nat.ofDigitChars 10 cs 0 := by
  rw [ofDigits, Nat.ofDigitChars_eq_foldl]
  refine List.foldl_ext _ _ _ ?_
  intro n c hc
  rw [digitValue, if_pos (h c hc), Nat.mul_comm]

theorem isDigit_toDigits (n : Nat) : ∀ c ∈ Nat.toDigits 10 n, c.isDigit = true :=
  fun _ hc => Nat.isDigit_of_mem_toDigits (by decide) (by decide) hc

theorem natural?_toDigits (n : Nat) : natural? (Nat.toDigits 10 n) = some n := by
  have hall : (Nat.toDigits 10 n).all Char.isDigit = true :=
    List.all_eq_true.2 (isDigit_toDigits n)
  have hne : (Nat.toDigits 10 n).isEmpty = false := List.isEmpty_eq_false_iff.2 Nat.toDigits_ne_nil
  rw [natural?, hall, hne, ofDigits_of_isDigit (isDigit_toDigits n),
    Nat.ofDigitChars_ten_toDigits]
  rfl

theorem toList_toString_nat (n : Nat) : (toString n).toList = Nat.toDigits 10 n := by
  rw [Nat.toString_eq_ofList_toDigits, String.toList_ofList]

/-- How an integer is written: its digits, with a minus in front if it is negative. -/
theorem toList_toString (n : Int) :
    (∃ m : Nat, n = m ∧ (toString n).toList = Nat.toDigits 10 m) ∨
      ∃ m : Nat, n = -m ∧ (toString n).toList = '-' :: Nat.toDigits 10 m := by
  cases n with
  | ofNat m => exact .inl ⟨m, rfl, toList_toString_nat m⟩
  | negSucc m =>
      refine .inr ⟨m + 1, rfl, ?_⟩
      show ("-" ++ toString (m + 1)).toList = _
      rw [String.toList_append, toList_toString_nat]
      rfl

theorem integer?_toString (n : Int) : integer? (toString n).toList = some n := by
  rcases toList_toString n with ⟨m, rfl, htext⟩ | ⟨m, rfl, htext⟩
  · rw [htext, integer?_of_isDigit (isDigit_toDigits m), natural?_toDigits]
    rfl
  · rw [htext]
    show (natural? (Nat.toDigits 10 m)).map (fun n => -(n : Int)) = _
    rw [natural?_toDigits]
    rfl

end Text

theorem Pattern.toString_mem_integer (n : Int) : (toString n).toList ∈ Pattern.integer := by
  rcases Text.toList_toString n with ⟨m, -, htext⟩ | ⟨m, -, htext⟩
  · rw [htext]
    exact mem_integer.2 ⟨[], _, mem_optional.2 (.inl rfl), Nat.toDigits_ne_nil,
      Text.isDigit_toDigits m, rfl⟩
  · rw [htext]
    exact mem_integer.2 ⟨['-'], _, mem_optional.2 (.inr ⟨'-', rfl, by decide⟩),
      Nat.toDigits_ne_nil, Text.isDigit_toDigits m, rfl⟩

namespace Value

theorem int64?_toString (n : Int64) : int64? (toString n.toInt) = some n := by
  have hbounds : Int64.minValue.toInt ≤ n.toInt ∧ n.toInt ≤ Int64.maxValue.toInt :=
    ⟨n.le_toInt, n.toInt_le⟩
  simp only [int64?, Text.integer?_toString, hbounds, and_self, if_true, Int64.ofInt_toInt]

theorem string?_quote (s : String) : string? (Text.quote s) = some s := by
  rw [string?, Text.unquote?_quote, Option.bind_some, Text.unescape_escaped, Option.map_some,
    String.ofList_toList]

/-- Whether the text of a value is one token of a kind, and this token denotes the value. -/
structure ReadsBack (v : Value) (kind : Kind) : Prop where
  lexed : tokenize v.text = .ok [⟨kind, v.text, ⟨0, v.text.utf8ByteSize⟩⟩]
  denotes : ofToken ⟨kind, v.text, ⟨0, v.text.utf8ByteSize⟩⟩ = .ok v

theorem readsBack_int (n : Int64) : (int n).ReadsBack .int where
  lexed := Token.lexable_of_mem (t := ⟨.int, toString n.toInt, ⟨0, 0⟩⟩) (by simp [Pattern.patterns])
    (Pattern.toString_mem_integer n.toInt)
  denotes := by
    simp only [ofToken, text, int64?_toString]

theorem readsBack_string (s : String) : (string s).ReadsBack .string where
  lexed := Token.lexable_of_mem (t := ⟨.string, Text.quote s, ⟨0, 0⟩⟩) (by simp [Pattern.patterns])
    (Pattern.quote_mem_string s)
  denotes := by
    simp only [ofToken, text, string?_quote]

theorem readsBack_symbol {t : Token} (h : t.Lexed) (hk : t.kind = .id) :
    (symbol t.text).ReadsBack .id where
  lexed := by
    have hscan := Token.lexable_iff_lexed.2 h
    rw [Token.Lexable, hk] at hscan
    exact hscan
  denotes := rfl

end Value

/-- Integers, strings and the symbols that a source can hold read back from their text. -/
theorem values_read_back :
    (∀ n : Int64, (Value.int n).ReadsBack .int) ∧
    (∀ s : String, (Value.string s).ReadsBack .string) ∧
    ∀ (source : String) (ts : List Token), tokenize source = .ok ts →
      ∀ t ∈ ts, t.kind = .id → (Value.symbol t.text).ReadsBack .id := by
  refine ⟨Value.readsBack_int, Value.readsBack_string, ?_⟩
  intro source ts h t ht hk
  exact Value.readsBack_symbol (Token.lexed_of_tokenize h ht) hk

/-- The least integer, a text that looks like an escape, and a symbol that starts as a number
does. -/
theorem values_read_back_at_extremes :
    tokenize "-9223372036854775808" = .ok [⟨.int, "-9223372036854775808", ⟨0, 20⟩⟩] ∧
    Value.ofToken ⟨.string, "\"\\\\u\\n\"", ⟨0, 7⟩⟩ = .ok (.string "\\u\n") ∧
    (Value.symbol "+é").ReadsBack .id := by
  have hts : tokenize "1 +é" = .ok [⟨.int, "1", ⟨0, 1⟩⟩, ⟨.id, "+é", ⟨2, 5⟩⟩] := by decide +kernel
  exact ⟨(values_read_back.1 Int64.minValue).lexed, (values_read_back.2.1 "\\u\n").denotes,
    values_read_back.2.2 _ _ hts ⟨.id, "+é", ⟨2, 5⟩⟩ (by simp) rfl⟩

end Sexpr
