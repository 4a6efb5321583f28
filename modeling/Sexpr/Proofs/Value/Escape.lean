/-
Escaping and unescaping.

An escaped character is one unit of a body and stands for itself there.  So what is
unescaped unit by unit was escaped character by character, and the body of a quoted text
is one that the lexer runs through to the closing quote.
-/
import Sexpr.Text.Escape
import Sexpr.Proofs.Lexing.Pattern

namespace Sexpr
namespace Text

variable {c : Char} {cs r : List Char}

/-- A character is written as it is or as a backslash and the character that hides it. -/
theorem escapeChar_cases (c : Char) :
    (c ≠ '"' ∧ c ≠ '\\' ∧ escapeChar c = [c]) ∨
      ∃ d, d ≠ 'u' ∧ d ≠ '\n' ∧ hidden d = c ∧ escapeChar c = ['\\', d] := by
  by_cases hn : c = '\n'
  · exact .inr ⟨'n', by decide, by decide, hn.symm, by rw [hn]; rfl⟩
  by_cases hr : c = '\r'
  · exact .inr ⟨'r', by decide, by decide, hr.symm, by rw [hr]; rfl⟩
  by_cases ht : c = '\t'
  · exact .inr ⟨'t', by decide, by decide, ht.symm, by rw [ht]; rfl⟩
  by_cases hq : c = '"'
  · exact .inr ⟨'"', by decide, by decide, hq.symm, by rw [hq]; rfl⟩
  by_cases hb : c = '\\'
  · exact .inr ⟨'\\', by decide, by decide, hb.symm, by rw [hb]; rfl⟩
  · exact .inl ⟨hq, hb, by simp only [escapeChar, hn, hr, ht, hq, hb, if_false]⟩

theorem unit?_of_plain (hc : c ≠ '\\') (r : List Char) : unit? (c :: r) = some (c, 1) := by
  cases r with
  | nil => simp only [unit?, hc, if_false]
  | cons d r => simp only [unit?, hc, if_false]

theorem unit?_of_hidden {d : Char} (hd : d ≠ 'u') (r : List Char) :
    unit? ('\\' :: d :: r) = some (hidden d, 2) := by
  simp only [unit?, if_true, hd, if_false]

theorem unit?_escapeChar (c : Char) (r : List Char) :
    unit? (escapeChar c ++ r) = some (c, (escapeChar c).length) := by
  rcases escapeChar_cases c with ⟨-, hb, he⟩ | ⟨d, hu, -, rfl, he⟩
  · rw [he]
    exact unit?_of_plain hb r
  · rw [he]
    exact unit?_of_hidden hu r

theorem unescape_of_unit {n : Nat} (h : unit? cs = some (c, n)) :
    unescape cs = (unescape (cs.drop n)).map (c :: ·) := by
  cases cs with
  | nil => cases h
  | cons d r =>
      rw [unescape]
      split
      · rename_i h'
        rw [h] at h'
        cases h'
      · rename_i c' n' h'
        obtain ⟨rfl, rfl⟩ := Prod.mk.inj (Option.some.inj (h.symm.trans h'))
        rfl

theorem unescape_of_stuck (h : unit? (c :: r) = none) : unescape (c :: r) = none := by
  rw [unescape]
  split
  · rfl
  · rename_i hunit
    rw [h] at hunit
    cases hunit

/-- Escaping is undone character by character. -/
theorem unescape_escaped (cs : List Char) : unescape (cs.flatMap escapeChar) = some cs := by
  induction cs with
  | nil => rw [List.flatMap_nil, unescape]
  | cons c cs ih =>
      rw [List.flatMap_cons, unescape_of_unit (unit?_escapeChar c _), List.drop_left, ih]
      rfl

theorem toList_quote (s : String) :
    (quote s).toList = '"' :: (s.toList.flatMap escapeChar ++ ['"']) := String.toList_ofList

theorem unquote?_of_toList {text : String} (h : text.toList = '"' :: (cs ++ ['"'])) :
    unquote? text = some cs := by
  have hlast : (cs ++ ['"']).getLast? = some '"' := List.getLast?_concat
  simp only [unquote?, h, hlast, List.dropLast_concat, and_self, if_true]

theorem unquote?_quote (s : String) : unquote? (quote s) = some (s.toList.flatMap escapeChar) :=
  unquote?_of_toList (toList_quote s)

end Text

namespace Pattern

open scoped Computability
open Text

/-- The lexer runs through an escaped text: no quote in it is bare, and no backslash stands
before a line feed. -/
theorem escaped_mem_unit_kstar (cs : List Char) : cs.flatMap escapeChar ∈ unit∗ := by
  induction cs with
  | nil => exact nil_mem_unit_kstar
  | cons c cs ih =>
      rw [List.flatMap_cons]
      refine append_mem_unit_kstar ?_ ih
      rcases escapeChar_cases c with ⟨hq, hb, he⟩ | ⟨d, -, hn, -, he⟩
      · rw [he]
        exact mem_unit_of_plain hq hb
      · rw [he]
        exact mem_unit_of_escaped hn

theorem quote_mem_string (s : String) : (Text.quote s).toList ∈ string :=
  mem_string.2 ⟨_, escaped_mem_unit_kstar s.toList, toList_quote s⟩

end Pattern
end Sexpr
