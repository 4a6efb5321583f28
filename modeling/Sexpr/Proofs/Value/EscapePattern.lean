/-
Escapes as patterns.

The body of a string can be cut by the longest match among a list of patterns.  Each pattern
has a reading of the texts it matches, which may refuse some of them.  Where nothing matches,
or the longest match is refused, the body comes to nothing.

No text is matched by two of the patterns, and no text that one of them matches begins
another.  So there is one match at most at any place, and to take unit by unit, as unescaping
does, comes to the same.
-/
import Sexpr.Proofs.Lexing.Pattern
import Sexpr.Proofs.Value.Codeword

namespace Sexpr
namespace Pattern

open scoped Computability
open Text

/-- A pattern, and what the texts it matches stand for. -/
structure Escape where
  texts : Language Char
  reading : List Char → Option (List Char)

/-- A backslash and one letter, which stand for `c`. -/
def control (letter c : Char) : Escape where
  texts := {['\\', letter]}
  reading _ := some [c]

def hexDigit : Language Char :=
  oneOf fun c => ('a' ≤ c && c ≤ 'f') || ('A' ≤ c && c ≤ 'F') || ('0' ≤ c && c ≤ '9')

/-- Reads a number of 32 bits in base sixteen, with or without a plus before it. -/
def hex32? (cs : List Char) : Option Nat :=
  let ds := if cs.head? = some '+' then cs.tail else cs
  if ds ≠ [] ∧ ds.all isHexDigit ∧ ofDigits 16 ds < 2 ^ 32 then some (ofDigits 16 ds) else none

def character? (n : Nat) : Option Char :=
  if n.isValidChar then some (Char.ofNat n) else none

/-- `\\u\{[a-fA-F0-9]+\}` -/
def codePoint : Escape where
  texts := {['\\', 'u', '\x7b']} * atLeastOne hexDigit * {['\x7d']}
  reading w := do
    let n ← hex32? (w.drop 3).dropLast
    return [← character? n]

/-- `\\[^nrt"\\u]` -/
def verbatim : Escape where
  texts := {['\\']} * oneOf (· ∉ ['n', 'r', 't', '"', '\\', 'u'])
  reading w := do return [← (w.drop 1).head?]

/-- `[^\\]` -/
def plain : Escape where
  texts := oneOf (· != '\\')
  reading w := some w

def escapes : List Escape :=
  [control 'n' '\n', control 'r' '\r', control 't' '\t', control '"' '"', control '\\' '\\',
    codePoint, verbatim, plain]

/-- The pattern `e` matches `w` at the front of `cs`, and none matches more. -/
structure LongestEscape (cs : List Char) (e : Escape) (w : List Char) : Prop where
  mem : e ∈ escapes
  matched : w ∈ e.texts
  front : w <+: cs
  longest : ∀ e' ∈ escapes, ∀ w' ∈ e'.texts, w' <+: cs → w'.length ≤ w.length

/-- What a body comes to if it is cut by the longest match. -/
inductive Unescapes : List Char → Option (List Char) → Prop where
  | done : Unescapes [] (some [])
  | stuck {cs : List Char} : cs ≠ [] → (∀ e w, ¬LongestEscape cs e w) → Unescapes cs none
  | refused {e : Escape} {w r : List Char} : LongestEscape (w ++ r) e w → e.reading w = none →
      Unescapes (w ++ r) none
  | unit {e : Escape} {w r as : List Char} {out : Option (List Char)} :
      LongestEscape (w ++ r) e w → e.reading w = some as → Unescapes r out →
      Unescapes (w ++ r) (out.map (as ++ ·))

/-! ## What is matched -/

variable {c : Char} {e e' : Escape} {ds cs w w' r as : List Char} {out : Option (List Char)}

theorem mem_atLeastOne_hexDigit :
    ds ∈ atLeastOne hexDigit ↔ ds ≠ [] ∧ ∀ d ∈ ds, isHexDigit d = true := by
  have hdigit : hexDigit = oneOf isHexDigit := by
    refine congrArg oneOf (funext fun c => ?_)
    rw [isHexDigit, Bool.or_assoc c.isDigit, Bool.or_comm c.isDigit]
    rfl
  rw [hdigit, mem_atLeastOne]

/-- The patterns of one letter stand for what the letter means behind a backslash. -/
theorem mem_escapes : e ∈ escapes ↔
    (∃ d ∈ ['n', 'r', 't', '"', '\\'], control d (hidden d) = e) ∨
      e ∈ [codePoint, verbatim, plain] := by
  have hescapes : escapes = ['n', 'r', 't', '"', '\\'].map (fun d => control d (hidden d)) ++
      [codePoint, verbatim, plain] := rfl
  rw [hescapes, List.mem_append, List.mem_map]

theorem mem_control {letter : Char} : w ∈ (control letter c).texts ↔ w = ['\\', letter] := Iff.rfl

theorem mem_codePoint : w ∈ codePoint.texts ↔
    ∃ ds, ds ≠ [] ∧ (∀ d ∈ ds, isHexDigit d = true) ∧
      w = '\\' :: 'u' :: '\x7b' :: (ds ++ ['\x7d']) := by
  simp only [codePoint, Language.mem_mul]
  constructor
  · rintro ⟨_, ⟨_, rfl, ds, hds, rfl⟩, _, rfl, rfl⟩
    obtain ⟨hne, hds⟩ := mem_atLeastOne_hexDigit.1 hds
    exact ⟨ds, hne, hds, rfl⟩
  · rintro ⟨ds, hne, hds, rfl⟩
    exact ⟨_, ⟨_, rfl, ds, mem_atLeastOne_hexDigit.2 ⟨hne, hds⟩, rfl⟩, _, rfl, rfl⟩

theorem mem_verbatim : w ∈ verbatim.texts ↔
    ∃ c, c ∉ ['n', 'r', 't', '"', '\\', 'u'] ∧ w = ['\\', c] := by
  simp only [verbatim, Language.mem_mul]
  constructor
  · rintro ⟨_, rfl, _, ⟨c, rfl, hc⟩, rfl⟩
    exact ⟨c, of_decide_eq_true hc, rfl⟩
  · rintro ⟨c, hc, rfl⟩
    exact ⟨_, rfl, _, ⟨c, rfl, decide_eq_true hc⟩, rfl⟩

theorem mem_plain : w ∈ plain.texts ↔ ∃ c, c ≠ '\\' ∧ w = [c] := by
  constructor
  · rintro ⟨c, rfl, hc⟩
    exact ⟨c, bne_iff_ne.1 hc, rfl⟩
  · rintro ⟨c, hc, rfl⟩
    exact ⟨c, rfl, bne_iff_ne.2 hc⟩

theorem character?_eq_some_iff {n : Nat} : character? n = some c ↔ c.toNat = n := by
  unfold character?
  constructor
  · intro h
    obtain ⟨hvalid, hc⟩ := Option.ite_none_right_eq_some.1 h
    rw [← Option.some.inj hc, toNat_ofNat hvalid]
  · rintro rfl
    have hvalid : c.toNat.isValidChar := c.valid
    rw [if_pos hvalid, Char.ofNat_toNat]

theorem hex32?_of_digits (hne : ds ≠ []) (hds : ∀ d ∈ ds, isHexDigit d = true) :
    hex32? ds = if ofDigits 16 ds < 2 ^ 32 then some (ofDigits 16 ds) else none := by
  obtain ⟨d, r, rfl⟩ := List.exists_cons_of_ne_nil hne
  have hplus : (d :: r).head? ≠ some '+' := by
    rintro ⟨⟩
    exact absurd (hds '+' List.mem_cons_self) (by decide)
  have hall : (d :: r).all isHexDigit = true := List.all_eq_true.2 hds
  simp only [hex32?, if_neg hplus, hall, hne, ne_eq, not_false_eq_true, true_and]

/-- The digits between the braces are read as they are.  A number that does not fit into 32
bits is no character in any case. -/
theorem reading_codePoint (hne : ds ≠ []) (hds : ∀ d ∈ ds, isHexDigit d = true) :
    codePoint.reading ('\\' :: 'u' :: '\x7b' :: (ds ++ ['\x7d'])) =
      (character? (ofDigits 16 ds)).map ([·]) := by
  show (hex32? (ds ++ ['\x7d']).dropLast).bind _ = _
  rw [List.dropLast_concat, hex32?_of_digits hne hds]
  split
  · show (character? _).bind _ = _
    rw [Option.map_eq_bind]
    rfl
  · rename_i hlarge
    have hinvalid : ¬(ofDigits 16 ds).isValidChar := by
      rintro (h | ⟨-, h⟩) <;> omega
    rw [character?, if_neg hinvalid]
    rfl

/-! ## One match at a place -/

/-- The only pattern that can match at the front of a text, and how much. -/
def ahead : List Char → Escape × Nat
  | '\\' :: 'u' :: r => (codePoint, (r.tail.takeWhile isHexDigit).length + 4)
  | '\\' :: d :: _ =>
    (if d ∈ ['n', 'r', 't', '"', '\\'] then control d (hidden d) else verbatim, 2)
  | _ => (plain, 1)

theorem ahead_append (he : e ∈ escapes) (hw : w ∈ e.texts) (r : List Char) :
    ahead (w ++ r) = (e, w.length) := by
  simp only [mem_escapes, List.mem_cons, List.not_mem_nil, or_false] at he
  rcases he with ⟨d, hd, rfl⟩ | rfl | rfl | rfl
  · rw [mem_control.1 hw]
    rcases hd with rfl | rfl | rfl | rfl | rfl <;> rfl
  · obtain ⟨ds, -, hds, rfl⟩ := mem_codePoint.1 hw
    have hdigits := takeWhile_isHexDigit_append hds r
    show (codePoint, ((ds ++ ['\x7d'] ++ r).takeWhile isHexDigit).length + 4) = _
    rw [List.append_assoc, List.singleton_append, hdigits]
    simp only [List.length_cons, List.length_append, List.length_nil]
  · obtain ⟨c, hc, rfl⟩ := mem_verbatim.1 hw
    simp only [List.mem_cons, List.not_mem_nil, or_false, not_or] at hc
    simp [ahead, hc]
  · obtain ⟨c, hc, rfl⟩ := mem_plain.1 hw
    simp [ahead, hc]

theorem length_pos_of_matched (he : e ∈ escapes) (hw : w ∈ e.texts) : 0 < w.length := by
  have hahead : (ahead (w ++ [])).2 = w.length := congrArg Prod.snd (ahead_append he hw [])
  rw [← hahead, ahead.eq_def]
  split <;> exact Nat.succ_pos _

/-- Patterns that match at the same place are the same, and match the same. -/
theorem eq_of_front (he : e ∈ escapes) (hw : w ∈ e.texts) (hfront : w <+: cs)
    (he' : e' ∈ escapes) (hw' : w' ∈ e'.texts) (hfront' : w' <+: cs) : e = e' ∧ w = w' := by
  obtain ⟨r, rfl⟩ := hfront
  obtain ⟨r', hr'⟩ := hfront'
  have hsame : (e, w.length) = (e', w'.length) := by
    rw [← ahead_append he hw r, ← ahead_append he' hw' r', hr']
  obtain ⟨he, hlength⟩ := Prod.mk.inj hsame
  exact ⟨he, (List.append_inj hr' hlength.symm).1.symm⟩

/-- No match is longer than another at the same place. -/
theorem longestEscape_iff :
    LongestEscape cs e w ↔ e ∈ escapes ∧ w ∈ e.texts ∧ w <+: cs := by
  constructor
  · intro h
    exact ⟨h.mem, h.matched, h.front⟩
  · rintro ⟨he, hw, hfront⟩
    refine ⟨he, hw, hfront, ?_⟩
    intro e' he' w' hw' hfront'
    rw [(eq_of_front he hw hfront he' hw' hfront').2]

/-- No two patterns match as much at the same place. -/
theorem LongestEscape.unique (h : LongestEscape cs e w) (h' : LongestEscape cs e' w') :
    e = e' ∧ w = w' :=
  eq_of_front h.mem h.matched h.front h'.mem h'.matched h'.front

/-! ## Readings and units -/

theorem exists_escape_of_denotes (h : Denotes w c) :
    ∃ e ∈ escapes, w ∈ e.texts ∧ e.reading w = some [c] := by
  cases h with
  | lineFeed => exact ⟨control 'n' '\n', by simp [escapes], rfl, rfl⟩
  | carriageReturn => exact ⟨control 'r' '\r', by simp [escapes], rfl, rfl⟩
  | tab => exact ⟨control 't' '\t', by simp [escapes], rfl, rfl⟩
  | quote => exact ⟨control '"' '"', by simp [escapes], rfl, rfl⟩
  | backslash => exact ⟨control '\\' '\\', by simp [escapes], rfl, rfl⟩
  | codePoint hne hcs =>
      obtain ⟨hds, hvalue⟩ := writesHex_iff.1 hcs
      refine ⟨codePoint, by simp [escapes], mem_codePoint.2 ⟨_, hne, hds, rfl⟩, ?_⟩
      rw [reading_codePoint hne hds, character?_eq_some_iff.2 hvalue.symm]
      rfl
  | verbatim hc => exact ⟨verbatim, by simp [escapes], mem_verbatim.2 ⟨c, hc, rfl⟩, rfl⟩
  | plain hc => exact ⟨plain, by simp [escapes], mem_plain.2 ⟨c, hc, rfl⟩, rfl⟩

theorem denotes_of_reading (he : e ∈ escapes) (hw : w ∈ e.texts) (h : e.reading w = some as) :
    ∃ c, as = [c] ∧ Denotes w c := by
  simp only [mem_escapes, List.mem_cons, List.not_mem_nil, or_false] at he
  rcases he with ⟨d, hd, rfl⟩ | rfl | rfl | rfl
  · obtain rfl := mem_control.1 hw
    have hu : d ≠ 'u' := by
      rintro rfl
      exact absurd hd (by decide)
    exact ⟨hidden d, (Option.some.inj h).symm, denotes_hidden hu⟩
  · obtain ⟨ds, hne, hds, rfl⟩ := mem_codePoint.1 hw
    rw [reading_codePoint hne hds] at h
    obtain ⟨c, hc, rfl⟩ := Option.map_eq_some_iff.1 h
    have hvalue := character?_eq_some_iff.1 hc
    exact ⟨c, rfl, .codePoint hne (writesHex_iff.2 ⟨hds, hvalue.symm⟩)⟩
  · obtain ⟨c, hc, rfl⟩ := mem_verbatim.1 hw
    exact ⟨c, (Option.some.inj h).symm, .verbatim hc⟩
  · obtain ⟨c, hc, rfl⟩ := mem_plain.1 hw
    exact ⟨c, (Option.some.inj h).symm, .plain hc⟩

/-- What is read as a unit is a match whose reading is one character, and the other way
round. -/
theorem unit?_eq_some_iff {n : Nat} :
    unit? cs = some (c, n) ↔
      ∃ e w, LongestEscape cs e w ∧ e.reading w = some [c] ∧ n = w.length := by
  constructor
  · intro h
    obtain ⟨w, r, rfl, rfl, hdenotes⟩ := exists_of_unit? h
    obtain ⟨e, he, hw, hreading⟩ := exists_escape_of_denotes hdenotes
    exact ⟨e, w, longestEscape_iff.2 ⟨he, hw, List.prefix_append w r⟩, hreading, rfl⟩
  · rintro ⟨e, w, hlongest, hreading, rfl⟩
    obtain ⟨r, rfl⟩ := hlongest.front
    obtain ⟨d, hd, hdenotes⟩ := denotes_of_reading hlongest.mem hlongest.matched hreading
    obtain ⟨rfl, -⟩ := List.cons.inj hd
    exact unit?_of_denotes hdenotes r

/-! ## The whole body -/

theorem unescape_eq_none (hne : cs ≠ [])
    (h : ∀ e w, LongestEscape cs e w → ∀ c, e.reading w ≠ some [c]) : unescape cs = none := by
  obtain ⟨d, r, rfl⟩ := List.exists_cons_of_ne_nil hne
  apply unescape_of_stuck
  rw [Option.eq_none_iff_forall_ne_some]
  rintro ⟨c, n⟩ hunit
  obtain ⟨e, w, hlongest, hreading, -⟩ := unit?_eq_some_iff.1 hunit
  exact h e w hlongest c hreading

theorem eq_unescape (h : Unescapes cs out) : out = unescape cs := by
  induction h with
  | done => rw [unescape]
  | stuck hne hnone => exact (unescape_eq_none hne fun e w h => absurd h (hnone e w)).symm
  | @refused e w r hlongest hrefused =>
      have hpos := length_pos_of_matched hlongest.mem hlongest.matched
      have hne : w ++ r ≠ [] := List.append_ne_nil_of_left_ne_nil (List.length_pos_iff.1 hpos) r
      refine (unescape_eq_none hne ?_).symm
      intro e' w' h' c hreading
      obtain ⟨rfl, rfl⟩ := hlongest.unique h'
      rw [hrefused] at hreading
      cases hreading
  | @unit e w r as out hlongest hreading _ ih =>
      obtain ⟨c, rfl, hdenotes⟩ := denotes_of_reading hlongest.mem hlongest.matched hreading
      rw [unescape_of_unit (unit?_of_denotes hdenotes r), List.drop_left, ← ih]
      rfl

theorem exists_unescapes (cs : List Char) : ∃ out, Unescapes cs out := by
  by_cases hne : cs = []
  · rw [hne]
    exact ⟨_, .done⟩
  by_cases hmatch : ∃ e w, LongestEscape cs e w
  · obtain ⟨e, w, hlongest⟩ := hmatch
    obtain ⟨r, hr⟩ := hlongest.front
    have hpos := length_pos_of_matched hlongest.mem hlongest.matched
    have hlength : w.length + r.length = cs.length := by rw [← hr, List.length_append]
    obtain ⟨out, hout⟩ := exists_unescapes r
    rw [← hr] at hlongest ⊢
    cases hreading : e.reading w with
    | none => exact ⟨_, .refused hlongest hreading⟩
    | some as => exact ⟨_, .unit hlongest hreading hout⟩
  · exact ⟨_, .stuck hne fun e w h => hmatch ⟨e, w, h⟩⟩
termination_by cs.length
decreasing_by omega

/-- Unescaping cuts a body by the longest match among the patterns. -/
theorem unescapes_iff : Unescapes cs out ↔ out = unescape cs := by
  constructor
  · exact eq_unescape
  · rintro rfl
    obtain ⟨out, hout⟩ := exists_unescapes cs
    rw [← eq_unescape hout]
    exact hout

end Pattern
end Sexpr
