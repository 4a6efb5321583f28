/-
The units of a body as the words of a code.

A body can be decoded exactly if it is a row of units, and then the units are determined and
so are the characters they stand for.  Which texts are units is said here by a list, without
any reading: no unit is longer than it must be to tell that it is one, so none begins another.
This is why a body can be cut from the front, and why what is decoded of one body is not
changed by another behind it.
-/
import Mathlib.InformationTheory.Coding.UniquelyDecodable
import Sexpr.Proofs.Value.Escape
import Sexpr.Proofs.Value.Numeral

namespace Sexpr
namespace Text

/-- Whether `c` is the digit for `d` in base sixteen, small or capital. -/
def IsDigitFor (c : Char) (d : Nat) : Prop :=
  d < 16 ∧ (c = d.digitChar ∨ c = d.digitChar.toUpper)

instance (c : Char) (d : Nat) : Decidable (IsDigitFor c d) := inferInstanceAs (Decidable (_ ∧ _))

/-- Whether the digits `cs` write the number `n` in base sixteen. -/
def WritesHex (cs : List Char) (n : Nat) : Prop :=
  ∃ ds : List Nat, List.Forall₂ IsDigitFor cs ds ∧ n = Nat.ofDigits 16 ds.reverse

/-- Whether `u` is a unit of a body, and stands for `c`. -/
inductive Denotes : List Char → Char → Prop where
  | lineFeed : Denotes ['\\', 'n'] '\n'
  | carriageReturn : Denotes ['\\', 'r'] '\r'
  | tab : Denotes ['\\', 't'] '\t'
  | quote : Denotes ['\\', '"'] '"'
  | backslash : Denotes ['\\', '\\'] '\\'
  | codePoint {cs : List Char} {c : Char} : cs ≠ [] → WritesHex cs c.toNat →
      Denotes ('\\' :: 'u' :: '\x7b' :: (cs ++ ['\x7d'])) c
  | verbatim {c : Char} : c ∉ ['n', 'r', 't', '"', '\\', 'u'] → Denotes ['\\', c] c
  | plain {c : Char} : c ≠ '\\' → Denotes [c] c

/-- The texts that are units. -/
def units : Set (List Char) := {u | ∃ c, Denotes u c}

variable {c d : Char} {n : Nat} {cs u v r : List Char}

/-! ## Numbers in base sixteen -/

theorem digitValue_of_isDigitFor (h : IsDigitFor c n) :
    isHexDigit c = true ∧ digitValue c = n := by
  have hall : ∀ n < 16, (isHexDigit n.digitChar = true ∧ digitValue n.digitChar = n) ∧
      isHexDigit n.digitChar.toUpper = true ∧ digitValue n.digitChar.toUpper = n := by decide
  obtain ⟨hn, rfl | rfl⟩ := h
  · exact (hall n hn).1
  · exact (hall n hn).2

theorem toNat_lt_of_isHexDigit (h : isHexDigit c = true) : c.toNat < 128 := by
  have hle {a : Char} (hc : c ≤ a) (ha : a.toNat < 128) : c.toNat < 128 :=
    Nat.lt_of_le_of_lt hc ha
  simp only [isHexDigit, Char.isDigit, Bool.or_eq_true, Bool.and_eq_true, decide_eq_true_eq] at h
  rcases h with (⟨-, h⟩ | ⟨-, h⟩) | ⟨-, h⟩
  · exact hle (a := '9') h (by decide)
  · exact hle h (by decide)
  · exact hle h (by decide)

theorem isDigitFor_digitValue (h : isHexDigit c = true) : IsDigitFor c (digitValue c) := by
  have hall : ∀ n < 128, isHexDigit (Char.ofNat n) = true →
      IsDigitFor (Char.ofNat n) (digitValue (Char.ofNat n)) := by decide
  have hc := hall c.toNat (toNat_lt_of_isHexDigit h)
  rw [Char.ofNat_toNat] at hc
  exact hc h

/-- The digits that are read are those that write a number, and their sum is this number. -/
theorem writesHex_iff :
    WritesHex cs n ↔ (∀ c ∈ cs, isHexDigit c = true) ∧ ofDigits 16 cs = n := by
  rw [ofDigits_eq]
  constructor
  · rintro ⟨ds, hds, rfl⟩
    have hvalues : (∀ c ∈ cs, isHexDigit c = true) ∧ cs.map digitValue = ds := by
      induction hds with
      | nil => exact ⟨nofun, rfl⟩
      | cons hc _ ih =>
          obtain ⟨hhex, hvalue⟩ := digitValue_of_isDigitFor hc
          exact ⟨List.forall_mem_cons.2 ⟨hhex, ih.1⟩, congrArg₂ List.cons hvalue ih.2⟩
    exact ⟨hvalues.1, by rw [hvalues.2]⟩
  · rintro ⟨hhex, rfl⟩
    refine ⟨cs.map digitValue, ?_, rfl⟩
    rw [List.forall₂_map_right_iff, List.forall₂_same]
    exact fun c hc => isDigitFor_digitValue (hhex c hc)

theorem toNat_ofNat (h : n.isValidChar) : (Char.ofNat n).toNat = n := by
  rw [Char.ofNat, dif_pos h]
  rfl

/-! ## Reading a unit -/

/-- Digits go on up to the brace that closes them. -/
theorem takeWhile_isHexDigit_append (h : ∀ c ∈ cs, isHexDigit c = true) (r : List Char) :
    (cs ++ '\x7d' :: r).takeWhile isHexDigit = cs := by
  rw [List.takeWhile_append_of_pos h, List.takeWhile_cons_of_neg (by decide), List.append_nil]

theorem braced?_of_writesHex (hne : cs ≠ []) (h : WritesHex cs c.toNat) (r : List Char) :
    braced? ('\x7b' :: (cs ++ '\x7d' :: r)) = some (c, cs.length + 2) := by
  obtain ⟨hhex, hvalue⟩ := writesHex_iff.1 h
  have htake := takeWhile_isHexDigit_append hhex r
  have hdrop : (cs ++ '\x7d' :: r).dropWhile isHexDigit = '\x7d' :: r := by
    rw [List.dropWhile_append_of_pos hhex, List.dropWhile_cons_of_neg (by decide)]
  have hvalid : c.toNat.isValidChar := c.valid
  simp only [braced?, htake, hdrop, hvalue, List.head?_cons]
  rw [if_pos ⟨trivial, hne, trivial, hvalid⟩, Char.ofNat_toNat]

theorem exists_of_braced? (h : braced? cs = some (c, n)) :
    ∃ ds r, cs = '\x7b' :: (ds ++ '\x7d' :: r) ∧ ds ≠ [] ∧ WritesHex ds c.toNat ∧
      n = ds.length + 2 := by
  cases cs with
  | nil => exact nomatch h
  | cons d r =>
      unfold braced? at h
      dsimp only at h
      split at h
      · rename_i hbraced
        obtain ⟨rfl, hne, hclosed, hvalid⟩ := hbraced
        obtain ⟨rfl, rfl⟩ := Prod.mk.inj (Option.some.inj h)
        obtain ⟨rest, hrest⟩ := List.head?_eq_some_iff.1 hclosed
        refine ⟨r.takeWhile isHexDigit, rest, ?_, hne, ?_, rfl⟩
        · rw [← hrest, List.takeWhile_append_dropWhile]
        · rw [toNat_ofNat hvalid]
          exact writesHex_iff.2 ⟨List.all_eq_true.1 List.all_takeWhile, rfl⟩
      · exact nomatch h

theorem hidden_of_ne (hn : c ≠ 'n') (hr : c ≠ 'r') (ht : c ≠ 't') : hidden c = c := by
  simp only [hidden, hn, hr, ht, if_false]

theorem denotes_hidden (hd : d ≠ 'u') : Denotes ['\\', d] (hidden d) := by
  by_cases hn : d = 'n'
  · subst hn
    exact .lineFeed
  by_cases hr : d = 'r'
  · subst hr
    exact .carriageReturn
  by_cases ht : d = 't'
  · subst ht
    exact .tab
  rw [hidden_of_ne hn hr ht]
  by_cases hq : d = '"'
  · subst hq
    exact .quote
  by_cases hb : d = '\\'
  · subst hb
    exact .backslash
  · refine .verbatim ?_
    simp only [List.mem_cons, List.not_mem_nil, or_false, not_or]
    exact ⟨hn, hr, ht, hq, hb, hd⟩

/-- A unit is found where there is one, whatever comes after it. -/
theorem unit?_of_denotes (h : Denotes u c) (r : List Char) :
    unit? (u ++ r) = some (c, u.length) := by
  cases h with
  | lineFeed | carriageReturn | tab | quote | backslash => exact unit?_of_hidden (by decide) r
  | codePoint hne hcs =>
      rename_i cs
      have hbraced := braced?_of_writesHex hne hcs r
      have hsplit : '\x7b' :: (cs ++ ['\x7d']) ++ r = '\x7b' :: (cs ++ '\x7d' :: r) := by
        simp only [List.cons_append, List.append_assoc, List.nil_append]
      show unit? ('\\' :: 'u' :: ('\x7b' :: (cs ++ ['\x7d']) ++ r)) = _
      rw [hsplit]
      show (braced? ('\x7b' :: (cs ++ '\x7d' :: r))).map _ = _
      rw [hbraced]
      simp only [Option.map_some, List.length_cons, List.length_append, List.length_nil]
  | verbatim hc =>
      simp only [List.mem_cons, List.not_mem_nil, or_false, not_or] at hc
      obtain ⟨hn, hr, ht, -, -, hu⟩ := hc
      have hunit := unit?_of_hidden hu r
      rw [hidden_of_ne hn hr ht] at hunit
      exact hunit
  | plain hc => exact unit?_of_plain hc r

/-- What is found is a unit. -/
theorem exists_of_unit? (h : unit? cs = some (c, n)) :
    ∃ u r, cs = u ++ r ∧ n = u.length ∧ Denotes u c := by
  match cs with
  | [] => exact nomatch h
  | d :: r =>
      by_cases hd : d = '\\'
      · subst hd
        match r with
        | [] => exact nomatch h
        | e :: r =>
            by_cases he : e = 'u'
            · subst he
              have hbraced : (braced? r).map (fun x => (x.1, x.2 + 2)) = some (c, n) := h
              obtain ⟨⟨_, m⟩, hm, hcn⟩ := Option.map_eq_some_iff.1 hbraced
              obtain ⟨rfl, rfl⟩ := Prod.mk.inj hcn
              obtain ⟨ds, rest, rfl, hne, hds, rfl⟩ := exists_of_braced? hm
              refine ⟨_, rest, ?_, ?_, .codePoint hne hds⟩
              · simp only [List.cons_append, List.append_assoc, List.nil_append]
              · simp only [List.length_cons, List.length_append, List.length_nil]
            · rw [unit?_of_hidden he] at h
              obtain ⟨rfl, rfl⟩ := Prod.mk.inj (Option.some.inj h)
              exact ⟨['\\', e], r, rfl, rfl, denotes_hidden he⟩
      · rw [unit?_of_plain hd] at h
        obtain ⟨rfl, rfl⟩ := Prod.mk.inj (Option.some.inj h)
        exact ⟨[d], r, rfl, rfl, .plain hd⟩

/-! ## The code -/

/-- No unit begins another, so where units begin texts that are the same, the units are. -/
theorem Denotes.eq_of_append {s : List Char} (hu : Denotes u c) (hv : Denotes v d)
    (h : u ++ r = v ++ s) : u = v ∧ c = d := by
  have hsame : some (c, u.length) = some (d, v.length) := by
    rw [← unit?_of_denotes hu r, ← unit?_of_denotes hv s, h]
  obtain ⟨hchar, hlength⟩ := Prod.mk.inj (Option.some.inj hsame)
  exact ⟨(List.append_inj h hlength).1, hchar⟩

theorem eq_of_isPrefix (hu : u ∈ units) (hv : v ∈ units) (h : u <+: v) : u = v := by
  obtain ⟨c, hu⟩ := hu
  obtain ⟨d, hv⟩ := hv
  obtain ⟨r, hr⟩ := h
  have hsame : u ++ r = v ++ [] := by rw [hr, List.append_nil]
  exact (hu.eq_of_append hv hsame).1

theorem Denotes.ne_nil (h : Denotes u c) : u ≠ [] := by
  cases h <;> exact List.cons_ne_nil _ _

theorem uniquelyDecodable_units : InformationTheory.UniquelyDecodable units := by
  intro us vs hus hvs h
  induction us generalizing vs with
  | nil =>
      cases vs with
      | nil => rfl
      | cons v vs =>
          obtain ⟨d, hv⟩ := hvs v List.mem_cons_self
          exact absurd (List.append_eq_nil_iff.1 h.symm).1 hv.ne_nil
  | cons u us ih =>
      obtain ⟨c, hu⟩ := hus u List.mem_cons_self
      cases vs with
      | nil => exact absurd (List.append_eq_nil_iff.1 h).1 hu.ne_nil
      | cons v vs =>
          obtain ⟨d, hv⟩ := hvs v List.mem_cons_self
          have hfirst : u ++ us.flatten = v ++ vs.flatten := h
          obtain ⟨rfl, -⟩ := hu.eq_of_append hv hfirst
          have hrest := List.append_cancel_left hfirst
          rw [ih vs (fun w hw => hus w (List.mem_cons_of_mem u hw))
            (fun w hw => hvs w (List.mem_cons_of_mem u hw)) hrest]

theorem exists_denoted_iff {us : List (List Char)} :
    (∃ as, List.Forall₂ Denotes us as) ↔ ∀ u ∈ us, u ∈ units := by
  induction us with
  | nil => exact ⟨nofun, fun _ => ⟨[], .nil⟩⟩
  | cons u us ih =>
      rw [List.forall_mem_cons, ← ih]
      constructor
      · rintro ⟨_, h⟩
        obtain ⟨c, as, hu, hus, -⟩ := List.forall₂_cons_left_iff.1 h
        exact ⟨⟨c, hu⟩, as, hus⟩
      · rintro ⟨⟨c, hu⟩, as, hus⟩
        exact ⟨c :: as, .cons hu hus⟩

/-- Units at the front are decoded, and then what comes after them. -/
theorem unescape_flatten_append {us : List (List Char)} {as : List Char}
    (h : List.Forall₂ Denotes us as) (r : List Char) :
    unescape (us.flatten ++ r) = (unescape r).map (as ++ ·) := by
  induction h with
  | nil =>
      show unescape r = (unescape r).map fun bs => bs
      rw [Option.map_id']
  | @cons u c us as hu _ ih =>
      rw [List.flatten_cons, List.append_assoc, unescape_of_unit (unit?_of_denotes hu _),
        List.drop_left, ih, Option.map_map]
      rfl

theorem exists_units_of_unescape {as : List Char} (h : unescape cs = some as) :
    ∃ us, us.flatten = cs ∧ List.Forall₂ Denotes us as := by
  induction cs using unescape.induct generalizing as with
  | case1 =>
      rw [unescape] at h
      obtain rfl := Option.some.inj h
      exact ⟨[], rfl, .nil⟩
  | case2 d r hstuck =>
      rw [unescape_of_stuck hstuck] at h
      cases h
  | case3 d r c n hunit ih =>
      rw [unescape_of_unit hunit] at h
      obtain ⟨bs, hbs, rfl⟩ := Option.map_eq_some_iff.1 h
      obtain ⟨us, hus, hdenotes⟩ := ih hbs
      obtain ⟨u, rest, hsplit, rfl, hu⟩ := exists_of_unit? hunit
      rw [hsplit, List.drop_left] at hus
      refine ⟨u :: us, ?_, .cons hu hdenotes⟩
      rw [List.flatten_cons, hus, hsplit]

theorem unescape_eq_some_iff {as : List Char} :
    unescape cs = some as ↔ ∃ us, us.flatten = cs ∧ List.Forall₂ Denotes us as := by
  constructor
  · exact exists_units_of_unescape
  · rintro ⟨us, rfl, hus⟩
    have hrun := unescape_flatten_append hus []
    rw [List.append_nil, unescape, Option.map_some, List.append_nil] at hrun
    exact hrun

theorem isSome_unescape_iff :
    (unescape cs).isSome = true ↔
      ∃ us : List (List Char), us.flatten = cs ∧ ∀ u ∈ us, u ∈ units := by
  rw [Option.isSome_iff_exists]
  constructor
  · rintro ⟨as, h⟩
    obtain ⟨us, hus, hdenotes⟩ := unescape_eq_some_iff.1 h
    exact ⟨us, hus, exists_denoted_iff.1 ⟨as, hdenotes⟩⟩
  · rintro ⟨us, hus, hunits⟩
    obtain ⟨as, hdenotes⟩ := exists_denoted_iff.2 hunits
    exact ⟨as, unescape_eq_some_iff.2 ⟨us, hus, hdenotes⟩⟩

end Text

/-- Unescaping decodes a prefix code.  A body can be unescaped exactly if it is a row of units,
which is then the only one, and it comes to what the units stand for.  Behind such a body any
text comes to what it comes to alone, and fails if it fails alone. -/
theorem unescape_decodes_prefix_code (x : List Char) :
    ((Text.unescape x).isSome = true ↔
      ∃ us : List (List Char), us.flatten = x ∧ ∀ u ∈ us, u ∈ Text.units) ∧
    (∀ u ∈ Text.units, ∀ v ∈ Text.units, u <+: v → u = v) ∧
    InformationTheory.UniquelyDecodable Text.units ∧
    (∀ a, Text.unescape x = some a ↔
      ∃ us : List (List Char), us.flatten = x ∧ List.Forall₂ Text.Denotes us a) ∧
    ∀ a y, Text.unescape x = some a → Text.unescape (x ++ y) = (Text.unescape y).map (a ++ ·) := by
  refine ⟨Text.isSome_unescape_iff, fun u hu v hv => Text.eq_of_isPrefix hu hv,
    Text.uniquelyDecodable_units, fun a => Text.unescape_eq_some_iff, ?_⟩
  intro a y h
  obtain ⟨us, rfl, hus⟩ := Text.unescape_eq_some_iff.1 h
  exact Text.unescape_flatten_append hus y

/- Any number of leading zeros may stand before a code point, also more than a number of 32 bits
has digits.  A surrogate is no character, and what is hidden may be a line feed. -/
example :
    Text.unescape "\\u\x7b00000000041\x7d\\\n".toList = some ['A', '\n'] ∧
      Text.unescape "\\u\x7bD800\x7d".toList = none := by
  decide +kernel

end Sexpr
