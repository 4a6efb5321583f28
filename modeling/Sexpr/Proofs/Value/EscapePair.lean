/-
Where unescaping fails.

Read in escape pairs, a body is cut into single characters and backslashes with the character
behind them, whatever it holds.  Units are longer than that in one place only: a `\u` takes a
code point in braces with it.  No brace and no digit is a backslash, so behind the code point
pairs begin where units begin.  A body is therefore unescaped unless the pairs come to a `\u`
that no code point follows, or to a last backslash that is alone.
-/
import Sexpr.Proofs.Value.Codeword

namespace Sexpr

namespace Text

variable {c : Char} {cs u r : List Char}

/-- Whether a text can be cut into escape pairs, with nothing left over. -/
inductive Paired : List Char → Prop where
  | nil : Paired []
  | single {c : Char} {r : List Char} : c ≠ '\\' → Paired r → Paired (c :: r)
  | pair {c : Char} {r : List Char} : Paired r → Paired ('\\' :: c :: r)

/-- Whether a text begins with hexadecimal digits in braces that name a character. -/
def StartsCodePoint (cs : List Char) : Prop :=
  ∃ (ds : List Char) (c : Char) (r : List Char),
    cs = '\x7b' :: (ds ++ '\x7d' :: r) ∧ ds ≠ [] ∧ WritesHex ds c.toNat

/-- Whether the escape pairs of a body come to a `\u` that no code point follows. -/
def MeetsBadCodePoint (cs : List Char) : Prop :=
  ∃ front r, Paired front ∧ cs = front ++ '\\' :: 'u' :: r ∧ ¬StartsCodePoint r

/-- Whether the escape pairs of a body come to a backslash that is its last character. -/
def Dangles (cs : List Char) : Prop := ∃ front, Paired front ∧ cs = front ++ ['\\']

/-! ## Pairs -/

namespace Paired

theorem append (hu : Paired u) (hr : Paired r) : Paired (u ++ r) := by
  induction hu with
  | nil => exact hr
  | single hc _ ih => exact .single hc ih
  | pair _ ih => exact .pair ih

theorem of_no_backslash (h : ∀ c ∈ cs, c ≠ '\\') : Paired cs := by
  induction cs with
  | nil => exact .nil
  | cons c cs ih =>
      exact .single (h c List.mem_cons_self) (ih fun d hd => h d (List.mem_cons_of_mem c hd))

theorem behind_single (hc : c ≠ '\\') (h : Paired (c :: r)) : Paired r := by
  cases h with
  | single _ hr => exact hr
  | pair _ => exact absurd rfl hc

theorem behind_pair (h : Paired ('\\' :: c :: r)) : Paired r := by
  cases h with
  | single hc _ => exact absurd rfl hc
  | pair hr => exact hr

theorem not_backslash : ¬Paired ['\\'] := by
  intro h
  cases h with
  | single hc _ => exact hc rfl

/-- A body in pairs leaves no backslash over, since its pairs are found one after the other. -/
theorem not_dangles (h : Paired cs) : ¬Dangles cs := by
  rintro ⟨front, hfront, rfl⟩
  induction hfront with
  | nil => exact not_backslash h
  | single hc _ ih => exact ih (h.behind_single hc)
  | pair _ ih => exact ih h.behind_pair

end Paired

theorem ne_backslash_of_isHexDigit (h : isHexDigit c = true) : c ≠ '\\' := by
  rintro rfl
  exact absurd h (by decide)

/-- The braces of a code point and what stands between them hold no backslash. -/
theorem ne_backslash_of_writesHex {n : Nat} (h : WritesHex cs n) :
    ∀ c ∈ '\x7b' :: (cs ++ ['\x7d']), c ≠ '\\' := by
  intro c hc
  simp only [List.mem_cons, List.mem_append, List.not_mem_nil, or_false] at hc
  rcases hc with rfl | hc | rfl
  · decide
  · exact ne_backslash_of_isHexDigit ((writesHex_iff.1 h).1 c hc)
  · decide

/-- A unit is one pair, or one and the single characters of a code point. -/
theorem Denotes.paired (h : Denotes u c) : Paired u := by
  cases h with
  | lineFeed | carriageReturn | tab | quote | backslash | verbatim => exact .pair .nil
  | codePoint _ hds => exact .pair (.of_no_backslash (ne_backslash_of_writesHex hds))
  | plain hc => exact .single hc .nil

/-! ## Unescaping in pairs -/

theorem unescape_append_of_no_backslash (h : ∀ c ∈ cs, c ≠ '\\') (r : List Char) :
    unescape (cs ++ r) = (unescape r).map (cs ++ ·) := by
  have hunits : List.Forall₂ Denotes (cs.map fun c => [c]) cs := by
    rw [List.forall₂_map_left_iff, List.forall₂_same]
    exact fun c hc => .plain (h c hc)
  have hflatten : (cs.map fun c => [c]).flatten = cs := by
    rw [← List.flatMap_def, List.flatMap_singleton']
  have happend := unescape_flatten_append hunits r
  rwa [hflatten] at happend

theorem braced?_eq_none_iff : braced? cs = none ↔ ¬StartsCodePoint cs := by
  constructor
  · rintro h ⟨ds, c, r, rfl, hne, hds⟩
    rw [braced?_of_writesHex hne hds] at h
    exact nomatch h
  · intro h
    cases hbraced : braced? cs with
    | none => rfl
    | some p =>
        obtain ⟨ds, r, hcs, hne, hds, -⟩ := exists_of_braced? (c := p.1) (n := p.2) hbraced
        exact absurd ⟨ds, p.1, r, hcs, hne, hds⟩ h

theorem unit?_of_codePoint (r : List Char) :
    unit? ('\\' :: 'u' :: r) = (braced? r).map fun x => (x.1, x.2 + 2) := rfl

/-- What stands behind a `\u` fails alone as well: a code point there is made of single
characters, and these stand for themselves. -/
theorem unescape_of_codePoint (h : unescape r = none) : unescape ('\\' :: 'u' :: r) = none := by
  by_cases hstart : StartsCodePoint r
  · obtain ⟨ds, c, rest, rfl, hne, hds⟩ := hstart
    have hsplit : '\x7b' :: (ds ++ '\x7d' :: rest) = '\x7b' :: (ds ++ ['\x7d']) ++ rest := by
      simp only [List.cons_append, List.append_assoc, List.nil_append]
    rw [hsplit, unescape_append_of_no_backslash (ne_backslash_of_writesHex hds),
      Option.map_eq_none_iff] at h
    have hunit := unescape_flatten_append (.cons (.codePoint hne hds) .nil) rest
    rw [h, Option.map_none, List.flatten_singleton] at hunit
    rw [hsplit]
    exact hunit
  · refine unescape_of_stuck ?_
    rw [unit?_of_codePoint, braced?_eq_none_iff.2 hstart, Option.map_none]

/-- A body fails where its pairs come to something that fails. -/
theorem unescape_append_of_none (hu : Paired u) (h : unescape r = none) :
    unescape (u ++ r) = none := by
  induction hu with
  | nil => exact h
  | @single c r hc _ ih =>
      rw [List.cons_append, unescape_of_unit (unit?_of_plain hc _), List.drop_one, List.tail_cons,
        ih, Option.map_none]
  | @pair c r _ ih =>
      by_cases hc : c = 'u'
      · subst hc
        exact unescape_of_codePoint ih
      · rw [List.cons_append, List.cons_append, unescape_of_unit (unit?_of_hidden hc _),
          List.drop_succ_cons, List.drop_one, List.tail_cons, ih, Option.map_none]

theorem not_startsCodePoint_of_stuck (h : unit? ('\\' :: 'u' :: r) = none) :
    ¬StartsCodePoint r := by
  rw [unit?_of_codePoint, Option.map_eq_none_iff] at h
  exact braced?_eq_none_iff.1 h

/-- Where no unit begins, a backslash is alone or a `\u` has no code point. -/
theorem stuck_cases (h : unit? (c :: r) = none) :
    c = '\\' ∧ (r = [] ∨ ∃ rest, r = 'u' :: rest ∧ ¬StartsCodePoint rest) := by
  by_cases hc : c = '\\'
  · subst hc
    refine ⟨rfl, ?_⟩
    cases r with
    | nil => exact .inl rfl
    | cons d rest =>
        by_cases hd : d = 'u'
        · subst hd
          exact .inr ⟨rest, rfl, not_startsCodePoint_of_stuck h⟩
        · rw [unit?_of_hidden hd] at h
          exact nomatch h
  · rw [unit?_of_plain hc] at h
    exact nomatch h

theorem MeetsBadCodePoint.append (hu : Paired u) (h : MeetsBadCodePoint r) :
    MeetsBadCodePoint (u ++ r) := by
  obtain ⟨front, rest, hfront, rfl, hrest⟩ := h
  exact ⟨u ++ front, rest, hu.append hfront, (List.append_assoc ..).symm, hrest⟩

theorem Dangles.append (hu : Paired u) (h : Dangles r) : Dangles (u ++ r) := by
  obtain ⟨front, hfront, rfl⟩ := h
  exact ⟨u ++ front, hu.append hfront, (List.append_assoc ..).symm⟩

theorem bad_of_unescape (h : unescape cs = none) : MeetsBadCodePoint cs ∨ Dangles cs := by
  induction cs using unescape.induct with
  | case1 =>
      rw [unescape] at h
      exact absurd h (Option.some_ne_none [])
  | case2 d r hstuck =>
      obtain ⟨rfl, rfl | ⟨rest, rfl, hrest⟩⟩ := stuck_cases hstuck
      · exact .inr ⟨[], .nil, rfl⟩
      · exact .inl ⟨[], rest, .nil, rfl, hrest⟩
  | case3 d r c n hunit ih =>
      obtain ⟨u, rest, hsplit, rfl, hu⟩ := exists_of_unit? hunit
      rw [unescape_of_unit hunit, Option.map_eq_none_iff] at h
      rw [hsplit, List.drop_left] at h ih
      rw [hsplit]
      exact (ih h).imp (.append hu.paired) (.append hu.paired)

/-- A body cannot be unescaped if and only if its escape pairs come to a `\u` without a code
point, or to a backslash at the end. -/
theorem unescape_eq_none_iff : unescape cs = none ↔ MeetsBadCodePoint cs ∨ Dangles cs := by
  constructor
  · exact bad_of_unescape
  · rintro (⟨front, r, hfront, rfl, hr⟩ | ⟨front, hfront, rfl⟩)
    · refine unescape_append_of_none hfront (unescape_of_stuck ?_)
      rw [unit?_of_codePoint, braced?_eq_none_iff.2 hr, Option.map_none]
    · exact unescape_append_of_none hfront (unescape_of_stuck rfl)

theorem unescape_eq_none_iff_of_paired (h : Paired cs) :
    unescape cs = none ↔ MeetsBadCodePoint cs := by
  rw [unescape_eq_none_iff, or_iff_left h.not_dangles]

end Text
end Sexpr
