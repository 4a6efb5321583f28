/-
Boundaries between texts.

A word can run from the end of one text into the start of the next; nothing else
can.  Where that does not happen, the tokens of two texts side by side are those
of the first and then those of the second.
-/
import Sexpr.Proofs.Lexing.LongestMatch

namespace Sexpr

open Text

/-- A character of a text in two parts stands in the first or in the second. -/
theorem append_eq_append_cons {a b before after : List Char} {c : Char}
    (h : a ++ b = before ++ c :: after) :
    (∃ r, a = before ++ c :: r) ∨ ∃ r, before = a ++ r ∧ b = r ++ c :: after := by
  rcases List.append_eq_append_iff.1 h with ⟨r, hbefore, hb⟩ | ⟨r, ha, hafter⟩
  · exact .inr ⟨r, hbefore, hb⟩
  · cases r with
    | nil => exact .inr ⟨[], by rw [ha, List.append_nil, List.append_nil], hafter.symm⟩
    | cons d r =>
        obtain ⟨rfl, -⟩ := List.cons.inj hafter
        exact .inl ⟨r, ha⟩

/-- Whether no word runs from the end of `a` into the start of `b`. -/
def Boundary (a b : List Char) : Prop :=
  ∀ c ∈ a.getLast?, ∀ d ∈ b.head?, Rule.isWordChar c = true → Rule.isWordChar d = false

namespace Boundary

variable {a b w : List Char}

theorem of_head {c : Char} (h : Rule.isWordChar c = false) (r : List Char) :
    Boundary a (c :: r) := by
  rintro d - e ⟨⟩ -
  exact h

theorem of_last {c : Char} (h : Rule.isWordChar c = false) (r : List Char) :
    Boundary (r ++ [c]) b := by
  intro d hd e _ hword
  rw [List.getLast?_concat] at hd
  obtain rfl := Option.some.inj hd
  rw [h] at hword
  exact Bool.noConfusion hword

theorem of_append_left {r : List Char} (h : Boundary (r ++ a) b) : Boundary a b := by
  intro c hc
  refine h c ?_
  rw [List.getLast?_append, hc]
  rfl

/-- A word at the front of both texts ends within the first one. -/
theorem prefix_iff (h : Boundary a b) (ha : a ≠ [])
    (hw : ∀ c ∈ w, Rule.isWordChar c = true) : w <+: a ++ b ↔ w <+: a := by
  constructor
  · intro hpre
    by_cases hle : w.length ≤ a.length
    · exact List.prefix_of_prefix_length_le hpre (List.prefix_append a b) hle
    · -- Otherwise the word has its characters on both sides of the boundary.
      obtain ⟨u, rfl⟩ := List.prefix_of_prefix_length_le (List.prefix_append a b) hpre (by omega)
      have hu := (List.prefix_append_right_inj a).1 hpre
      cases u with
      | nil =>
          rw [List.append_nil]
      | cons d u =>
          obtain ⟨b, rfl⟩ := hu
          have hlast := List.getLast?_eq_some_getLast ha
          have hc := hw _ (List.mem_append_left _ (List.getLast_mem ha))
          have hd := h _ hlast d rfl hc
          rw [hw d (List.mem_append_right _ List.mem_cons_self)] at hd
          exact Bool.noConfusion hd
  · intro hpre
    exact hpre.trans (List.prefix_append a b)

end Boundary

namespace Pattern

open Rule

variable {a b : List Char} {rule : Rule} {l : Language Char}

theorem Computes.congr (h : Computes rule l) (hab : ∀ w ∈ l, w <+: a ↔ w <+: b) :
    rule a = rule b := by
  cases ha : rule a with
  | none =>
      symm
      refine h.none_iff.2 ?_
      intro w hw hpre
      exact h.none_iff.1 ha w hw ((hab w hw).2 hpre)
  | some n =>
      obtain ⟨hmem, hfront, hlongest⟩ := h.longest_iff.2 ⟨n, ha, rfl⟩
      obtain ⟨m, hm, htake⟩ := h.longest_iff.1 ⟨hmem, (hab _ hmem).1 hfront, fun w hw hpre =>
        hlongest w hw ((hab w hw).2 hpre)⟩
      have hlen := congrArg List.length htake
      rw [List.length_take, List.length_take, Nat.min_eq_left (h.bound ha),
        Nat.min_eq_left (h.bound hm)] at hlen
      rw [hm, hlen]

theorem Computes.append (h : Computes rule l)
    (hword : ∀ w ∈ l, ∀ c ∈ w, isWordChar c = true) (hb : Boundary a b) (ha : a ≠ []) :
    rule (a ++ b) = rule a :=
  h.congr fun w hw => hb.prefix_iff ha (hword w hw)

theorem isWordChar_of_mem_sign {s : List Char} (hs : s ∈ optional sign) :
    ∀ c ∈ s, isWordChar c = true := by
  rcases mem_optional.1 hs with rfl | ⟨d, rfl, hd⟩
  · exact nofun
  · intro c hc
    rw [List.mem_singleton.1 hc]
    exact isWordChar_of_isSign hd

theorem isWordChar_of_mem_integer {w : List Char} (h : w ∈ integer) :
    ∀ c ∈ w, isWordChar c = true := by
  obtain ⟨s, ds, hs, -, hds, rfl⟩ := mem_integer.1 h
  intro c hc
  rcases List.mem_append.1 hc with hc | hc
  · exact isWordChar_of_mem_sign hs c hc
  · exact isWordChar_of_isDigit (hds c hc)

theorem isWordChar_of_mem_real {w : List Char} (h : w ∈ real) :
    ∀ c ∈ w, isWordChar c = true := by
  obtain ⟨s, ds, fs, hs, hds, -, hfs, rfl⟩ := mem_real.1 h
  intro c hc
  simp only [List.mem_append, List.mem_cons] at hc
  rcases hc with hc | hc | rfl | hc
  · exact isWordChar_of_mem_sign hs c hc
  · exact isWordChar_of_isDigit (hds c hc)
  · exact isWordChar_dot
  · exact isWordChar_of_isDigit (hfs c hc)

theorem closing_append {n : Nat} (h : closing a = some n) (b : List Char) :
    closing (a ++ b) = some n := by
  obtain ⟨w, rest, hw, rfl, rfl⟩ := closing_eq_some_iff.1 h
  refine closing_eq_some_iff.2 ⟨w, rest ++ b, hw, ?_, rfl⟩
  rw [List.append_assoc, List.cons_append]

theorem closing_of_append {n : Nat} (h : closing (a ++ b) = some n) (hn : n ≤ a.length) :
    closing a = some n := by
  obtain ⟨w, rest, hw, hsplit, rfl⟩ := closing_eq_some_iff.1 h
  rcases append_eq_append_cons hsplit with ⟨r, hr⟩ | ⟨r, rfl, -⟩
  · exact closing_eq_some_iff.2 ⟨w, r, hw, hr, rfl⟩
  · rw [List.length_append] at hn
    omega

theorem first_append_of_word {c : Char} {r : List Char} (hw : isWordChar c = true)
    (hb : Boundary (c :: r) b) : first (c :: (r ++ b)) = first (c :: r) := by
  have hne := List.cons_ne_nil c r
  have hreal := computes_real.append (fun w => isWordChar_of_mem_real) hb hne
  have hint := computes_integer.append (fun w => isWordChar_of_mem_integer) hb hne
  have hid := computes_identifier.append (fun w hw => (mem_atLeastOne.1 hw).2) hb hne
  rw [List.cons_append] at hreal hint hid
  rw [first_of_word hw, hreal, hint, hid, ← first_of_word hw]

/-- The first token of a text is the first token of what continues it past a
boundary. -/
theorem first_append {c : Char} {r : List Char} {f : Kind × Nat} (hb : Boundary (c :: r) b)
    (h : first (c :: r) = some f) : first (c :: (r ++ b)) = some f := by
  rcases start_cases (isBlank_of_first h) with hp | rfl | hw
  · rw [first_of_parenthesis hp] at h ⊢
    exact h
  · rw [first_of_quote] at h ⊢
    obtain ⟨n, hn, rfl⟩ := Option.map_eq_some_iff.1 h
    rw [closing_append hn]
    rfl
  · rw [first_append_of_word hw hb]
    exact h

/-- A first token that ends before the boundary does not need what follows it. -/
theorem first_of_append {c : Char} {r : List Char} {f : Kind × Nat} (hb : Boundary (c :: r) b)
    (h : first (c :: (r ++ b)) = some f) (hle : f.2 ≤ (c :: r).length) :
    first (c :: r) = some f := by
  rcases start_cases (isBlank_of_first h) with hp | rfl | hw
  · rw [first_of_parenthesis hp] at h ⊢
    exact h
  · rw [first_of_quote] at h ⊢
    obtain ⟨n, hn, rfl⟩ := Option.map_eq_some_iff.1 h
    rw [closing_of_append hn (Nat.le_of_succ_le_succ hle)]
    rfl
  · rw [← first_append_of_word hw hb]
    exact h

end Pattern

namespace Lexer

/-- Texts that meet at a boundary are scanned one after the other. -/
theorem scan_append {offset : Nat} {a b : List Char} {ts : List Token}
    (h : scan offset a = .ok ts) (hb : Boundary a b) :
    scan offset (a ++ b) = (scan (offset + byteLength a) b).map (ts ++ ·) := by
  induction offset, a using scan_induction generalizing ts with
  | nil offset =>
      rw [scan_nil] at h
      cases h
      show scan offset b = (scan offset b).map fun us => us
      cases scan offset b <;> rfl
  | blank offset c r hc ih =>
      rw [scan_blank hc] at h
      have htail := ih h (hb.of_append_left (r := [c]))
      rw [List.cons_append, scan_blank hc, htail, byteLength_cons, Nat.add_assoc]
  | stuck offset c r hc hf =>
      rw [scan_stuck hc hf] at h
      exact nomatch h
  | token offset c r kind n hc hf ih =>
      obtain ⟨us, hus, rfl⟩ := scan_token_eq_ok hc hf h
      have hf' := Pattern.first_append hb hf
      have hn := (Rule.first_bounds hf).2
      have htake : (c :: (r ++ b)).take n = (c :: r).take n := by
        rw [← List.cons_append, List.take_append_of_le_length hn]
      have hdrop : (c :: (r ++ b)).drop n = (c :: r).drop n ++ b := by
        rw [← List.cons_append, List.drop_append_of_le_length hn]
      -- What is left of the first text ends where the first text ends.
      have hrest : Boundary ((c :: r).drop n) b := by
        rw [← List.take_append_drop n (c :: r)] at hb
        exact hb.of_append_left
      have hlen : (tokenAt kind ((c :: r).take n) offset).span.stop +
          byteLength ((c :: r).drop n) = offset + byteLength (c :: r) := by
        show offset + byteLength ((c :: r).take n) + byteLength ((c :: r).drop n) = _
        rw [Nat.add_assoc, ← byteLength_append, List.take_append_drop]
      rw [List.cons_append, scan_token hc hf', htake, hdrop, ih hus hrest, hlen]
      cases scan (offset + byteLength (c :: r)) b <;> rfl

end Lexer
end Sexpr
