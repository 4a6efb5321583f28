/-
Lexical patterns as languages.

A pattern is the set of texts it matches, built with the operations of regular
expressions.  A rule computes a pattern if it finds the longest match at the
front of a text and finds none only where there is none.
-/
import Mathlib.Computability.Language
import Sexpr.Proofs.Lexing.Rules

namespace Sexpr
namespace Pattern

open scoped Computability
open Rule

/-- One character of a class. -/
def oneOf (p : Char → Bool) : Language Char := {w | ∃ c, w = [c] ∧ p c = true}

def optional (l : Language Char) : Language Char := 1 + l

def atLeastOne (l : Language Char) : Language Char := l * l∗

def sign : Language Char := oneOf isSign

def digit : Language Char := oneOf Char.isDigit

def point : Language Char := oneOf (· == '.')

def quote : Language Char := oneOf (· == '"')

/-- `[+-]?[0-9]*\.[0-9]+` -/
def real : Language Char := optional sign * digit∗ * point * atLeastOne digit

/-- `[+-]?[0-9]+` -/
def integer : Language Char := optional sign * atLeastOne digit

/-- One unit of the body of a string: a character that is neither a quote nor a
backslash, or a backslash and a character that is no line feed. -/
def unit : Language Char :=
  oneOf (fun c => c != '"' && c != '\\') + oneOf (· == '\\') * oneOf (· != '\n')

def string : Language Char := quote * unit∗ * quote

/-! ## What the patterns match -/

variable {p : Char → Bool} {l : Language Char} {c : Char} {r w : List Char}

theorem cons_mem_oneOf_mul : c :: r ∈ oneOf p * l ↔ p c = true ∧ r ∈ l := by
  rw [Language.mem_mul]
  constructor
  · rintro ⟨a, ⟨d, rfl, hd⟩, b, hb, hab⟩
    obtain ⟨rfl, rfl⟩ := List.cons.inj hab
    exact ⟨hd, hb⟩
  · rintro ⟨hc, hr⟩
    exact ⟨[c], ⟨c, rfl, hc⟩, r, hr, rfl⟩

theorem nil_not_mem_oneOf_mul : [] ∉ oneOf p * l := by
  rw [Language.mem_mul]
  rintro ⟨a, ⟨d, rfl, hd⟩, b, hb, hab⟩
  exact List.cons_ne_nil _ _ hab

theorem mem_oneOf_kstar : w ∈ (oneOf p)∗ ↔ ∀ c ∈ w, p c = true := by
  rw [Language.mem_kstar]
  constructor
  · rintro ⟨L, rfl, hL⟩ c hc
    obtain ⟨y, hy, hcy⟩ := List.mem_flatten.1 hc
    obtain ⟨d, rfl, hd⟩ := hL y hy
    rw [List.mem_singleton.1 hcy]
    exact hd
  · intro hw
    refine ⟨w.map ([·]), ?_, ?_⟩
    · rw [← List.flatMap_def, List.flatMap_singleton']
    · intro y hy
      obtain ⟨c, hc, rfl⟩ := List.mem_map.1 hy
      exact ⟨c, rfl, hw c hc⟩

theorem mem_atLeastOne : w ∈ atLeastOne (oneOf p) ↔ w ≠ [] ∧ ∀ c ∈ w, p c = true := by
  cases w with
  | nil => exact ⟨fun h => absurd h nil_not_mem_oneOf_mul, fun h => absurd rfl h.1⟩
  | cons c r =>
      rw [atLeastOne, cons_mem_oneOf_mul, mem_oneOf_kstar, List.forall_mem_cons]
      exact ⟨fun h => ⟨List.cons_ne_nil c r, h⟩, fun h => h.2⟩

theorem mem_optional : w ∈ optional l ↔ w = [] ∨ w ∈ l := by
  rw [optional, Language.mem_add, Language.mem_one]

theorem mem_integer :
    w ∈ integer ↔ ∃ s ds, s ∈ optional sign ∧ ds ≠ [] ∧ (∀ c ∈ ds, c.isDigit = true) ∧
      w = s ++ ds := by
  rw [integer, Language.mem_mul]
  constructor
  · rintro ⟨s, hs, ds, hds, rfl⟩
    obtain ⟨hne, hds⟩ := mem_atLeastOne.1 hds
    exact ⟨s, ds, hs, hne, hds, rfl⟩
  · rintro ⟨s, ds, hs, hne, hds, rfl⟩
    exact ⟨s, hs, ds, mem_atLeastOne.2 ⟨hne, hds⟩, rfl⟩

theorem mem_real :
    w ∈ real ↔ ∃ s ds fs, s ∈ optional sign ∧ (∀ c ∈ ds, c.isDigit = true) ∧ fs ≠ [] ∧
      (∀ c ∈ fs, c.isDigit = true) ∧ w = s ++ (ds ++ '.' :: fs) := by
  simp only [real, Language.mem_mul]
  constructor
  · rintro ⟨_, ⟨_, ⟨s, hs, ds, hds, rfl⟩, _, ⟨c, rfl, hc⟩, rfl⟩, fs, hfs, rfl⟩
    obtain ⟨hne, hfs⟩ := mem_atLeastOne.1 hfs
    obtain rfl := beq_iff_eq.1 hc
    refine ⟨s, ds, fs, hs, mem_oneOf_kstar.1 hds, hne, hfs, ?_⟩
    simp only [List.append_assoc, List.singleton_append]
  · rintro ⟨s, ds, fs, hs, hds, hne, hfs, rfl⟩
    refine ⟨s ++ ds ++ ['.'], ⟨s ++ ds, ⟨s, hs, ds, mem_oneOf_kstar.2 hds, rfl⟩, ['.'],
      ⟨'.', rfl, rfl⟩, rfl⟩, fs, mem_atLeastOne.2 ⟨hne, hfs⟩, ?_⟩
    simp only [List.append_assoc, List.singleton_append]

/-! ## Rules that compute patterns -/

/-- `a` is the longest text in `l` that `cs` starts with. -/
structure Longest (l : Language Char) (cs a : List Char) : Prop where
  mem : a ∈ l
  front : a <+: cs
  longest : ∀ b ∈ l, b <+: cs → b.length ≤ a.length

/-- A rule computes the longest match of a pattern. -/
structure Computes (rule : Rule) (l : Language Char) : Prop where
  bound : ∀ {cs n}, rule cs = some n → n ≤ cs.length
  sound : ∀ {cs n}, rule cs = some n → cs.take n ∈ l
  complete : ∀ {cs w}, w ∈ l → w <+: cs → ∃ n, rule cs = some n ∧ w.length ≤ n

theorem Computes.longest_iff {rule : Rule} {cs a : List Char} (h : Computes rule l) :
    Longest l cs a ↔ ∃ n, rule cs = some n ∧ a = cs.take n := by
  constructor
  · rintro ⟨hmem, hfront, hlongest⟩
    obtain ⟨n, hn, hle⟩ := h.complete hmem hfront
    have hge := hlongest _ (h.sound hn) (List.take_prefix n cs)
    have hlen := h.bound hn
    rw [List.length_take, Nat.min_eq_left hlen] at hge
    have heq : a.length = n := Nat.le_antisymm hle hge
    refine ⟨n, hn, ?_⟩
    rw [← heq]
    exact List.prefix_iff_eq_take.1 hfront
  · rintro ⟨n, hn, rfl⟩
    refine ⟨h.sound hn, List.take_prefix n cs, ?_⟩
    intro b hmem hfront
    obtain ⟨m, hm, hle⟩ := h.complete hmem hfront
    obtain rfl := Option.some.inj (hn.symm.trans hm)
    rw [List.length_take, Nat.min_eq_left (h.bound hn)]
    exact hle

theorem Computes.none_iff {rule : Rule} {cs : List Char} (h : Computes rule l) :
    rule cs = none ↔ ∀ b ∈ l, ¬b <+: cs := by
  constructor
  · intro hnone b hmem hfront
    obtain ⟨n, hn, -⟩ := h.complete hmem hfront
    rw [hnone] at hn
    exact nomatch hn
  · intro hall
    cases hn : rule cs with
    | none => rfl
    | some n => exact absurd (List.take_prefix n cs) (hall _ (h.sound hn))

theorem Computes.self {rule : Rule} {a : List Char} (h : Computes rule l)
    (ha : a ∈ l) : rule a = some a.length := by
  obtain ⟨n, hn, hle⟩ := h.complete ha (List.prefix_refl a)
  have hge := h.bound hn
  rw [hn, Nat.le_antisymm hge hle]

/-- A rule that finds nothing in a text finds nothing in its beginnings. -/
theorem Computes.none_of_front {rule : Rule} {cs : List Char} (h : Computes rule l)
    (hcs : rule cs = none) (hw : w <+: cs) : rule w = none := by
  refine h.none_iff.2 ?_
  intro b hb hfront
  exact h.none_iff.1 hcs b hb (hfront.trans hw)

theorem run_append_of_pos (h : ∀ c ∈ w, p c = true) (rest : List Char) :
    run p (w ++ rest) = w.length + run p rest := by
  rw [run, List.takeWhile_append_of_pos h, List.length_append]
  rfl

theorem take_run (p : Char → Bool) (cs : List Char) : cs.take (run p cs) = cs.takeWhile p :=
  List.prefix_iff_eq_take.1 (List.takeWhile_prefix p) |>.symm

theorem forall_mem_take_run (p : Char → Bool) (cs : List Char) :
    ∀ c ∈ cs.take (run p cs), p c = true := by
  intro c hc
  rw [take_run] at hc
  exact List.all_eq_true.1 List.all_takeWhile c hc

/-- What follows the optional sign decides how the sign is read. -/
theorem sign_append {s rest : List Char} (hs : s ∈ optional sign)
    (hr : ∀ c ∈ rest.head?, isSign c = false) : Rule.sign (s ++ rest) = s.length := by
  rcases mem_optional.1 hs with rfl | ⟨c, rfl, hc⟩
  · cases rest with
    | nil => rfl
    | cons c rest => exact sign_cons_of_not (hr c rfl)
  · show (if isSign c = true then 1 else 0) = 1
    rw [if_pos hc]

theorem signedDigits_append {s rest : List Char} (hs : s ∈ optional sign)
    (hr : ∀ c ∈ rest.head?, isSign c = false) :
    signedDigits (s ++ rest) = s.length + run Char.isDigit rest := by
  rw [signedDigits, sign_append hs hr, List.drop_left]

theorem take_sign_mem (cs : List Char) : cs.take (Rule.sign cs) ∈ optional sign := by
  rw [mem_optional]
  cases cs with
  | nil => exact .inl rfl
  | cons c r =>
      by_cases hc : isSign c = true
      · right
        rw [show Rule.sign (c :: r) = 1 by simp only [Rule.sign, hc, if_true]]
        exact ⟨c, rfl, hc⟩
      · rw [Bool.not_eq_true] at hc
        left
        rw [sign_cons_of_not hc, List.take_zero]

theorem take_signedDigits (cs : List Char) :
    cs.take (signedDigits cs) =
      cs.take (Rule.sign cs) ++
        (cs.drop (Rule.sign cs)).take (run Char.isDigit (cs.drop (Rule.sign cs))) := by
  rw [signedDigits, List.take_add]

theorem computes_integer : Computes Rule.integer integer where
  bound h := (integer_bounds h).2
  sound {cs n} h := by
    simp only [Rule.integer] at h
    split at h
    · rename_i hlt
      cases h
      rw [take_signedDigits, mem_integer]
      refine ⟨_, _, take_sign_mem cs, ?_, forall_mem_take_run _ _, rfl⟩
      rw [take_run]
      intro hnil
      rw [signedDigits, run, hnil] at hlt
      exact Nat.lt_irrefl _ hlt
    · cases h
  complete {cs w} hw hcs := by
    obtain ⟨s, ds, hs, hne, hds, rfl⟩ := mem_integer.1 hw
    obtain ⟨rest, rfl⟩ := hcs
    have hhead : ∀ c ∈ (ds ++ rest).head?, isSign c = false := by
      obtain ⟨d, ds, rfl⟩ := List.exists_cons_of_ne_nil hne
      rintro c ⟨⟩
      exact isSign_of_isDigit (hds d List.mem_cons_self)
    have hlen := List.length_pos_iff.2 hne
    have hsign := sign_append hs hhead
    have hdigits := signedDigits_append hs hhead
    rw [run_append_of_pos hds] at hdigits
    rw [List.append_assoc]
    refine ⟨_, if_pos ?_, ?_⟩
    · omega
    · rw [hdigits, List.length_append]
      omega

theorem computes_real : Computes Rule.real real where
  bound h := (real_bounds h).2
  sound {cs n} h := by
    simp only [Rule.real] at h
    split at h
    · exact nomatch h
    · rename_i c r hr
      split at h
      · rename_i hc
        obtain ⟨rfl, hpos⟩ := hc
        cases h
        have htake : cs.take (signedDigits cs + 1 + run Char.isDigit r) =
            cs.take (signedDigits cs) ++ '.' :: r.take (run Char.isDigit r) := by
          rw [Nat.add_assoc, List.take_add, hr, Nat.add_comm 1, List.take_succ_cons]
        rw [htake, take_signedDigits, mem_real]
        refine ⟨_, _, _, take_sign_mem cs, forall_mem_take_run _ _, ?_, forall_mem_take_run _ _,
          List.append_assoc _ _ _⟩
        rw [take_run]
        exact List.length_pos_iff.1 hpos
      · exact nomatch h
  complete {cs w} hw hcs := by
    obtain ⟨s, ds, fs, hs, hds, hne, hfs, rfl⟩ := mem_real.1 hw
    obtain ⟨rest, rfl⟩ := hcs
    have hhead : ∀ c ∈ (ds ++ '.' :: (fs ++ rest)).head?, isSign c = false := by
      cases ds with
      | nil =>
          rintro c ⟨⟩
          decide
      | cons d ds =>
          rintro c ⟨⟩
          exact isSign_of_isDigit (hds d List.mem_cons_self)
    have hlen := List.length_pos_iff.2 hne
    have hsplit : s ++ (ds ++ '.' :: fs) ++ rest = s ++ (ds ++ '.' :: (fs ++ rest)) := by
      simp only [List.append_assoc, List.cons_append]
    have hdigits := signedDigits_append hs hhead
    rw [run_append_of_pos hds, run_cons_of_not (by decide), Nat.add_zero] at hdigits
    have hdrop : (s ++ (ds ++ '.' :: (fs ++ rest))).drop (s.length + ds.length) =
        '.' :: (fs ++ rest) := by
      rw [← List.append_assoc, ← List.length_append, List.drop_left]
    have hfrac := run_append_of_pos hfs rest
    rw [hsplit]
    refine ⟨s.length + ds.length + 1 + run Char.isDigit (fs ++ rest), ?_, ?_⟩
    · have hpos : 0 < run Char.isDigit (fs ++ rest) := by omega
      simp only [Rule.real, hdigits, hdrop, hpos, and_self, if_true]
    · simp only [List.length_append, List.length_cons]
      omega

theorem computes_literal : Computes Rule.literal (oneOf isParenthesis) where
  bound h := (literal_bounds h).2
  sound {cs n} h := by
    cases cs with
    | nil => cases h
    | cons c r =>
        simp only [Rule.literal] at h
        split at h
        · rename_i hc
          cases h
          exact ⟨c, rfl, hc⟩
        · cases h
  complete {cs w} hw hcs := by
    obtain ⟨c, rfl, hc⟩ := hw
    obtain ⟨rest, rfl⟩ := hcs
    exact ⟨1, if_pos hc, Nat.le_refl 1⟩

theorem computes_identifier : Computes Rule.identifier (atLeastOne (oneOf isWordChar)) where
  bound h := (identifier_bounds h).2
  sound {cs n} h := by
    simp only [Rule.identifier] at h
    split at h
    · rename_i hpos
      cases h
      refine mem_atLeastOne.2 ⟨?_, forall_mem_take_run _ _⟩
      rw [take_run]
      exact List.length_pos_iff.1 hpos
    · cases h
  complete {cs w} hw hcs := by
    obtain ⟨hne, hw⟩ := mem_atLeastOne.1 hw
    obtain ⟨rest, rfl⟩ := hcs
    have hrun := run_append_of_pos hw rest
    have hlen := List.length_pos_iff.2 hne
    exact ⟨_, if_pos (by omega), by omega⟩

/-! ## Strings -/

theorem nil_mem_unit_kstar : [] ∈ unit∗ := Language.nil_mem_kstar unit

theorem mem_unit_of_plain (hq : c ≠ '"') (hb : c ≠ '\\') : [c] ∈ unit :=
  Or.inl ⟨c, rfl, by simp [hq, hb]⟩

theorem mem_unit_of_escaped {d : Char} (hd : d ≠ '\n') : ['\\', d] ∈ unit :=
  Or.inr (cons_mem_oneOf_mul.2 ⟨by decide, d, rfl, bne_iff_ne.2 hd⟩)

theorem append_mem_unit_kstar {u : List Char} (hu : u ∈ unit) (hw : w ∈ unit∗) :
    u ++ w ∈ unit∗ := by
  obtain ⟨L, rfl, hL⟩ := Language.mem_kstar.1 hw
  refine Language.mem_kstar.2 ⟨u :: L, rfl, ?_⟩
  intro y hy
  rcases List.mem_cons.1 hy with rfl | hy
  · exact hu
  · exact hL y hy

theorem closing_sound {cs : List Char} {n : Nat} (h : closing cs = some n) :
    ∃ w, w ∈ unit∗ ∧ cs.take n = w ++ ['"'] := by
  fun_induction closing cs generalizing n with
  | case1 => cases h
  | case2 =>
      cases h
      exact ⟨[], nil_mem_unit_kstar, rfl⟩
  | case3 => cases h
  | case4 => cases h
  | case5 d r hd hq ih =>
      obtain ⟨m, hm, rfl⟩ := Option.map_eq_some_iff.1 h
      obtain ⟨w, hw, htake⟩ := ih hm
      exact ⟨['\\', d] ++ w, append_mem_unit_kstar (mem_unit_of_escaped hd) hw, by simp [htake]⟩
  | case6 c r hc hb ih =>
      obtain ⟨m, hm, rfl⟩ := Option.map_eq_some_iff.1 h
      obtain ⟨w, hw, htake⟩ := ih hm
      exact ⟨[c] ++ w, append_mem_unit_kstar (mem_unit_of_plain hc hb) hw, by simp [htake]⟩

/-- The body of a string, unit by unit. -/
theorem unit_kstar_induction {P : List Char → Prop} (nil : P [])
    (plain : ∀ c w, c ≠ '"' → c ≠ '\\' → P w → P (c :: w))
    (escaped : ∀ d w, d ≠ '\n' → P w → P ('\\' :: d :: w)) (hw : w ∈ unit∗) : P w := by
  obtain ⟨L, rfl, hL⟩ := Language.mem_kstar.1 hw
  clear hw
  induction L with
  | nil => exact nil
  | cons u L ih =>
      have htail := ih fun y hy => hL y (List.mem_cons_of_mem u hy)
      rw [List.flatten_cons]
      rcases hL u List.mem_cons_self with ⟨c, rfl, hc⟩ | hu
      · simp only [Bool.and_eq_true, bne_iff_ne] at hc
        exact plain c _ hc.1 hc.2 htail
      · obtain ⟨a, ⟨b, rfl, hb⟩, _, ⟨d, rfl, hd⟩, rfl⟩ := Language.mem_mul.1 hu
        obtain rfl := beq_iff_eq.1 hb
        exact escaped d _ (bne_iff_ne.1 hd) htail

theorem closing_complete (hw : w ∈ unit∗) (rest : List Char) :
    closing (w ++ '"' :: rest) = some (w.length + 1) := by
  refine unit_kstar_induction (P := fun w => closing (w ++ '"' :: rest) = some (w.length + 1))
    ?_ ?_ ?_ hw
  · rw [List.nil_append, closing.eq_def]
    rfl
  · intro c w hq hb ih
    rw [List.cons_append, closing.eq_def]
    simp only [hq, hb, if_false, ih]
    rfl
  · intro d w hd ih
    rw [List.cons_append, List.cons_append, closing.eq_def]
    simp only [hd, if_false, ih]
    rfl

theorem closing_eq_some_iff {cs : List Char} {n : Nat} :
    closing cs = some n ↔ ∃ w rest, w ∈ unit∗ ∧ cs = w ++ '"' :: rest ∧ n = w.length + 1 := by
  constructor
  · intro h
    obtain ⟨w, hw, htake⟩ := closing_sound h
    have hlen := congrArg List.length htake
    rw [List.length_take, Nat.min_eq_left (closing_bounds h).2, List.length_append] at hlen
    refine ⟨w, cs.drop n, hw, ?_, hlen⟩
    calc cs = cs.take n ++ cs.drop n := (List.take_append_drop n cs).symm
      _ = w ++ '"' :: cs.drop n := by rw [htake, List.append_assoc, List.singleton_append]
  · rintro ⟨w, rest, hw, rfl, rfl⟩
    exact closing_complete hw rest

theorem mem_string : w ∈ string ↔ ∃ b, b ∈ unit∗ ∧ w = '"' :: (b ++ ['"']) := by
  simp only [string, Language.mem_mul]
  constructor
  · rintro ⟨_, ⟨_, ⟨c, rfl, hc⟩, b, hb, rfl⟩, _, ⟨d, rfl, hd⟩, rfl⟩
    obtain rfl := beq_iff_eq.1 hc
    obtain rfl := beq_iff_eq.1 hd
    exact ⟨b, hb, rfl⟩
  · rintro ⟨b, hb, rfl⟩
    exact ⟨'"' :: b, ⟨['"'], ⟨'"', rfl, rfl⟩, b, hb, rfl⟩, ['"'], ⟨'"', rfl, rfl⟩, rfl⟩

theorem computes_string : Computes Rule.string string where
  bound h := (string_bounds h).2
  sound {cs n} h := by
    cases cs with
    | nil => cases h
    | cons c r =>
        simp only [Rule.string] at h
        split at h
        · rename_i hc
          subst hc
          obtain ⟨m, hm, rfl⟩ := Option.map_eq_some_iff.1 h
          obtain ⟨b, hb, htake⟩ := closing_sound hm
          exact mem_string.2 ⟨b, hb, by rw [List.take_succ_cons, htake]⟩
        · cases h
  complete {cs w} hw hcs := by
    obtain ⟨b, hb, rfl⟩ := mem_string.1 hw
    obtain ⟨rest, rfl⟩ := hcs
    have hclose : closing (b ++ ['"'] ++ rest) = some (b.length + 1) := by
      rw [List.append_assoc]
      exact closing_complete hb rest
    refine ⟨b.length + 1 + 1, ?_, by simp⟩
    show (if '"' = '"' then (closing (b ++ ['"'] ++ rest)).map (· + 1) else none) = _
    rw [if_pos rfl, hclose]
    rfl

end Pattern
end Sexpr
