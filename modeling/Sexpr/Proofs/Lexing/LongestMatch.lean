/-
Longest match and first match.

A text can be cut by the longest match among a list of patterns, or by the first
of a list of rules that matches at all.  The patterns and the rules of this
language cut every text the same way, although the longest match also has to
choose between a sign and the number it starts.
-/
import Sexpr.Proofs.Lexing.Identifier

namespace Sexpr
namespace Pattern

open scoped Computability
open Rule Text

/-- Patterns with the kind of token they make.  Without a kind, what they match is
skipped. -/
abbrev Lexicon := List (Option Kind × Language Char)

def patterns : Lexicon :=
  [(none, atLeastOne (oneOf isBlank)),
   (some .literal, oneOf (· == '(')),
   (some .literal, oneOf (· == ')')),
   (some .real, real),
   (some .int, integer),
   (some .string, string),
   (some .id, plainWord),
   (some .id, signWord),
   (some .id, pointWord)]

def tokenRules : Lexicon :=
  [(some .literal, oneOf isParenthesis),
   (some .real, real),
   (some .int, integer),
   (some .string, string),
   (some .id, atLeastOne (oneOf isWordChar))]

def rules : Lexicon := (none, oneOf isBlank) :: tokenRules

/-- A pattern of kind `k` matches `a` at the front of `cs`, and none matches more. -/
structure LongestOf (ps : Lexicon) (cs : List Char) (k : Option Kind) (a : List Char) : Prop where
  matched : ∃ l, (k, l) ∈ ps ∧ a ∈ l
  front : a <+: cs
  longest : ∀ p ∈ ps, ∀ b ∈ p.2, b <+: cs → b.length ≤ a.length

/-- The first rule that matches at the front of `cs` has kind `k` and takes `a`. -/
inductive FirstOf (cs : List Char) : Lexicon → Option Kind → List Char → Prop where
  | here {k l ps a} : Longest l cs a → FirstOf cs ((k, l) :: ps) k a
  | later {p ps k a} : (∀ b ∈ p.2, ¬b <+: cs) → FirstOf cs ps k a → FirstOf cs (p :: ps) k a

/-- What comes of a text at `offset` if `takes cs k a` says what may be taken at
its front: the tokens, or the place where nothing could be taken. -/
inductive Scans (takes : List Char → Option Kind → List Char → Prop) :
    Nat → List Char → Except Nat (List Token) → Prop where
  | done {offset} : Scans takes offset [] (.ok [])
  | stuck {offset cs} : cs ≠ [] → (∀ k a, ¬takes cs k a) → Scans takes offset cs (.error offset)
  | skip {offset a b r} : takes (a ++ b) none a → Scans takes (offset + byteLength a) b r →
      Scans takes offset (a ++ b) r
  | token {offset kind a b r} : takes (a ++ b) (some kind) a →
      Scans takes (offset + byteLength a) b r →
      Scans takes offset (a ++ b) (r.map
        ({ kind := kind, text := String.ofList a, span := ⟨offset, offset + byteLength a⟩ } :: ·))

/-! ## Scans that agree with the lexer -/

/-- What is taken at the front of a text is a run of blank characters, or what the
first rule of the lexer takes. -/
structure Agrees (takes : List Char → Option Kind → List Char → Prop) : Prop where
  empty : ∀ {k a}, ¬takes [] k a
  blanks : ∀ {cs a}, takes cs none a → a ≠ [] ∧ a <+: cs ∧ ∀ c ∈ a, isBlank c = true
  skips : ∀ {c r}, isBlank c = true → ∃ a b, c :: r = a ++ b ∧ takes (c :: r) none a
  token : ∀ {c r kind a}, takes (c :: r) (some kind) a ↔
    isBlank c = false ∧ ∃ n, first (c :: r) = some (kind, n) ∧ a = (c :: r).take n

theorem isBlank_of_front {a r : List Char} {c : Char} (hne : a ≠ [])
    (ha : ∀ d ∈ a, isBlank d = true) (h : a <+: c :: r) : isBlank c = true := by
  obtain ⟨d, a, rfl⟩ := List.exists_cons_of_ne_nil hne
  obtain ⟨b, hab⟩ := h
  obtain ⟨rfl, -⟩ := List.cons.inj hab
  exact ha d List.mem_cons_self

theorem mapError_map {α β ε ε' : Type} (x : Except ε α) (f : α → β) (g : ε → ε') :
    (x.map f).mapError g = (x.mapError g).map f := by
  cases x <;> rfl

variable {takes : List Char → Option Kind → List Char → Prop} {offset : Nat} {cs : List Char}
  {r : Except Nat (List Token)}

theorem Agrees.eq_scan (h : Agrees takes) (hs : Scans takes offset cs r) :
    r = (Lexer.scan offset cs).mapError (·.span.start) := by
  induction hs with
  | done =>
      rw [Lexer.scan_nil]
      rfl
  | @stuck offset cs hne hnone =>
      obtain ⟨c, r, rfl⟩ := List.exists_cons_of_ne_nil hne
      have hc : isBlank c = false := by
        rw [Bool.eq_false_iff]
        intro hc
        obtain ⟨a, b, -, ha⟩ := h.skips (r := r) hc
        exact hnone none a ha
      have hf : first (c :: r) = none := by
        cases hf : first (c :: r) with
        | none => rfl
        | some f => exact absurd (h.token.2 ⟨hc, f.2, hf, rfl⟩) (hnone (some f.1) _)
      rw [Lexer.scan_stuck hc hf]
      show Except.error offset = Except.error (Lexer.complaint offset (c :: r)).span.start
      rw [Lexer.complaint_start]
  | skip ha _ ih =>
      rw [Lexer.scan_blanks (h.blanks ha).2.2]
      exact ih
  | @token offset kind a b r ha _ ih =>
      cases hcs : a ++ b with
      | nil =>
          rw [hcs] at ha
          exact absurd ha h.empty
      | cons c d =>
          rw [hcs] at ha
          obtain ⟨hc, n, hf, htake⟩ := h.token.1 ha
          have hn := (first_bounds hf).2
          have hlen : a.length = n := by
            rw [htake, List.length_take]
            omega
          have hdrop : (c :: d).drop n = b := by
            rw [← hcs, ← hlen, List.drop_left]
          rw [Lexer.scan_token hc hf, ← htake, hdrop, mapError_map, ih]
          rfl

theorem Agrees.exists_scans (h : Agrees takes) (offset : Nat) (cs : List Char) :
    ∃ r, Scans takes offset cs r := by
  cases cs with
  | nil => exact ⟨_, .done⟩
  | cons c r =>
      by_cases hc : isBlank c = true
      · obtain ⟨a, b, hab, ha⟩ := h.skips (r := r) hc
        have hpos := List.length_pos_iff.2 (h.blanks ha).1
        have hlen := congrArg List.length hab
        rw [List.length_append] at hlen
        obtain ⟨s, hs⟩ := exists_scans h (offset + byteLength a) b
        rw [hab] at ha ⊢
        exact ⟨s, .skip ha hs⟩
      · rw [Bool.not_eq_true] at hc
        cases hf : first (c :: r) with
        | none =>
            refine ⟨_, .stuck (List.cons_ne_nil c r) ?_⟩
            rintro (_ | kind) a ha
            · obtain ⟨hne, hfront, hblank⟩ := h.blanks ha
              rw [isBlank_of_front hne hblank hfront] at hc
              exact Bool.noConfusion hc
            · obtain ⟨-, n, hn, -⟩ := h.token.1 ha
              rw [hf] at hn
              exact nomatch hn
        | some f =>
            obtain ⟨s, hs⟩ := exists_scans h (offset + byteLength ((c :: r).take f.2))
              ((c :: r).drop f.2)
            have ha := h.token.2 ⟨hc, f.2, hf, rfl⟩
            have hscan := Scans.token (b := (c :: r).drop f.2) (by rwa [List.take_append_drop]) hs
            rw [List.take_append_drop] at hscan
            exact ⟨_, hscan⟩
termination_by cs.length
decreasing_by
  · simp only [List.length_append, List.length_cons] at *
    omega
  · have hb := first_bounds hf
    simp only [List.length_drop, List.length_cons] at *
    omega

theorem Agrees.scans_iff (h : Agrees takes) :
    Scans takes offset cs r ↔ r = (Lexer.scan offset cs).mapError (·.span.start) := by
  constructor
  · exact h.eq_scan
  · rintro rfl
    obtain ⟨r, hr⟩ := h.exists_scans offset cs
    rw [← h.eq_scan hr]
    exact hr

/-! ## The first rule that matches -/

def firstRule (rs : List (Kind × Rule)) (cs : List Char) : Option (Kind × Nat) :=
  rs.findSome? fun r => (r.2 cs).map (r.1, ·)

def ComputesAll : List (Kind × Rule) → Lexicon → Prop :=
  List.Forall₂ fun r p => p.1 = some r.1 ∧ Computes r.2 p.2

theorem computes_tokenRules : ComputesAll ordered tokenRules :=
  .cons ⟨rfl, computes_literal⟩ (.cons ⟨rfl, computes_real⟩ (.cons ⟨rfl, computes_integer⟩
    (.cons ⟨rfl, computes_string⟩ (.cons ⟨rfl, computes_identifier⟩ .nil))))

variable {rs : List (Kind × Rule)} {ps : Lexicon}

theorem firstRule_cons_some {rule : Kind × Rule} {n : Nat} (h : rule.2 cs = some n) :
    firstRule (rule :: rs) cs = some (rule.1, n) := by
  rw [firstRule, List.findSome?_cons, h]
  rfl

theorem firstRule_cons_none {rule : Kind × Rule} (h : rule.2 cs = none) :
    firstRule (rule :: rs) cs = firstRule rs cs := by
  rw [firstRule, List.findSome?_cons, h]
  rfl

theorem firstOf_iff {k : Option Kind} {a : List Char} (h : ComputesAll rs ps) :
    FirstOf cs ps k a ↔
      ∃ kind n, firstRule rs cs = some (kind, n) ∧ k = some kind ∧ a = cs.take n := by
  induction h with
  | nil =>
      constructor
      · intro hf
        exact nomatch hf
      · rintro ⟨_, _, h, -⟩
        exact nomatch h
  | @cons rule p rs ps hr _ ih =>
      obtain ⟨k', l⟩ := p
      obtain ⟨rfl, hcomputes⟩ := hr
      cases hrule : rule.2 cs with
      | none =>
          have hnone := hcomputes.none_iff.1 hrule
          rw [firstRule_cons_none hrule, ← ih]
          constructor
          · intro hf
            cases hf with
            | here hl => exact absurd hl.front (hnone a hl.mem)
            | later _ hf => exact hf
          · exact .later hnone
      | some n =>
          rw [firstRule_cons_some hrule]
          constructor
          · intro hf
            cases hf with
            | here hl =>
                obtain ⟨m, hm, ha⟩ := hcomputes.longest_iff.1 hl
                rw [hrule] at hm
                obtain rfl := Option.some.inj hm
                exact ⟨rule.1, n, rfl, rfl, ha⟩
            | later hnone _ =>
                rw [hcomputes.none_iff.2 hnone] at hrule
                exact nomatch hrule
          · rintro ⟨_, _, hsome, rfl, rfl⟩
            obtain ⟨rfl, rfl⟩ := Prod.mk.inj (Option.some.inj hsome)
            exact .here (hcomputes.longest_iff.2 ⟨n, hrule, rfl⟩)

/-- A longest match is the first match of a continuation too, unless another rule
takes more there. -/
theorem firstRule_of_front {kind : Kind} {a : List Char} (h : ComputesAll rs ps)
    (ha : firstRule rs a = some (kind, a.length)) (hcs : a <+: cs) :
    ∃ kind' n, firstRule rs cs = some (kind', n) ∧
      (n = a.length ∧ kind' = kind ∨ a.length < n) := by
  induction h with
  | nil => exact nomatch ha
  | @cons rule p rs ps hr _ ih =>
      obtain ⟨-, hcomputes⟩ := hr
      cases hrule : rule.2 a with
      | some m =>
          rw [firstRule_cons_some hrule] at ha
          obtain ⟨rfl, rfl⟩ := Prod.mk.inj (Option.some.inj ha)
          have hmem := hcomputes.sound hrule
          rw [List.take_length] at hmem
          obtain ⟨n, hn, hle⟩ := hcomputes.complete hmem hcs
          refine ⟨rule.1, n, firstRule_cons_some hn, ?_⟩
          rcases Nat.lt_or_eq_of_le hle with hlt | heq
          · exact .inr hlt
          · exact .inl ⟨heq.symm, rfl⟩
      | none =>
          rw [firstRule_cons_none hrule] at ha
          cases hrule' : rule.2 cs with
          | none =>
              rw [firstRule_cons_none hrule']
              exact ih ha
          | some n =>
              refine ⟨rule.1, n, firstRule_cons_some hrule', .inr ?_⟩
              -- A match that ended within `a` would already be one of `a`.
              by_contra hlt
              have hlen : (cs.take n).length ≤ a.length := by
                rw [List.length_take]
                omega
              have htake := List.prefix_of_prefix_length_le (List.take_prefix n cs) hcs hlen
              exact hcomputes.none_iff.1 hrule _ (hcomputes.sound hrule') htake

/-! ## The longest match -/

theorem dot_mem_of_mem_real {w : List Char} (h : w ∈ real) : '.' ∈ w := by
  obtain ⟨s, ds, fs, -, -, -, -, rfl⟩ := mem_real.1 h
  simp

theorem dot_not_mem_of_mem_integer {w : List Char} (h : w ∈ integer) : '.' ∉ w := by
  obtain ⟨s, ds, hs, -, hds, rfl⟩ := mem_integer.1 h
  rw [List.mem_append]
  rintro (hdot | hdot)
  · rcases mem_optional.1 hs with rfl | ⟨c, rfl, hc⟩
    · exact List.not_mem_nil hdot
    · obtain rfl := List.mem_singleton.1 hdot
      exact absurd hc (by decide)
  · exact absurd (hds '.' hdot) (by decide)

theorem real_eq_none_of_mem_integer {a : List Char} (h : a ∈ integer) :
    Rule.real a = none := by
  cases hr : Rule.real a with
  | none => rfl
  | some n =>
      have hdot := dot_mem_of_mem_real (computes_real.sound hr)
      exact absurd (List.mem_of_mem_take hdot) (dot_not_mem_of_mem_integer h)

/-- Every text of a pattern is, alone, one token of the pattern's kind. -/
theorem first_of_mem {kind : Kind} {l : Language Char} {a : List Char}
    (hl : (some kind, l) ∈ patterns) (ha : a ∈ l) : first a = some (kind, a.length) := by
  simp only [patterns, List.mem_cons, Prod.mk.injEq, Option.some.injEq, reduceCtorEq, false_and,
    List.not_mem_nil, or_false, false_or] at hl
  rcases hl with ⟨rfl, rfl⟩ | ⟨rfl, rfl⟩ | ⟨rfl, rfl⟩ | ⟨rfl, rfl⟩ | ⟨rfl, rfl⟩ | ⟨rfl, rfl⟩ |
    ⟨rfl, rfl⟩ | ⟨rfl, rfl⟩
  · obtain ⟨c, rfl, hc⟩ := ha
    exact first_of_parenthesis (isParenthesis_iff.2 (.inl (beq_iff_eq.1 hc)))
  · obtain ⟨c, rfl, hc⟩ := ha
    exact first_of_parenthesis (isParenthesis_iff.2 (.inr (beq_iff_eq.1 hc)))
  · exact first_of_real (computes_real.self ha)
  · exact first_of_integer (real_eq_none_of_mem_integer ha) (computes_integer.self ha)
  · exact first_of_string (computes_string.self ha)
  · exact first_of_mem_identifier (.inl ha)
  · exact first_of_mem_identifier (.inr (.inl ha))
  · exact first_of_mem_identifier (.inr (.inr ha))

theorem mem_of_first {kind : Kind} {n : Nat} (h : first cs = some (kind, n)) :
    ∃ l, (some kind, l) ∈ patterns ∧ cs.take n ∈ l := by
  obtain ⟨r, hr, hrule⟩ := List.exists_of_findSome?_eq_some h
  obtain ⟨m, hm, hrule⟩ := Option.map_eq_some_iff.1 hrule
  obtain ⟨rfl, rfl⟩ := Prod.mk.inj hrule
  simp only [ordered, List.mem_cons, List.not_mem_nil, or_false] at hr
  rcases hr with rfl | rfl | rfl | rfl | rfl
  · obtain ⟨c, hc, hp⟩ := computes_literal.sound hm
    rw [hc]
    rcases isParenthesis_iff.1 hp with rfl | rfl
    · exact ⟨oneOf (· == '('), by simp [patterns], '(', rfl, rfl⟩
    · exact ⟨oneOf (· == ')'), by simp [patterns], ')', rfl, rfl⟩
  · exact ⟨real, by simp [patterns], computes_real.sound hm⟩
  · exact ⟨integer, by simp [patterns], computes_integer.sound hm⟩
  · exact ⟨string, by simp [patterns], computes_string.sound hm⟩
  · rcases mem_identifier_of_first h with hw | hw | hw
    · exact ⟨plainWord, by simp [patterns], hw⟩
    · exact ⟨signWord, by simp [patterns], hw⟩
    · exact ⟨pointWord, by simp [patterns], hw⟩

theorem exists_first_of_mem {kind : Kind} {l : Language Char} {a : List Char}
    (hl : (some kind, l) ∈ patterns) (ha : a ∈ l) (hcs : a <+: cs) :
    ∃ kind' n, first cs = some (kind', n) ∧ (n = a.length ∧ kind' = kind ∨ a.length < n) :=
  firstRule_of_front computes_tokenRules (first_of_mem hl ha) hcs

theorem blanks_of_mem {l : Language Char} {a : List Char} (hl : (none, l) ∈ patterns)
    (ha : a ∈ l) : a ≠ [] ∧ ∀ c ∈ a, isBlank c = true := by
  simp only [patterns, List.mem_cons, Prod.mk.injEq, reduceCtorEq, false_and, true_and,
    List.not_mem_nil, or_false] at hl
  rw [hl] at ha
  exact mem_atLeastOne.1 ha

theorem isBlank_of_mem {l : Language Char} {a : List Char} {c : Char} {r : List Char}
    (hl : (none, l) ∈ patterns) (ha : a ∈ l) (hcs : a <+: c :: r) : isBlank c = true := by
  obtain ⟨hne, hblank⟩ := blanks_of_mem hl ha
  exact isBlank_of_front hne hblank hcs

theorem longestOf_iff {c : Char} {r : List Char} {kind : Kind} {a : List Char} :
    LongestOf patterns (c :: r) (some kind) a ↔
      isBlank c = false ∧ ∃ n, first (c :: r) = some (kind, n) ∧ a = (c :: r).take n := by
  constructor
  · rintro ⟨⟨l, hl, ha⟩, hfront, hlongest⟩
    obtain ⟨kind', n, hn, hcase⟩ := exists_first_of_mem hl ha hfront
    have hc := isBlank_of_first hn
    rcases hcase with ⟨rfl, rfl⟩ | hlt
    · exact ⟨hc, a.length, hn, List.prefix_iff_eq_take.1 hfront⟩
    · obtain ⟨l', hl', hmem⟩ := mem_of_first hn
      have hle := hlongest _ hl' _ hmem (List.take_prefix n _)
      have hbound := (first_bounds hn).2
      rw [List.length_take] at hle
      omega
  · rintro ⟨hc, n, hn, rfl⟩
    have hbound := (first_bounds hn).2
    refine ⟨mem_of_first hn, List.take_prefix n _, ?_⟩
    rintro ⟨_ | kind', l⟩ hl b hb hfront
    · have hblank := isBlank_of_mem hl hb hfront
      rw [hc] at hblank
      exact Bool.noConfusion hblank
    · obtain ⟨kind'', m, hm, hcase⟩ := exists_first_of_mem hl hb hfront
      rw [hn] at hm
      obtain ⟨rfl, rfl⟩ := Prod.mk.inj (Option.some.inj hm)
      rw [List.length_take]
      omega

theorem longestOf_blank {c : Char} {r : List Char} (hc : isBlank c = true) :
    LongestOf patterns (c :: r) none ((c :: r).takeWhile isBlank) := by
  refine ⟨⟨atLeastOne (oneOf isBlank), List.mem_cons_self, ?_⟩, List.takeWhile_prefix _, ?_⟩
  · refine mem_atLeastOne.2 ⟨?_, fun d hd => List.all_eq_true.1 List.all_takeWhile d hd⟩
    rw [List.takeWhile_cons_of_pos hc]
    exact List.cons_ne_nil _ _
  · rintro ⟨_ | kind, l⟩ hl b hb hfront
    · obtain ⟨rest, hrest⟩ := hfront
      have hrun := run_append_of_pos (blanks_of_mem hl hb).2 rest
      rw [hrest, run] at hrun
      omega
    · obtain ⟨_, _, hn, -⟩ := exists_first_of_mem hl hb hfront
      rw [first_of_blank hc] at hn
      cases hn

theorem longestOf_nil {k : Option Kind} {a : List Char} : ¬LongestOf patterns [] k a := by
  rintro ⟨⟨l, hl, ha⟩, hfront, -⟩
  cases k with
  | none =>
      exact (blanks_of_mem hl ha).1 (List.prefix_nil.1 hfront)
  | some kind =>
      obtain ⟨_, _, hn, -⟩ := exists_first_of_mem hl ha hfront
      exact nomatch hn

theorem agrees_longest : Agrees (LongestOf patterns) where
  empty := longestOf_nil
  blanks := by
    rintro cs a ⟨⟨l, hl, ha⟩, hfront, -⟩
    exact ⟨(blanks_of_mem hl ha).1, hfront, (blanks_of_mem hl ha).2⟩
  skips {c r} hc := ⟨_, _, (List.takeWhile_append_dropWhile).symm, longestOf_blank hc⟩
  token := longestOf_iff

/-! ## The rules in order -/

theorem longest_blank_iff {a : List Char} :
    Longest (oneOf isBlank) cs a ↔ ∃ c r, cs = c :: r ∧ isBlank c = true ∧ a = [c] := by
  constructor
  · rintro ⟨⟨c, rfl, hc⟩, ⟨r, rfl⟩, -⟩
    exact ⟨c, r, rfl, hc, rfl⟩
  · rintro ⟨c, r, rfl, hc, rfl⟩
    refine ⟨⟨c, rfl, hc⟩, ⟨r, rfl⟩, ?_⟩
    rintro b ⟨d, rfl, -⟩ -
    exact Nat.le_refl 1

theorem firstOf_none {a : List Char} (h : FirstOf cs rules none a) :
    Longest (oneOf isBlank) cs a := by
  cases h with
  | here hl => exact hl
  | later _ h =>
      obtain ⟨_, _, -, hk, -⟩ := (firstOf_iff computes_tokenRules).1 h
      exact nomatch hk

theorem firstOf_some {kind : Kind} {a : List Char} :
    FirstOf cs rules (some kind) a ↔
      (∀ b ∈ oneOf isBlank, ¬b <+: cs) ∧ ∃ n, first cs = some (kind, n) ∧ a = cs.take n := by
  constructor
  · intro h
    cases h with
    | later hnone h =>
        obtain ⟨_, n, hn, hk, ha⟩ := (firstOf_iff computes_tokenRules).1 h
        obtain rfl := Option.some.inj hk
        exact ⟨hnone, n, hn, ha⟩
  · rintro ⟨hnone, n, hn, ha⟩
    exact .later hnone ((firstOf_iff computes_tokenRules).2 ⟨kind, n, hn, rfl, ha⟩)

theorem no_blank_iff {c : Char} {r : List Char} :
    (∀ b ∈ oneOf isBlank, ¬b <+: c :: r) ↔ isBlank c = false := by
  constructor
  · intro h
    rw [Bool.eq_false_iff]
    intro hc
    exact h [c] ⟨c, rfl, hc⟩ ⟨r, rfl⟩
  · rintro hc b ⟨d, rfl, hd⟩ ⟨e, he⟩
    obtain ⟨rfl, -⟩ := List.cons.inj he
    rw [hc] at hd
    exact Bool.noConfusion hd

theorem agrees_first : Agrees fun cs => FirstOf cs rules where
  empty := by
    rintro (_ | kind) a h
    · obtain ⟨c, r, hcs, -⟩ := longest_blank_iff.1 (firstOf_none h)
      exact nomatch hcs
    · obtain ⟨-, n, hn, -⟩ := firstOf_some.1 h
      exact nomatch hn
  blanks := by
    intro cs a h
    obtain ⟨c, r, rfl, hc, rfl⟩ := longest_blank_iff.1 (firstOf_none h)
    refine ⟨List.cons_ne_nil c [], ⟨r, rfl⟩, ?_⟩
    intro d hd
    rw [List.mem_singleton.1 hd]
    exact hc
  skips {c r} hc := ⟨[c], r, rfl, .here (longest_blank_iff.2 ⟨c, r, rfl, hc, rfl⟩)⟩
  token := by
    intro c r kind a
    rw [firstOf_some, no_blank_iff]

theorem LongestOf.unique {k k' : Option Kind} {a a' : List Char}
    (h : LongestOf patterns cs k a) (h' : LongestOf patterns cs k' a') : k = k' ∧ a = a' := by
  obtain ⟨l, hl, ha⟩ := h.matched
  obtain ⟨l', hl', ha'⟩ := h'.matched
  have hle := h'.longest _ hl _ ha h.front
  have hge := h.longest _ hl' _ ha' h'.front
  have heq : a = a' :=
    (List.prefix_of_prefix_length_le h.front h'.front hle).eq_of_length (Nat.le_antisymm hle hge)
  refine ⟨?_, heq⟩
  cases cs with
  | nil => exact absurd h longestOf_nil
  | cons c r =>
      cases k with
      | none =>
          cases k' with
          | none => rfl
          | some kind' =>
              have hc := isBlank_of_mem hl ha h.front
              rw [(longestOf_iff.1 h').1] at hc
              exact Bool.noConfusion hc
      | some kind =>
          obtain ⟨hc, n, hn, -⟩ := longestOf_iff.1 h
          cases k' with
          | none =>
              rw [isBlank_of_mem hl' ha' h'.front] at hc
              exact Bool.noConfusion hc
          | some kind' =>
              obtain ⟨-, n', hn', -⟩ := longestOf_iff.1 h'
              rw [hn] at hn'
              rw [(Prod.mk.inj (Option.some.inj hn')).1]

/-- The longest match and the rules in order cut every source into the same tokens, or
fail at the same place; the lexer does what both do, and at no place do patterns of
different kinds match equally much. -/
theorem longest_match_refines_rules (source : String) :
    (∀ r, Scans (LongestOf patterns) 0 source.toList r ↔
      Scans (fun cs => FirstOf cs rules) 0 source.toList r) ∧
    (∀ r, Scans (LongestOf patterns) 0 source.toList r ↔
      r = (tokenize source).mapError (·.span.start)) ∧
    ∀ cs k k' a a', LongestOf patterns cs k a → LongestOf patterns cs k' a' →
      k = k' ∧ a = a' := by
  refine ⟨?_, ?_, ?_⟩
  · intro r
    rw [agrees_longest.scans_iff, agrees_first.scans_iff]
  · intro r
    exact agrees_longest.scans_iff
  · intro cs k k' a a' h h'
    exact h.unique h'

end Pattern
end Sexpr
