/-
The scan, one step at a time.

Nothing else looks inside the definition of `Lexer.scan`: a blank character moves
the scan on, a token is taken by the first rule that applies, and where no rule
applies the scan ends.
-/
import Sexpr.Token.Lexer

namespace Sexpr
namespace Lexer

open Text

variable {offset : Nat} {c : Char} {r : List Char}

theorem scan_nil (offset : Nat) : scan offset [] = .ok [] := by
  rw [scan]

theorem scan_blank (hc : isBlank c = true) :
    scan offset (c :: r) = scan (offset + c.utf8Size) r := by
  rw [scan, if_pos hc]

theorem scan_stuck (hc : isBlank c = false) (h : Rule.first (c :: r) = none) :
    scan offset (c :: r) = .error (complaint offset (c :: r)) := by
  rw [scan, if_neg (Bool.eq_false_iff.1 hc)]
  split
  · rfl
  · rename_i h'
    rw [h] at h'
    cases h'

theorem scan_token (hc : isBlank c = false) {kind : Kind} {n : Nat}
    (h : Rule.first (c :: r) = some (kind, n)) :
    scan offset (c :: r) =
      (scan (tokenAt kind ((c :: r).take n) offset).span.stop ((c :: r).drop n)).map
        (tokenAt kind ((c :: r).take n) offset :: ·) := by
  rw [scan, if_neg (Bool.eq_false_iff.1 hc)]
  split
  · rename_i h'
    rw [h] at h'
    cases h'
  · rename_i k m h'
    rw [h] at h'
    obtain ⟨rfl, rfl⟩ := Prod.mk.inj (Option.some.inj h')
    dsimp only
    split
    · rename_i e he
      rw [he]
      rfl
    · rename_i ts hts
      rw [hts]
      rfl

theorem scan_token_eq_ok (hc : isBlank c = false) {kind : Kind} {n : Nat}
    (hf : Rule.first (c :: r) = some (kind, n)) {ts : List Token}
    (h : scan offset (c :: r) = .ok ts) :
    ∃ us, scan (tokenAt kind ((c :: r).take n) offset).span.stop ((c :: r).drop n) = .ok us ∧
      ts = tokenAt kind ((c :: r).take n) offset :: us := by
  rw [scan_token hc hf] at h
  cases hs : scan (tokenAt kind ((c :: r).take n) offset).span.stop ((c :: r).drop n) with
  | error e =>
      rw [hs] at h
      exact nomatch h
  | ok us =>
      rw [hs] at h
      exact ⟨us, rfl, (Except.ok.inj h).symm⟩

theorem scan_token_eq_error (hc : isBlank c = false) {kind : Kind} {n : Nat}
    (hf : Rule.first (c :: r) = some (kind, n)) {e : LexError}
    (h : scan offset (c :: r) = .error e) :
    scan (tokenAt kind ((c :: r).take n) offset).span.stop ((c :: r).drop n) = .error e := by
  rw [scan_token hc hf] at h
  cases hs : scan (tokenAt kind ((c :: r).take n) offset).span.stop ((c :: r).drop n) with
  | error d =>
      rw [hs] at h
      exact h
  | ok us =>
      rw [hs] at h
      exact nomatch h

theorem scan_blanks {a : List Char} (h : ∀ c ∈ a, isBlank c = true) (offset : Nat)
    (b : List Char) : scan offset (a ++ b) = scan (offset + byteLength a) b := by
  induction a generalizing offset with
  | nil => rfl
  | cons c a ih =>
      have htail := ih fun d hd => h d (List.mem_cons_of_mem c hd)
      rw [List.cons_append, scan_blank (h c List.mem_cons_self), htail, byteLength_cons,
        Nat.add_assoc]

theorem complaint_start (offset : Nat) (c : Char) (r : List Char) :
    (complaint offset (c :: r)).span.start = offset := by
  simp only [complaint]
  split <;> rfl

theorem scan_induction {P : Nat → List Char → Prop} (nil : ∀ offset, P offset [])
    (blank : ∀ offset c r, isBlank c = true → P (offset + c.utf8Size) r → P offset (c :: r))
    (stuck : ∀ offset c r, isBlank c = false → Rule.first (c :: r) = none → P offset (c :: r))
    (token : ∀ offset c r kind n, isBlank c = false → Rule.first (c :: r) = some (kind, n) →
      P (tokenAt kind ((c :: r).take n) offset).span.stop ((c :: r).drop n) → P offset (c :: r))
    (offset : Nat) (cs : List Char) : P offset cs := by
  cases cs with
  | nil => exact nil offset
  | cons c r =>
      by_cases hc : isBlank c = true
      · exact blank offset c r hc (scan_induction nil blank stuck token _ r)
      · rw [Bool.not_eq_true] at hc
        match h : Rule.first (c :: r) with
        | none => exact stuck offset c r hc h
        | some (kind, n) =>
            have hb := Rule.first_bounds h
            have hlt : ((c :: r).drop n).length < (c :: r).length := by
              rw [List.length_drop]
              omega
            exact token offset c r kind n hc h (scan_induction nil blank stuck token _ _)
termination_by cs.length

/-- Every token was taken by the first rule that applied where it stands. -/
theorem mem_scan {cs : List Char} {ts : List Token} (h : scan offset cs = .ok ts) {t : Token}
    (ht : t ∈ ts) : ∃ start c r kind n, isBlank c = false ∧
      Rule.first (c :: r) = some (kind, n) ∧ t = tokenAt kind ((c :: r).take n) start := by
  induction offset, cs using scan_induction generalizing ts with
  | nil offset =>
      rw [scan_nil] at h
      cases h
      exact absurd ht List.not_mem_nil
  | blank offset c r hc ih =>
      rw [scan_blank hc] at h
      exact ih h ht
  | stuck offset c r hc hf =>
      rw [scan_stuck hc hf] at h
      exact nomatch h
  | token offset c r kind n hc hf ih =>
      obtain ⟨us, hus, rfl⟩ := scan_token_eq_ok hc hf h
      rcases List.mem_cons.1 ht with rfl | ht
      · exact ⟨offset, c, r, kind, n, hc, hf, rfl⟩
      · exact ih hus ht

end Lexer
end Sexpr
