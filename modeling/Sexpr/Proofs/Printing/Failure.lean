/-
Printers that give up.

A call that fails ends the walk over the tree, however deep in the tree it is made.  To see
which calls are made, they are noted down in the printer's own state before the printer is
asked, so a call that fails is noted and a call that came after it would be too.  What is
noted is the beginning of the trace up to the failing call, and the error is the one of this
call.
-/
import Mathlib.Data.List.Induction
import Sexpr.Proofs.Printing.Trace

namespace Sexpr

namespace Printer

variable {ε σ : Type} {P : Printer (ExceptT ε (StateM σ))} {s s₁ s' : σ} {e : Event} {n : Nat}

/-- Makes a call and notes it down behind those noted before. -/
def note (P : Printer (ExceptT ε (StateM σ))) (e : Event) :
    ExceptT ε (StateM (σ × List Event)) Unit :=
  ExceptT.mk fun noted =>
    let answer := (e.tell P).run.run noted.1
    (answer.1, answer.2, noted.2 ++ [e])

/-- The same printer with a list of the calls made to it. -/
def noting (P : Printer (ExceptT ε (StateM σ))) : Printer (ExceptT ε (StateM (σ × List Event))) where
  token t := P.note (.token t)
  startList := P.note .startList
  endList := P.note .endList

/-- Whether a printer in state `s` accepts `n` calls, whichever they are, and no more. -/
structure FailsAfter (P : Printer (ExceptT ε (StateM σ))) (n : Nat) (s : σ) : Prop where
  succeeds : ∀ {es s₁}, P.Accepts s es s₁ → es.length < n →
    ∀ e : Event, ∃ s₂, (e.tell P).run.run s₁ = (.ok (), s₂)
  fails : ∀ {es s₁}, P.Accepts s es s₁ → es.length = n →
    ∀ e : Event, ∃ err s₂, (e.tell P).run.run s₁ = (.error err, s₂)

theorem tell_noting (P : Printer (ExceptT ε (StateM σ))) (e : Event) (s : σ)
    (noted : List Event) :
    (e.tell P.noting).run.run (s, noted) =
      (((e.tell P).run.run s).1, ((e.tell P).run.run s).2, noted ++ [e]) := by
  cases e <;> rfl

/-- Noting changes no answer. -/
theorem Accepts.noting {es : List Event} (h : P.Accepts s es s') (noted : List Event) :
    P.noting.Accepts (s, noted) es (s', noted ++ es) := by
  induction h generalizing noted with
  | nil =>
      rw [List.append_nil]
      exact .nil
  | @cons s s₁ s' e es hfirst _ ih =>
      have hrest := ih (noted ++ [e])
      rw [List.append_assoc, List.singleton_append] at hrest
      refine .cons ?_ hrest
      rw [tell_noting, hfirst]

namespace FailsAfter

theorem exists_accepts (h : P.FailsAfter n s) {es : List Event} (hes : es.length ≤ n) :
    ∃ s', P.Accepts s es s' := by
  -- The last call is the one that needs room, so the induction is from the right.
  induction es using List.reverseRecOn with
  | nil => exact ⟨s, .nil⟩
  | append_singleton es e ih =>
      rw [List.length_append, List.length_singleton] at hes
      obtain ⟨s₁, hs₁⟩ := ih (by omega)
      obtain ⟨s₂, hs₂⟩ := h.succeeds hs₁ (by omega) e
      exact ⟨s₂, hs₁.concat hs₂⟩

theorem print_of_le (h : P.FailsAfter n s) {node : Node} (hn : node.events.length ≤ n) :
    ∃ s', P.Accepts s node.events s' ∧ (Printable.print P node).run.run s = (.ok (), s') ∧
      (Printable.print P.noting node).run.run (s, []) = (.ok (), s', node.events) := by
  obtain ⟨s', hs'⟩ := h.exists_accepts hn
  exact ⟨s', hs', Node.print_of_accepts hs', Node.print_of_accepts (hs'.noting [])⟩

theorem print_of_getElem? (h : P.FailsAfter n s) {node : Node} (he : node.events[n]? = some e) :
    ∃ s₁ err s', P.Accepts s (node.events.take n) s₁ ∧ (e.tell P).run.run s₁ = (.error err, s') ∧
      (Printable.print P node).run.run s = (.error err, s') ∧
      (Printable.print P.noting node).run.run (s, []) =
        (.error err, s', node.events.take n ++ [e]) := by
  have hlength : (node.events.take n).length = n := by
    have hlt := (List.getElem?_eq_some_iff.1 he).1
    rw [List.length_take]
    omega
  obtain ⟨s₁, hs₁⟩ := h.exists_accepts (Nat.le_of_eq hlength)
  obtain ⟨err, s', hs'⟩ := h.fails hs₁ hlength e
  have hnoted : (e.tell P.noting).run.run (s₁, node.events.take n) =
      (.error err, s', node.events.take n ++ [e]) := by rw [tell_noting, hs']
  exact ⟨s₁, err, s', hs₁, hs', Node.print_of_refused he hs₁ hs',
    Node.print_of_refused he (hs₁.noting []) hnoted⟩

end FailsAfter

/-- What a recorder holds after calls it accepted. -/
theorem Accepts.of_recorder {limit : Nat} {told told' : Array Event} {es : List Event}
    (h : (Event.recorder limit).Accepts told es told') : told'.size = told.size + es.length := by
  induction h with
  | nil => rfl
  | @cons told told₁ told' e es hfirst _ ih =>
      rw [Event.tell_recorder] at hfirst
      by_cases hroom : told.size < limit
      · rw [Event.record_of_lt hroom] at hfirst
        obtain rfl := (Prod.mk.inj hfirst).2
        rw [ih, Array.size_push, List.length_cons]
        omega
      · rw [Event.record_of_le (Nat.le_of_not_lt hroom)] at hfirst
        exact nomatch (Prod.mk.inj hfirst).1

theorem recorder_failsAfter (limit : Nat) : (Event.recorder limit).FailsAfter limit #[] where
  succeeds h hlt e := by
    have hsize := h.of_recorder
    rw [Event.tell_recorder]
    exact ⟨_, Event.record_of_lt (by simpa [hsize] using hlt) e⟩
  fails h hlength e := by
    have hsize := h.of_recorder
    rw [Event.tell_recorder]
    exact ⟨_, _, Event.record_of_le (by simp [hsize, hlength]) e⟩

end Printer

/-- A printer that accepts `n` calls and fails with the next one is told the first `n` calls of
the trace of a node, and the next one if there is any.  Then printing fails with the error of
this call, and no other call is made.  If there is none printing succeeds, and the whole trace
was told. -/
theorem failing_printer_stops {ε σ : Type} {P : Printer (ExceptT ε (StateM σ))} {n : Nat} {s : σ}
    (h : P.FailsAfter n s) (node : Node) :
    (node.events.length ≤ n → ∃ s', P.Accepts s node.events s' ∧
      (Printable.print P node).run.run s = (.ok (), s') ∧
      (Printable.print P.noting node).run.run (s, []) = (.ok (), s', node.events)) ∧
    ∀ e, node.events[n]? = some e → ∃ s₁ err s', P.Accepts s (node.events.take n) s₁ ∧
      (e.tell P).run.run s₁ = (.error err, s') ∧
      (Printable.print P node).run.run s = (.error err, s') ∧
      (Printable.print P.noting node).run.run (s, []) =
        (.error err, s', node.events.take n ++ [e]) :=
  ⟨h.print_of_le, fun _ => h.print_of_getElem?⟩

/-- The fourth call is inside a list in a list, with a token and two ends still to come. -/
theorem failing_printer_stops_in_inner_list :
    let o : Token := ⟨.literal, "(", ⟨0, 1⟩⟩
    let c : Token := ⟨.literal, ")", ⟨0, 1⟩⟩
    let t : Token := ⟨.id, "a", ⟨0, 1⟩⟩
    let node : Node := .program ⟨[.list o [.atom t, .list o [.atom t] c, .atom t] c]⟩
    (Event.recorder 3).FailsAfter 3 #[] ∧
      ∃ err told, (Printable.print (Event.recorder 3).noting node).run.run (#[], []) =
        (.error err, told, [.startList, .token t, .startList, .token t]) := by
  intro o c t node
  have hfails := Printer.recorder_failsAfter 3
  obtain ⟨_, err, told, -, -, -, hnoted⟩ := (failing_printer_stops hfails node).2 (.token t) rfl
  exact ⟨hfails, err, told, hnoted⟩

end Sexpr
