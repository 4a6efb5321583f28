/-
What a printer is told.

The walk over a tree tells the printer one thing after the other, and that row of events is
a function of the tree.  So printing is running the printer's callbacks along the row, in
whatever monad the printer works.  A printer that gives up is told nothing more: the
recorder with a limit has the first events up to the limit, and refuses the next one if
there is any.
-/
import Sexpr.Printer.Event

namespace Sexpr

namespace Event

/-- Tells a printer of an event. -/
def tell {m : Type → Type} (p : Printer m) : Event → m Unit
  | token t => p.token t
  | startList => p.startList
  | endList => p.endList

end Event

namespace SExpr

mutual
def events : SExpr → List Event
  | atom t => [.token t]
  | list _ items _ => .startList :: (eventsOf items ++ [.endList])

def eventsOf : List SExpr → List Event
  | [] => []
  | x :: xs => events x ++ eventsOf xs
end

variable {m : Type → Type} [Monad m] [LawfulMonad m]

mutual
theorem print_eq_forM_events (p : Printer m) (x : SExpr) :
    print p x = x.events.forM (Event.tell p) := by
  cases x with
  | atom t => simp [print, events, Event.tell]
  | list o xs c =>
      rw [print, events, printAll_eq_forM_eventsOf p xs]
      simp [Event.tell]

theorem printAll_eq_forM_eventsOf (p : Printer m) (xs : List SExpr) :
    printAll p xs = (eventsOf xs).forM (Event.tell p) := by
  cases xs with
  | nil => simp [printAll, eventsOf]
  | cons x xs =>
      rw [printAll, eventsOf, print_eq_forM_events p x, printAll_eq_forM_eventsOf p xs]
      simp
end

end SExpr

namespace Printer

variable {ε σ : Type} {P : Printer (ExceptT ε (StateM σ))} {s s₁ s' : σ} {e : Event} {err : ε}

/-- Whether a printer in state `s` takes the calls `es` without an error, and is in state `s'`
after them. -/
inductive Accepts (P : Printer (ExceptT ε (StateM σ))) : σ → List Event → σ → Prop where
  | nil {s : σ} : Accepts P s [] s
  | cons {s s₁ s' : σ} {e : Event} {es : List Event} : (e.tell P).run.run s = (.ok (), s₁) →
      Accepts P s₁ es s' → Accepts P s (e :: es) s'

theorem Accepts.concat {es : List Event} (h : P.Accepts s es s₁)
    (he : (e.tell P).run.run s₁ = (.ok (), s')) : P.Accepts s (es ++ [e]) s' := by
  induction h with
  | nil => exact .cons he .nil
  | cons hfirst _ ih => exact .cons hfirst (ih he)

/-- Calls that are accepted are made, and then what comes behind them is. -/
theorem Accepts.run_forM {es : List Event} (h : P.Accepts s es s') (us : List Event) :
    ((es ++ us).forM (Event.tell P)).run.run s = (us.forM (Event.tell P)).run.run s' := by
  induction h with
  | nil => rfl
  | cons hfirst _ ih =>
      rw [List.cons_append, List.forM, ExceptT.run_bind, StateT.run_bind, hfirst]
      exact ih

/-- Nothing behind a call that fails is made. -/
theorem run_forM_of_refused (h : (e.tell P).run.run s = (.error err, s')) (us : List Event) :
    ((e :: us).forM (Event.tell P)).run.run s = (.error err, s') := by
  rw [List.forM, ExceptT.run_bind, StateT.run_bind, h]
  rfl

end Printer

namespace Node

/-- What a printer is told of a node.  The parentheses around a list are told as its start
and its end, and a sequence has none. -/
def events : Node → List Event
  | program p => SExpr.eventsOf p.exprs
  | sexpr x => x.events
  | list opening items closing => (SExpr.list opening items closing).events
  | seq s => SExpr.eventsOf s.items
  | atom t => [.token t]
  | leaf t => [.token t]

theorem print_eq_forM_events {m : Type → Type} [Monad m] [LawfulMonad m] (p : Printer m)
    (n : Node) : Printable.print p n = n.events.forM (Event.tell p) := by
  have htoken (t : Token) : p.token t = [Event.token t].forM (Event.tell p) := by simp [Event.tell]
  cases n with
  | program q => exact SExpr.printAll_eq_forM_eventsOf p q.exprs
  | sexpr x => exact SExpr.print_eq_forM_events p x
  | list o xs c => exact SExpr.print_eq_forM_events p (.list o xs c)
  | seq s => exact SExpr.printAll_eq_forM_eventsOf p s.items
  | atom t => exact htoken t
  | leaf t => exact htoken t

variable {ε σ : Type} {P : Printer (ExceptT ε (StateM σ))} {s s₁ s' : σ} {n : Node}

theorem print_of_accepts (h : P.Accepts s n.events s') :
    (Printable.print P n).run.run s = (.ok (), s') := by
  have hrun := h.run_forM []
  rw [List.append_nil] at hrun
  rw [n.print_eq_forM_events, hrun]
  rfl

theorem print_of_refused {k : Nat} {e : Event} {err : ε} (hk : n.events[k]? = some e)
    (h : P.Accepts s (n.events.take k) s₁) (he : (e.tell P).run.run s₁ = (.error err, s')) :
    (Printable.print P n).run.run s = (.error err, s') := by
  obtain ⟨hlt, rfl⟩ := List.getElem?_eq_some_iff.1 hk
  have hsplit : n.events = n.events.take k ++ n.events[k] :: n.events.drop (k + 1) := by
    rw [← List.drop_eq_getElem_cons hlt, List.take_append_drop]
  rw [n.print_eq_forM_events, hsplit, h.run_forM, Printer.run_forM_of_refused he]

end Node

namespace Event

theorem tell_recorder (limit : Nat) : tell (recorder limit) = record limit := by
  funext e
  cases e <;> rfl

theorem record_of_lt {limit : Nat} {told : Array Event} (h : told.size < limit) (e : Event) :
    (record limit e).run.run told = (.ok (), told.push e) := by
  show (if told.size < limit then modify (·.push e) else throw e :
    ExceptT Event (StateM (Array Event)) Unit).run.run told = _
  rw [if_pos h]
  rfl

theorem record_of_le {limit : Nat} {told : Array Event} (h : limit ≤ told.size) (e : Event) :
    (record limit e).run.run told = (.error e, told) := by
  show (if told.size < limit then modify (·.push e) else throw e :
    ExceptT Event (StateM (Array Event)) Unit).run.run told = _
  rw [if_neg (Nat.not_lt.2 h)]
  rfl

/-- Recording goes on to the limit. -/
theorem recorder_accepts {limit : Nat} (told : Array Event) (es : List Event)
    (h : told.size + es.length ≤ limit) :
    (recorder limit).Accepts told es (told ++ es.toArray) := by
  -- The record grows along the events, so the induction is over every record with room left.
  induction es generalizing told with
  | nil =>
      rw [Array.append_empty]
      exact .nil
  | cons e es ih =>
      rw [List.length_cons] at h
      have hroom : (told.push e).size + es.length ≤ limit := by
        rw [Array.size_push]
        omega
      have hpush : told.push e ++ es.toArray = told ++ (e :: es).toArray := by simp
      have hfirst : (e.tell (recorder limit)).run.run told = (.ok (), told.push e) := by
        rw [tell_recorder]
        exact record_of_lt (by omega) e
      rw [← hpush]
      exact .cons hfirst (ih _ hroom)

end Event

/-- The record of printing a node holds its first events, up to the limit, and the one
after them is refused. -/
theorem Event.trace_node (limit : Nat) (n : Node) :
    Event.trace limit n = ((n.events.take limit).toArray, n.events[limit]?) := by
  have hroom : (#[] : Array Event).size + (n.events.take limit).length ≤ limit := by
    simp only [List.size_toArray, List.length_nil, List.length_take]
    omega
  have haccepts := Event.recorder_accepts #[] (n.events.take limit) hroom
  rw [Array.empty_append] at haccepts
  rw [Event.trace]
  cases hevent : n.events[limit]? with
  | none =>
      have htake := List.take_of_length_le (List.getElem?_eq_none_iff.1 hevent)
      rw [htake] at haccepts ⊢
      rw [Node.print_of_accepts haccepts]
  | some e =>
      have hlt := (List.getElem?_eq_some_iff.1 hevent).1
      have hrefused : (e.tell (Event.recorder limit)).run.run (n.events.take limit).toArray =
          (.error e, (n.events.take limit).toArray) := by
        rw [Event.tell_recorder]
        refine Event.record_of_le ?_ e
        simp only [List.size_toArray, List.length_take]
        omega
      rw [Node.print_of_refused hevent haccepts hrefused]

theorem Event.trace_program (limit : Nat) (p : Program) :
    Event.trace limit p =
      (((SExpr.eventsOf p.exprs).take limit).toArray, (SExpr.eventsOf p.exprs)[limit]?) :=
  Event.trace_node limit (.program p)

end Sexpr
