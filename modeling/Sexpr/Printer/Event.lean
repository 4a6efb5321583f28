import Sexpr.Printer.Basic

namespace Sexpr

inductive Event where
  | token (t : Token)
  | startList
  | endList
deriving DecidableEq

namespace Event

def text : Event → String
  | token t => t.text
  | startList => "("
  | endList => ")"

/-- Records an event, or refuses it when `limit` events are recorded already. -/
def record (limit : Nat) (e : Event) : ExceptT Event (StateM (Array Event)) Unit := do
  if (← get).size < limit then
    modify (·.push e)
  else
    throw e

/-- A printer that records at most `limit` events and fails with the next. -/
def recorder (limit : Nat) : Printer (ExceptT Event (StateM (Array Event))) where
  token t := record limit (token t)
  startList := record limit startList
  endList := record limit endList

/-- The first `limit` events of printing `a`, and the one that was refused. -/
def trace {α : Type} [Printable α] (limit : Nat) (a : α) : Array Event × Option Event :=
  match (Printable.print (recorder limit) a).run.run #[] with
  | (.ok _, events) => (events, none)
  | (.error e, events) => (events, some e)

end Event
end Sexpr
