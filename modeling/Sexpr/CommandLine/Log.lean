/-
Log records: what a command has to report besides its output.
-/

namespace Sexpr
namespace CommandLine

/-- Levels from the most to the least urgent. -/
inductive Level where
  | error
  | warn
  | info
  | debug
  | trace
deriving DecidableEq

namespace Level

def rank : Level → Nat
  | error => 1
  | warn => 2
  | info => 3
  | debug => 4
  | trace => 5

def name : Level → String
  | error => "ERROR"
  | warn => "WARN"
  | info => "INFO"
  | debug => "DEBUG"
  | trace => "TRACE"

end Level

/-- Something a command has to report.  The target names the part it comes from,
and the one field carries a value. -/
structure Record where
  level : Level
  target : String
  event : String
  field : String
  value : String
deriving DecidableEq

namespace Record

def text (r : Record) : String :=
  s!"{r.level.name} {r.target}: {r.event} {r.field}={r.value}"

end Record

end CommandLine
end Sexpr
