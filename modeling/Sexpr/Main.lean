/-
The program itself: it reads its arguments, the environment and the input, and
leaves everything else to `CommandLine.execute`.
-/
import Sexpr.CommandLine.Exit

namespace Sexpr
namespace CommandLine

/-- What it means that the operating system refused a file. -/
def ReadError.ofSystem : IO.Error → ReadError
  | .noFileOrDirectory _ _ _ => notFound
  | .inappropriateType _ code _ => if code = 21 then isFolder else notFolder
  | .invalidArgument _ code _ => if code = 22 then nulInName else nameTooLong
  | .permissionDenied _ _ _ => denied
  | e => other e.toString

partial def readAll (stream : IO.FS.Stream) (bytes : ByteArray) : IO ByteArray := do
  let chunk ← stream.read 65536
  if chunk.isEmpty then return bytes
  readAll stream (bytes ++ chunk)

/-- The text of an input, from the real file system. -/
def Input.load : Input → IO (Except ReadError String)
  | text source => return .ok source
  | file path => do
    try
      return decodeText (← IO.FS.readBinFile path)
    catch e =>
      return .error (ReadError.ofSystem e)
  | standardInput => do
    return decodeText (← readAll (← IO.getStdin) ByteArray.empty)

/-- Runs the program in the real world. -/
def start (arguments : List String) : IO UInt32 := do
  let env : Environment :=
    { width := ← IO.getEnv "LISPISH_WIDTH", log := ← IO.getEnv "RUST_LOG" }
  let source ← match Invocation.parse env arguments with
    | .ok i => i.input.load
    | .error _ => pure (.ok "")
  let exit := execute env (fun _ => source) arguments
  (← IO.getStdout).putStr exit.output
  (← IO.getStderr).putStr exit.errors
  return exit.code.toUInt32

end CommandLine
end Sexpr

def main (arguments : List String) : IO UInt32 := Sexpr.CommandLine.start arguments
