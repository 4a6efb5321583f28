/-
Where a command gets its source text.

The text comes from the command line itself, from a file, or from standard
input.  Files are looked up in a `Folder`, a picture of the working directory;
nothing outside it is known, so every path that leaves it leads into an empty
folder.
-/

namespace Sexpr
namespace CommandLine

inductive Input where
  | text (source : String)
  | file (path : String)
  | standardInput
deriving DecidableEq

inductive ReadError where
  | notFound
  | notFolder
  | isFolder
  | nameTooLong
  | nulInName
  | denied
  | notText
  | other (text : String)
deriving DecidableEq

namespace ReadError

def message : ReadError → String
  | notFound => "No such file or directory (os error 2)"
  | notFolder => "Not a directory (os error 20)"
  | isFolder => "Is a directory (os error 21)"
  | nameTooLong => "File name too long (os error 36)"
  | nulInName => "file name contained an unexpected NUL byte"
  | denied => "Permission denied (os error 13)"
  | notText => "stream did not contain valid UTF-8"
  | other text => text

end ReadError

/-- Source text is UTF-8. -/
def decodeText (bytes : ByteArray) : Except ReadError String :=
  match String.fromUTF8? bytes with
  | some s => .ok s
  | none => .error .notText

inductive Entry where
  | file (content : ByteArray)
  | folder (entries : List (String × Entry))

namespace Entry

def lookup? (name : String) : Entry → Option Entry
  | file _ => none
  | folder entries => (entries.find? (·.1 == name)).map (·.2)

/-- Puts a file at a path, with the folders on the way to it. -/
def insert (content : ByteArray) : List String → Entry → Entry
  | [], _ => file content
  | name :: path, e =>
    let others := match e with
      | file _ => []
      | folder entries => entries.filter (·.1 != name)
    folder ((name, insert content path ((e.lookup? name).getD (folder []))) :: others)

/-- Follows the parts of a path from the innermost of a row of open folders.  An
empty part or a single dot stays where it is, but only in a folder; two dots
lead to the folder around. -/
def follow (around : List Entry) (e : Entry) : List String → Except ReadError Entry
  | [] => .ok e
  | part :: path =>
    match e with
    | file _ => .error .notFolder
    | folder _ =>
      if part = "" ∨ part = "." then follow around e path
      else if part = ".." then follow around.tail (around.head?.getD (folder [])) path
      else if 255 < part.utf8ByteSize then .error .nameTooLong
      else
        match e.lookup? part with
        | none => .error .notFound
        | some f => follow (e :: around) f path

def read (working : Entry) (path : String) : Except ReadError ByteArray :=
  if path.contains '\x00' then .error .nulInName
  else if 4096 ≤ path.utf8ByteSize then .error .nameTooLong
  else
    let start := if path.toList.head? = some '/' then folder [] else working
    match follow [] start ((path.splitOn "/")) with
    | .error e => .error e
    | .ok (folder _) => .error .isFolder
    | .ok (file content) => .ok content

end Entry

/-- The source text of an input, given the working directory and what stands on
standard input. -/
def Input.read (working : Entry) (standardInput : ByteArray) : Input → Except ReadError String
  | text source => .ok source
  | file path => (working.read path).bind decodeText
  | .standardInput => decodeText standardInput

end CommandLine
end Sexpr
