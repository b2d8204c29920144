import ContainerDriver.Bytes
import ContainerDriver.Text.Utf8

/-! A scripted engine. Rules are tried in order against the arguments of a launch; a rule may be
good for a number of launches only, so the same command can be answered differently later. -/
namespace ContainerDriver

inductive Chunk where
  | out (data : Bytes)
  | err (data : Bytes)
  deriving DecidableEq, Repr

namespace Chunk

def stdoutOf (cs : List Chunk) : Bytes := cs.flatMap fun | .out data => data | .err _ => []

def stderrOf (cs : List Chunk) : Bytes := cs.flatMap fun | .err data => data | .out _ => []

end Chunk

inductive SystemError where
  | numbered (number : Int) (text : Text)
  | plain (text : Text)
  | bare
  deriving DecidableEq, Repr

/-- The text of the number, or what the error says of itself. -/
def SystemError.reason : SystemError → Text
  | numbered number text => if text = "" then "[Errno " ++ toString number ++ "] " else text
  | plain text => text
  | bare => ""

inductive Refusal where
  | unencodable (e : Text.Unencodable)
  | zeroByte
  | illegalVariable
  | noDescriptor
  | other (text : Text)
  deriving DecidableEq, Repr

inductive Answer where
  | exits (code : Int) (chunks : List Chunk)
  | fails (e : SystemError)
  | refuses (r : Refusal)
  deriving DecidableEq, Repr

structure Rule where
  pattern : List Text
  answer : Answer
  uses : Option Nat := none
  deriving DecidableEq, Repr

abbrev Script := List Rule

namespace Rule

def applies (r : Rule) (args : List Text) : Bool := r.pattern.isPrefixOf args && r.uses ≠ some 0

def used (r : Rule) : Rule := { r with uses := r.uses.map (· - 1) }

end Rule

/-- Without a rule a command exits with zero and writes nothing. -/
def Script.answer : Script → List Text → Answer × Script
  | [], _ => (.exits 0 [], [])
  | r :: rest, args =>
    if r.applies args then (r.answer, r.used :: rest)
    else ((Script.answer rest args).1, r :: (Script.answer rest args).2)

end ContainerDriver
