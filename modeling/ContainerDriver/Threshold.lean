import ContainerDriver.Text.Casing

/-! Log levels. A threshold lets through the records of its level and above. -/
namespace ContainerDriver

inductive Level where
  | debug
  | info
  | warning
  | error
  | critical
  deriving DecidableEq, Repr

namespace Level

def number : Level → Nat
  | debug => 10
  | info => 20
  | warning => 30
  | error => 40
  | critical => 50

def name : Level → String
  | debug => "debug"
  | info => "info"
  | warning => "warning"
  | error => "error"
  | critical => "critical"

def all : List Level := [debug, info, warning, error, critical]

end Level

structure Threshold where
  number : Nat
  deriving DecidableEq, Repr

namespace Threshold

def names : List (String × Nat) :=
  [("CRITICAL", 50), ("FATAL", 50), ("ERROR", 40), ("WARNING", 30), ("WARN", 30), ("INFO", 20),
   ("DEBUG", 10), ("NOTSET", 0)]

inductive Flaw where
  | notANumber
  | notALevel
  deriving DecidableEq, Repr

def ofWord (word : String) : Except Flaw Threshold :=
  let w := Text.upper word
  match names.lookup w with
  | some n => .ok ⟨n⟩
  | none =>
    if w = "BASIC_FORMAT" then .error .notANumber
    else if w = "_STYLES" then .error .notALevel
    else .ok ⟨20⟩

def passes (t : Threshold) (l : Level) : Bool := t.number ≤ l.number

def passed (t : Threshold) : List Level := Level.all.filter t.passes

end Threshold
end ContainerDriver
