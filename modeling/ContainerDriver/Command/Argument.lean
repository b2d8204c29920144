import ContainerDriver.Value

/-! Arguments of a command line. A secret argument runs as it is and is shown masked. -/
namespace ContainerDriver

def mask : String := "******"

structure Argument where
  value : Text
  secret : Bool := false
  deriving DecidableEq, Repr

def Argument.shown (a : Argument) : Text := if a.secret then mask else a.value

/-- What callers may put on a command line: an argument, a list of a value and its secrecy, or any
value, which is taken as its text. -/
inductive Item where
  | argument (a : Argument)
  | pair (parts : List Value)
  | value (v : Value)
  deriving Repr

/-- A list that should be a value and its secrecy has another length, or the value has no text. -/
def Item.argument? : Item → Option Argument
  | argument a => some a
  | pair [v, secret] => v.display?.map (⟨·, secret.truthy⟩)
  | pair _ => none
  | value v => v.display?.map (⟨·, false⟩)

def assignment? (entry : Text × Value) : Option Argument :=
  entry.2.display?.map fun value => ⟨entry.1 ++ "=" ++ value, false⟩

def readUntil {α β : Type} (read? : α → Option β) : List α → List β × Bool
  | [] => ([], false)
  | a :: rest =>
    match read? a with
    | none => ([], true)
    | some b => (b :: (readUntil read? rest).1, (readUntil read? rest).2)

end ContainerDriver
