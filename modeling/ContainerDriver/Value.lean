import ContainerDriver.Decimal
import ContainerDriver.Text.Numeral
import ContainerDriver.Text.Quoted

/-! Dynamic values, as configuration files and callers supply them. Tables keep the order of their
keys. -/
namespace ContainerDriver

inductive Value where
  | null
  | bool (b : Bool)
  | int (n : Int)
  | real (x : Float)
  | text (s : String)
  | mangled (t : Text)
  | moment
  | list (items : List Value)
  | table (entries : List (String × Value))
  deriving Repr, BEq, Inhabited

namespace Value

def ofText (t : Text) : Value := (t.string?.map text).getD (mangled t)

def written? (n : Int) : Option String :=
  if n.natAbs < Nat.pow 10 Text.Numeral.digitLimit then some (toString n) else none

mutual
/-- The value as it is written inside a list or a table. Points in time come from configuration files,
and nothing asks for their text. -/
def literal? : Value → Option String
  | null => some "None"
  | bool b => some (if b then "True" else "False")
  | int n => written? n
  | real x => some (Decimal.plain.ofFloat x)
  | text s => some (Text.quoted s)
  | mangled t => some (Text.quoted t)
  | moment => none
  | list items => (literals? items).map fun s => "[" ++ s ++ "]"
  | table entries => (literalEntries? entries).map fun s => "\x7b" ++ s ++ "\x7d"
def literals? : List Value → Option String
  | [] => some ""
  | [v] => literal? v
  | v :: rest => do return (← literal? v) ++ ", " ++ (← literals? rest)
def literalEntries? : List (String × Value) → Option String
  | [] => some ""
  | [(k, v)] => do return Text.quoted k ++ ": " ++ (← literal? v)
  | (k, v) :: rest => do
    return Text.quoted k ++ ": " ++ (← literal? v) ++ ", " ++ (← literalEntries? rest)
end

def display? : Value → Option Text
  | text s => some s
  | mangled t => some t
  | v => (literal? v).map Text.ofString

def truthy : Value → Bool
  | null => false
  | bool b => b
  | int n => n ≠ 0
  | real x => x != 0.0
  | text s => s ≠ ""
  | mangled _ => true
  | moment => true
  | list items => !items.isEmpty
  | table entries => !entries.isEmpty

end Value

end ContainerDriver
