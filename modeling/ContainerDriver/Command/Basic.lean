import ContainerDriver.Command.Argument
import ContainerDriver.Table

/-! Command lines. A command is built from an endpoint, a binary and arguments: the binary comes
first, then the address of the engine if there is one. -/
namespace ContainerDriver

abbrev Environment := List (Text × Text)

def Environment.ofStrings (e : List (String × String)) : Environment :=
  e.map fun kv => (Text.ofString kv.1, Text.ofString kv.2)

theorem Environment.getOfStrings (k : String) (e : List (String × String)) :
    Table.get? (k : Text) (ofStrings e) = (Table.get? k e).map Text.ofString := by
  induction e with
  | nil => rfl
  | cons kv rest ih =>
    rw [ofStrings, List.map_cons, Table.get?, Table.get?]
    by_cases here : kv.1 = k
    · rw [if_pos (congrArg Text.ofString here), if_pos here]
      rfl
    · rw [if_neg (mt Text.ofStringInj.mp here), if_neg here]
      exact ih

structure Endpoint where
  uri : Option Text := none
  env : Environment := []
  deriving DecidableEq, Repr

def Endpoint.host (e : Endpoint) : Option Text := e.uri.filter (· ≠ "")

structure Command where
  arguments : List Argument
  env : Environment
  deriving DecidableEq, Repr

namespace Command

def argv (c : Command) : List Text := c.arguments.map (·.value)

def masks (c : Command) : List Bool := c.arguments.map (·.secret)

def render (c : Command) : Text := List.intercalate " " (c.arguments.map Argument.shown)

def quoted (c : Command) : String := "CommandSpec(" ++ Text.quoted c.render ++ ")"

def binary (c : Command) : Text := c.argv.headD ""

def lead (endpoint : Endpoint) (binary : Text) : List Argument :=
  ⟨binary, false⟩ :: match endpoint.host with
    | some uri => [⟨"-H", false⟩, ⟨uri, false⟩]
    | none => []

def build (endpoint : Endpoint) (binary : Text) (arguments : List Argument) : Command :=
  ⟨lead endpoint binary ++ arguments, endpoint.env⟩

def operation (c : Command) : List Text :=
  match c.argv.tail with
  | flag :: uri :: rest => if flag = "-H" then rest else flag :: uri :: rest
  | rest => rest

end Command
end ContainerDriver
