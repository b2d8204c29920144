import ContainerDriver.Settings.Section
import ContainerDriver.Value

/-! Configuration comes in layers. A higher layer lies on top of a lower one key by key: tables are
overlaid in turn, anything else hides what is below it. -/
namespace ContainerDriver.Settings

abbrev Entries := List (String × Value)

mutual
def overlaid (lower : Option Value) : Value → Value
  | .table upper =>
    match lower with
    | some (.table entries) => .table (overlay entries upper)
    | _ => .table upper
  | v => v

def overlay (lower : Entries) : Entries → Entries
  | [] => lower
  | (k, v) :: rest => overlay (Table.set k (overlaid (Table.get? k lower) v) lower) rest
end

structure Layers where
  given : Entries := []
  environment : Entries := []
  dotenv : Entries := []
  file : Entries := []

/-- What the caller gives lies on top of the environment, that on the environment file, and that on
the configuration file. -/
def Layers.merged (l : Layers) : Entries :=
  overlay l.file (overlay l.dotenv (overlay l.environment l.given))

end ContainerDriver.Settings
