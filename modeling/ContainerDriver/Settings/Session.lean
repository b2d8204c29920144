import ContainerDriver.Command.Session
import ContainerDriver.Settings.Load

/-! Sessions of settings: what surrounds the program changes, settings are loaded for themselves, and
those that are kept are asked for and dropped, in any order. -/
namespace ContainerDriver.Settings

inductive Change where
  | environment (bindings : List (String × String))
  | file (content : Option Bytes)
  | dotenv (content : Option Bytes)

def Change.apply : Change → Surroundings → Surroundings
  | environment bindings, around => { around with environment := bindings }
  | file content, around => { around with file := content }
  | dotenv content, around => { around with dotenv := content }

inductive Step where
  | change (c : Change)
  | load (given : Entries)
  | get
  | reset

namespace Store

def step (s : Store) : Step → Option (Except LoadError Settings) × Store
  | .change c => (none, { s with around := c.apply s.around })
  | .load given => (some (load given s.around), s)
  | .get => (some s.get.1, s.get.2)
  | .reset => (none, s.reset)

def session (steps : List Step) (s : Store) : List (Option (Except LoadError Settings)) × Store :=
  Session.run step s steps

end Store
end ContainerDriver.Settings
