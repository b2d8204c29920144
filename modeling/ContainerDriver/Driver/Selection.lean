import ContainerDriver.Driver.Plugin
import ContainerDriver.Text.Casing

/-! Choosing the driver that the settings name. Plugins are registered and asked in turn; the first
factory of a name counts. If no factory has the name asked for, the driver of this library serves. -/
namespace ContainerDriver
namespace Selection

def builtinName : String := "cli-driver"

def builtins (s : Settings) : List Event × Registry :=
  if s.enabled builtinName then
    ([.builtinRegistered builtinName],
      [("builtin-" ++ builtinName, .object .normal (.ok (some (.ofFactory .builtin))))])
  else ([.builtinDisabled builtinName], [])

def discover : List EntryPoint → Registry → Except Trouble Registry
  | [], r => .ok r
  | e :: rest, r =>
    if e.group ≠ "dockins" ∨ e.name ≠ "" ∧ Table.has e.name r then discover rest r
    else match e.plugin with
      | .broken t => .error t
      | p => discover rest (r ++ [(e.registeredName, p)])

/-- Case and surrounding white space do not count in names of drivers. -/
def normalized (name : String) : String := Text.trimmed (Text.lower name)

def sift : List Candidate → List (String × Factory) → List Event × List (String × Factory)
  | [], known => ([], known)
  | c :: rest, known =>
    match c.factory? with
    | none =>
      let (events, known) := sift rest known
      (.factoryIgnored c.type :: events, known)
    | some f =>
      if Table.has (normalized f.name) known then
        let (events, known) := sift rest known
        (.duplicateFactory (normalized f.name) :: events, known)
      else sift rest (known ++ [(normalized f.name, f)])

def wanted (s : Settings) : String := normalized s.driver

def choose (s : Settings) (trampoline : Bytes) (candidates : List Candidate) :
    List Event × Except Trouble Driver :=
  let (events, known) := sift candidates []
  match Table.get? (wanted s) known with
  | none => (events ++ [.unknownDriver (wanted s)], Factory.builtin.make s trampoline)
  | some f =>
    match f.make s trampoline with
    | .ok driver => (events ++ [.driverCreated f.name], .ok driver)
    | .error t => (events, .error t)

end Selection

open Selection in
def createDriver (s : Settings) (trampoline : Bytes) (plugins : List EntryPoint) :
    List Event × Except Trouble Driver :=
  let (before, builtin) := builtins s
  match discover plugins builtin with
  | .error t => (before, .error t)
  | .ok registry =>
    let count := registry.length - builtin.length
    let found := if count = 0 then [] else [.discovered count]
    let before := before ++ found ++ registry.classes.map .classUnregistered
    match registry.answers with
    | .error t => (before, .error t)
    | .ok answers =>
      let (events, driver) := choose s trampoline (answers.filterMap id)
      (before ++ events, driver)

end ContainerDriver
