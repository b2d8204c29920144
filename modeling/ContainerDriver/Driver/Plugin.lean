import ContainerDriver.Engine.Client
import ContainerDriver.Settings.Basic

/-! Drivers, the factories that make them, and the plugins that offer factories. -/
namespace ContainerDriver

inductive Driver where
  | cli (client : Client)
  | foreign (plugin : String) (endpoint : Endpoint) (trampoline : Bytes)
  deriving DecidableEq, Repr

inductive Trouble where
  | typed (e : Error)
  | untyped (kind : String)
  deriving DecidableEq, Repr

inductive Maker where
  | builtin
  | plugin (name : String) (failure : Option Trouble)
  deriving DecidableEq, Repr

structure Factory where
  name : String
  maker : Maker
  deriving DecidableEq, Repr

namespace Factory

def builtin : Factory := ⟨"cli", .builtin⟩

def make (f : Factory) (s : Settings) (trampoline : Bytes) : Except Trouble Driver :=
  match f.maker with
  | .builtin => .ok (.cli ⟨s.endpoint, s.engine.binary, s.engine.verbose, trampoline⟩)
  | .plugin _ (some t) => .error t
  | .plugin name none => .ok (.foreign name s.endpoint trampoline)

end Factory

/-- What a plugin gives when it is asked for a driver: a value of some type, with its name if it has
one that is text, and with what makes the driver if it has something that can be called. -/
structure Candidate where
  type : String
  name : Option String := none
  create : Option Maker := none
  deriving DecidableEq, Repr

namespace Candidate

def ofFactory (f : Factory) : Candidate := ⟨"DriverFactory", some f.name, some f.maker⟩

def factory? (c : Candidate) : Option Factory := do return ⟨← c.name, ← c.create⟩

end Candidate

inductive Turn where
  | first
  | normal
  | last
  deriving DecidableEq, Repr

inductive Plugin where
  | object (turn : Turn) (answer : Except Trouble (Option Candidate))
  | bystander
  | classObject (name : String)
  | broken (t : Trouble)

structure EntryPoint where
  name : String
  group : String := "dockins"
  plugin : Plugin

def EntryPoint.registeredName (e : EntryPoint) : String :=
  match e.plugin with
  | .classObject name => if e.name = "" then name else e.name
  | _ => e.name

abbrev Registry := List (String × Plugin)

namespace Registry

def inTurn (turn : Turn) (r : Registry) : Registry :=
  r.filter fun
    | (_, .object t _) => t = turn
    | _ => false

/-- Those that can be asked. The last registered comes first, except among those that want to be
last. -/
def callOrder (r : Registry) : Registry :=
  (r.inTurn .first).reverse ++ (r.inTurn .normal).reverse ++ r.inTurn .last

def answers (r : Registry) : Except Trouble (List (Option Candidate)) :=
  r.callOrder.mapM fun
    | (_, .object _ answer) => answer
    | _ => .ok none

def classes (r : Registry) : List String := r.filterMap fun
  | (name, .classObject _) => some name
  | _ => none

end Registry
end ContainerDriver
