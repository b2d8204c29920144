import ContainerDriver.Settings.Layers
import ContainerDriver.Text.Blank
import ContainerDriver.Text.Casing

/-! From merged layers to settings. Everything that is wrong is reported, each issue at its place. -/
namespace ContainerDriver.Settings

inductive Issue where
  | undeclared
  | notText
  | brokenText
  | notFlag
  | unknownFlag
  | notTable
  | notSection
  | blankBinary
  deriving DecidableEq, Repr

inductive Checked (α : Type) where
  | ok (a : α)
  | issues (found : List (List String × Issue))
  deriving Repr

namespace Checked

variable {α β : Type}

def one (place : List String) (i : Issue) : Checked α := .issues [(place, i)]

def map (f : α → β) : Checked α → Checked β
  | .ok a => .ok (f a)
  | .issues is => .issues is

def and : Checked α → Checked β → Checked (α × β)
  | .ok a, .ok b => .ok (a, b)
  | .ok _, .issues js => .issues js
  | .issues is, .ok _ => .issues is
  | .issues is, .issues js => .issues (is ++ js)

def andThen (c : Checked α) (f : α → Checked β) : Checked β :=
  match c with
  | .ok a => f a
  | .issues is => .issues is

def all : List (Checked α) → Checked (List α)
  | [] => .ok []
  | c :: rest => (c.and (all rest)).map fun p => p.1 :: p.2

end Checked

def text (place : List String) : Value → Checked String
  | .text s => .ok s
  | .mangled _ => .one place .brokenText
  | _ => .one place .notText

def optionalText (place : List String) : Value → Checked (Option String)
  | .null => .ok none
  | v => (text place v).map some

def yesWords : List String := ["1", "t", "y", "yes", "on", "true"]
def noWords : List String := ["0", "f", "n", "no", "off", "false"]

def flagWord? (s : String) : Option Bool :=
  let w := String.ofList (s.toList.map Char.toLower)
  if w ∈ yesWords then some true else if w ∈ noWords then some false else none

def flagOfInt (place : List String) (n : Int) : Checked Bool :=
  if n = 1 then .ok true
  else if n = 0 then .ok false
  else if -(Nat.pow 2 63 : Int) ≤ n ∧ n < Nat.pow 2 63 then .one place .unknownFlag
  else .one place .notFlag

def flag (place : List String) : Value → Checked Bool
  | .bool b => .ok b
  | .int n => flagOfInt place n
  | .real x => if x.isFinite && x.floor == x then flagOfInt place (Decimal.truncate x)
      else .one place .notFlag
  | .text s => match flagWord? s with
      | some b => .ok b
      | none => .one place .unknownFlag
  | .mangled _ => .one place .brokenText
  | _ => .one place .notFlag

def texts (place : List String) : Value → Checked (List (String × String))
  | .table t => .all (t.map fun e => (text (place ++ [e.1]) e.2).map fun s => (e.1, s))
  | _ => .one place .notTable

def strict (s : Section) (place : List String) (t : Entries) : Checked Unit :=
  (Checked.all ((t.filter fun e => !s.declares e.1).map fun e =>
    (.one (place ++ [e.1]) .undeclared : Checked Unit))).map fun _ => ()

def entry {α : Type} (place : List String) (t : Entries) (key : String) (default : α)
    (check : List String → Value → Checked α) : Checked α :=
  match Table.get? key t with
  | some v => check (place ++ [key]) v
  | none => .ok default

def uri (place : List String) (v : Value) : Checked (Option Text) :=
  (optionalText place v).map fun u => (u.map Text.ofString).filter fun t => !Text.blank t

def binary (place : List String) (v : Value) : Checked String :=
  (text place v).andThen fun s =>
    if Text.trimmed s = "" then .one place .blankBinary else .ok (Text.trimmed s)

def engineOf (place : List String) (t : Entries) : Checked EngineSettings :=
  ((strict .engine place t).and
    ((entry place t "uri" none uri).and
    ((entry place t "env" [] texts).and
    ((entry place t "binary" "docker" binary).and
    ((entry place t "verbose" false flag).and
    ((entry place t "tls_verify" false flag).and
      (entry place t "cert_path" none optionalText))))))).map
    fun (_, uri, env, binary, verbose, tlsVerify, certPath) =>
      { uri, env, binary, verbose, tlsVerify, certPath }

def driverOf (place : List String) (t : Entries) : Checked String :=
  ((strict .driver place t).and (entry place t "name" "cli" text)).map (·.2)

def logLevelOf (place : List String) (t : Entries) : Checked String :=
  ((strict .logging place t).and
    (entry place t "level" "INFO" fun place v => (text place v).map Text.upper)).map (·.2)

def pluginOf (place : List String) (t : Entries) : Checked Bool :=
  ((strict .plugins place t).and (entry place t "enabled" true flag)).map (·.2)

def tableOf {α : Type} (check : List String → Entries → Checked α) (place : List String) :
    Value → Checked α
  | .table t => check place t
  | _ => .one place .notSection

def pluginsOf (place : List String) : Value → Checked (List (String × Bool))
  | .table t => .all (t.map fun e =>
      (tableOf pluginOf (place ++ [e.1]) e.2).map fun enabled => (e.1, enabled))
  | _ => .one place .notTable

def ofMerged (t : Entries) : Checked Settings :=
  ((entry [] t "engine" {} (tableOf engineOf)).and
    ((entry [] t "driver" "cli" (tableOf driverOf)).and
    ((entry [] t "logging" "INFO" (tableOf logLevelOf)).and
      (entry [] t "plugins" [] pluginsOf)))).map
    fun (engine, driver, logLevel, plugins) => { engine, driver, logLevel, plugins }

end ContainerDriver.Settings
