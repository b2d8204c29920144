import ContainerDriver.Json
import ContainerDriver.Settings.Layers
import ContainerDriver.Text.Casing

/-! Sections written as variables. A variable names a section, or a path into it with two underscores
before each further name; case does not count. -/
namespace ContainerDriver.Settings

abbrev Variables := List (String × Option String)

def Variables.ofBindings (bs : List (String × Option String)) : Variables :=
  Table.ofEntries (bs.map fun b => (Text.lower b.1, b.2))

def Variables.ofEnvironment (e : List (String × String)) : Variables :=
  .ofBindings (e.map fun b => (b.1, some b.2))

inductive Decoding where
  | plain
  | lenient
  | strict
  deriving DecidableEq, Repr

def variablePrefix : String := "dockins_"

def splitPath : List Char → List (List Char)
  | '_' :: '_' :: rest => [] :: splitPath rest
  | c :: rest =>
    match splitPath rest with
    | [] => [[c]]
    | part :: parts => (c :: part) :: parts
  | [] => [[]]

def after? (start : String) (s : String) : Option (List Char) :=
  if start.toList.isPrefixOf s.toList then some (s.toList.drop start.length) else none

/-- Puts a value at the end of a path and makes the tables that are missing on the way. A value on the
way that is no table stays, and the new one is dropped. -/
def place (v : Value) : List String → Entries → Entries
  | [], t => t
  | [k], t => Table.set k v t
  | k :: path, t =>
    match Table.get? k t with
    | none => Table.set k (.table (place v path [])) t
    | some (.table inner) => Table.set k (.table (place v path inner)) t
    | some _ => t

inductive VariableFlaw where
  | malformed
  deriving DecidableEq, Repr

def json (text : String) : Except VariableFlaw Value :=
  match Json.read? text with
  | some v => .ok v
  | none => .error .malformed

def Decoding.read (d : Decoding) : Option String → Except VariableFlaw Value
  | none => .ok .null
  | some text =>
    if text = "" then .ok (.text "")
    else match d with
      | .plain => .ok (.text text)
      | .lenient => .ok ((Json.read? text).getD (.text text))
      | .strict => json text

namespace Section

def variableName (s : Section) : String := variablePrefix ++ s.name

def leaf? (s : Section) (part : String) : Option Leaf :=
  (s.keys.find? fun k => k.1 = part || variablePrefix ++ k.1 = part).map (·.2)

/-- How the value at a path is read. In a section of fixed keys only a table of texts is JSON. Plugins
are JSON wherever the path does not end in a key of a plugin; their names are free, but a plugin that
is called like a key counts as that key. -/
def decoding (s : Section) (path : List String) : Decoding :=
  match s, path with
  | .plugins, [part] => if (s.leaf? part).isSome then .plain else .lenient
  | .plugins, [plugin, part] =>
    if (s.leaf? plugin).isNone && (s.leaf? part).isSome then .plain else .lenient
  | .plugins, _ => .lenient
  | _, [part] => if s.leaf? part = some .texts then .strict else .plain
  | _, _ => .plain

def nested (s : Section) (vars : Variables) : Except VariableFlaw Entries :=
  vars.foldlM (fun t (name, text) =>
    match after? (s.variableName ++ "__") name with
    | none => .ok t
    | some rest => do
      let path := (splitPath rest).map String.ofList
      return place (← (s.decoding path).read text) path t) []

def canonical (s : Section) (key : String) : String :=
  ((s.keys.find? fun k => k.1 = Text.lower key).map (·.1)).getD key

def canonicalEntries (s : Section) (t : Entries) : Entries :=
  match s with
  | .plugins => t
  | _ => Table.ofEntries (t.map fun e => (s.canonical e.1, e.2))

/-- What variables say of the section. A variable for the whole section holds JSON; if that is a table,
the variables for paths inside lie on top of it. -/
def ofVariables (s : Section) (vars : Variables) : Except VariableFlaw (Option Value) := do
  match Table.get? s.variableName vars with
  | some (some text) =>
    match ← json text with
    | .null => return none
    | .table t => return some (.table (s.canonicalEntries (overlay t (← s.nested vars))))
    | v => return some v
  | _ =>
    let t ← s.nested vars
    return if t.isEmpty then none else some (.table (s.canonicalEntries t))

end Section

def Variables.layer (vars : Variables) : Except VariableFlaw Entries := do
  let found ← Section.all.mapM fun s => return (← s.ofVariables vars).map fun v => (s.name, v)
  return found.filterMap id

end ContainerDriver.Settings
