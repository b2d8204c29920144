import ContainerDriver.Table
import ContainerDriver.Toml.Scalar

/-! TOML documents. Statements fill a draft one after another; the draft keeps what has been said so
far and which tables a later statement may no longer touch. -/
namespace ContainerDriver.Toml
open Text.Symbol

abbrev Entries := List (String × Value)

def modifyAt (change : Entries → Option Entries) : Key → Entries → Option Entries
  | [], t => change t
  | k :: path, t =>
    match Table.get? k t with
    | none => (modifyAt change path []).map fun inner => Table.set k (.table inner) t
    | some (.table inner) =>
      (modifyAt change path inner).map fun inner => Table.set k (.table inner) t
    | some (.list items) =>
      match items.getLast? with
      | some (.table inner) => (modifyAt change path inner).map fun inner =>
          Table.set k (.list (items.dropLast ++ [.table inner])) t
      | _ => none
    | some _ => none

def addEntry (name : String) (v : Value) (t : Entries) : Option Entries :=
  if Table.has name t then none else some (Table.set name v t)

def addItem (name : String) (t : Entries) : Option Entries :=
  match Table.get? name t with
  | none => some (Table.set name (.list [.table []]) t)
  | some (.list items) => some (Table.set name (.list (items ++ [.table []])) t)
  | some _ => none

def insertAt (path : Key) (v : Value) (t : Entries) : Option Entries :=
  modifyAt (addEntry (path.getLastD "") v) path.dropLast t

def isComplete : Value → Bool
  | .list _ | .table _ => true
  | _ => false

def within (paths : List Key) (path : Key) : Bool := paths.any (·.isPrefixOf path)

def orMalformed {α : Type} : Option α → Except Flaw α
  | some a => .ok a
  | none => .error .malformed

mutual
def value : (fuel : Nat) → Reader Value
  | 0, _ => .error .malformed
  | _, [] => .error .malformed
  | fuel + 1, c :: rest =>
    if c = quotationMark ∨ c = apostrophe then do
      let (cs, rest) ←
        if rest.take 2 = [c, c] then blockString c (rest.drop 2) else lineString c rest
      return (.text (String.ofList cs), rest)
    else if c = '[' then do
      let (items, rest) ← items fuel rest
      return (.list items, rest)
    else if c = openBrace then do
      let rest := skipBlank rest
      if rest.head? = some closeBrace then return (.table [], rest.tail)
      let (entries, rest) ← entries fuel [] [] rest
      return (.table entries, rest)
    else scalar (c :: rest)

def items : (fuel : Nat) → Reader (List Value)
  | 0, _ => .error .malformed
  | fuel + 1, cs => do
    let cs ← skipPadding (cs.length + 1) cs
    if cs.head? = some ']' then return ([], cs.tail)
    let (v, rest) ← value fuel cs
    match ← skipPadding (rest.length + 1) rest with
    | ',' :: rest =>
      let (vs, rest) ← items fuel rest
      return (v :: vs, rest)
    | ']' :: rest => return ([v], rest)
    | _ => .error .malformed

def entries : (fuel : Nat) → (complete : List Key) → (before : Entries) → Reader Entries
  | 0, _, _, _ => .error .malformed
  | fuel + 1, complete, before, cs => do
    let (path, rest) ← key (cs.length + 1) cs
    match rest with
    | '=' :: rest =>
      let (v, rest) ← value fuel (skipBlank rest)
      if within complete path then .error .malformed
      let after ← orMalformed (insertAt path v before)
      match skipBlank rest with
      | ',' :: rest =>
        entries fuel (if isComplete v then path :: complete else complete) after (skipBlank rest)
      | c :: rest => if c = closeBrace then return (after, rest) else .error .malformed
      | [] => .error .malformed
    | _ => .error .malformed
end

structure Draft where
  tables : Entries := []
  header : Key := []
  complete : List Key := []
  closed : List Key := []
  /-- Tables that dotted keys have opened under the present header; the next one closes them. -/
  opened : List Key := []

namespace Draft

def openTable (path : Key) (d : Draft) : Option Draft := do
  let closed := d.opened ++ d.closed
  if within d.complete path || closed.contains path then none
  let tables ← modifyAt some path d.tables
  return { d with tables, header := path, closed := path :: closed, opened := [] }

/-- Opens a new item of a list of tables. What was closed inside the item before is free again. -/
def openItem (path : Key) (d : Draft) : Option Draft := do
  if within d.complete path then none
  let tables ← modifyAt (addItem (path.getLastD "")) path.dropLast d.tables
  let outside (p : Key) : Bool := !path.isPrefixOf p
  return { tables, header := path, complete := d.complete.filter outside,
           closed := path :: (d.opened ++ d.closed).filter outside }

def add (path : Key) (v : Value) (d : Draft) : Option Draft := do
  let parents := (List.range' 1 (path.length - 1)).map fun n => d.header ++ path.take n
  let full := d.header ++ path
  if parents.any d.closed.contains || within d.complete full.dropLast then none
  let tables ← insertAt full v d.tables
  return { d with tables, opened := parents ++ d.opened,
                  complete := if isComplete v then full :: d.complete else d.complete }

def statement (d : Draft) : List Char → Except Flaw (Draft × List Char)
  | '[' :: '[' :: rest => do
    let (path, rest) ← key (rest.length + 1) (skipBlank rest)
    match rest with
    | ']' :: ']' :: rest => return (← orMalformed (d.openItem path), rest)
    | _ => .error .malformed
  | '[' :: rest => do
    let (path, rest) ← key (rest.length + 1) (skipBlank rest)
    match rest with
    | ']' :: rest => return (← orMalformed (d.openTable path), rest)
    | _ => .error .malformed
  | '#' :: rest => .ok (d, '#' :: rest)
  | cs => do
    let (path, rest) ← key (cs.length + 1) cs
    match rest with
    | '=' :: rest =>
      let (v, rest) ← value (rest.length + 1) (skipBlank rest)
      return (← orMalformed (d.add path v), rest)
    | _ => .error .malformed

def statements : (fuel : Nat) → Draft → List Char → Except Flaw Draft
  | 0, _, _ => .error .malformed
  | fuel + 1, d, cs =>
    match skipBlank cs with
    | [] => .ok d
    | '\n' :: rest => statements fuel d rest
    | cs => do
      let (d, rest) ← d.statement cs
      match ← skipComment (skipBlank rest) with
      | [] => return d
      | '\n' :: rest => statements fuel d rest
      | _ => .error .malformed

end Draft

def joinLineEnds : List Char → List Char
  | '\r' :: '\n' :: rest => '\n' :: joinLineEnds rest
  | c :: rest => c :: joinLineEnds rest
  | [] => []

def read (cs : List Char) : Except Flaw Entries := do
  let cs := joinLineEnds cs
  return (← Draft.statements (cs.length + 1) {} cs).tables

end ContainerDriver.Toml
