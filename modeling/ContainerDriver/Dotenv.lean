import ContainerDriver.Table
import ContainerDriver.Text.Blank

/-! Environment files: lines that bind names to values. Values may be quoted, carry comments behind
them and refer to the environment and to earlier lines. A line that is not of the format binds
nothing. -/
namespace ContainerDriver.Dotenv
open Text.Symbol

abbrev Binding := String × Option String

abbrev Reader (α : Type) := List Char → Except (List Char) (α × List Char)

def isGap (c : Char) : Bool := Text.isBlank c && c ≠ '\n'

def skipGap (cs : List Char) : List Char := cs.dropWhile isGap

def restOfLine (cs : List Char) : List Char := cs.dropWhile (· ≠ '\n')

def joinLineEnds : List Char → List Char
  | '\r' :: '\n' :: rest => '\n' :: joinLineEnds rest
  | '\r' :: rest => '\n' :: joinLineEnds rest
  | c :: rest => c :: joinLineEnds rest
  | [] => []

def skipExport (cs : List Char) : List Char :=
  if "export".toList.isPrefixOf cs && (cs.drop 6).head?.any isGap then skipGap (cs.drop 6) else cs

def isNameChar (c : Char) : Bool := !Text.isBlank c && c ≠ '=' && c ≠ '#'

def name : Reader (Option String) := fun cs =>
  match cs with
  | [] => .error cs
  | c :: rest =>
    if c = '#' then .ok (none, cs)
    else if c = apostrophe then
      let body := rest.takeWhile (· ≠ apostrophe)
      match rest.drop body.length with
      | _ :: after => if body.isEmpty then .error cs else .ok (some (String.ofList body), after)
      | [] => .error cs
    else
      let body := cs.takeWhile isNameChar
      if body.isEmpty then .error cs
      else .ok (some (String.ofList body), cs.drop body.length)

/-- The text up to the closing mark. A mark behind a backslash closes only if no later one does. -/
def enclosed (mark : Char) : List Char → Option (List Char × List Char)
  | [] => none
  | [c] => if c = mark then some ([], []) else none
  | c :: d :: rest =>
    if c = mark then some ([], d :: rest)
    else if c = backslash ∧ d = mark then
      match enclosed mark rest with
      | some (body, after) => some (c :: d :: body, after)
      | none => some ([c], rest)
    else (enclosed mark (d :: rest)).map fun (body, after) => (c :: body, after)

def plainEscapes : List (Char × Nat) := [(backslash, 0x5C), (apostrophe, 0x27)]

def escapes : List (Char × Nat) :=
  plainEscapes ++ [(quotationMark, 0x22), ('a', 7), ('b', 8), ('f', 12), ('n', 10), ('r', 13),
    ('t', 9), ('v', 11)]

def unescape (escapes : List (Char × Nat)) : List Char → List Char
  | c :: d :: rest =>
    match if c = backslash then escapes.lookup d else none with
    | some n => Char.ofNat n :: unescape escapes rest
    | none => c :: unescape escapes (d :: rest)
  | cs => cs

def beforeComment : List Char → List Char
  | c :: '#' :: rest => if Text.isBlank c then [] else c :: beforeComment ('#' :: rest)
  | c :: rest => c :: beforeComment rest
  | [] => []

def quotedValue (mark : Char) (escapes : List (Char × Nat)) : Reader String := fun cs =>
  match enclosed mark cs.tail with
  | some (body, after) => .ok (String.ofList (unescape escapes body), after)
  | none => .error cs

def value : Reader String := fun cs =>
  if cs.head? = some apostrophe then quotedValue apostrophe plainEscapes cs
  else if cs.head? = some quotationMark then quotedValue quotationMark escapes cs
  else
    let line := cs.takeWhile (· ≠ '\n')
    .ok (String.ofList (Text.trimRight (beforeComment line)), cs.drop line.length)

def lineEnd : Reader Unit := fun cs =>
  let after := match skipGap cs with
    | '#' :: rest => restOfLine rest
    | rest => rest
  match after with
  | [] => .ok ((), [])
  | '\n' :: rest => .ok ((), rest)
  | rest => .error rest

def binding : Reader (Option Binding) := fun cs => do
  let (name, rest) ← name (skipExport cs)
  let (value, rest) ← match skipGap rest with
    | '=' :: rest => do
      let (v, rest) ← value (skipGap rest)
      pure (some v, rest)
    | rest => pure (none, rest)
  let (_, rest) ← lineEnd rest
  return (name.map fun n => (n, value), rest)

def bindings : (fuel : Nat) → List Char → List Binding
  | 0, _ => []
  | fuel + 1, cs =>
    match cs.dropWhile Text.isBlank with
    | [] => []
    | cs =>
      match binding cs with
      | .ok (b, rest) => b.toList ++ bindings fuel rest
      | .error rest => bindings fuel (restOfLine rest)

def reference? (cs : List Char) : Option (String × String × List Char) :=
  match cs with
  | '$' :: brace :: rest =>
    if brace ≠ openBrace then none
    else
      let name := rest.takeWhile fun c => c ≠ closeBrace && c ≠ ':'
      let (fallback, after) := match rest.drop name.length with
        | ':' :: '-' :: rest =>
          (rest.takeWhile (· ≠ closeBrace), rest.dropWhile (· ≠ closeBrace))
        | rest => ([], rest)
      if after.head? = some closeBrace then
        some (String.ofList name, String.ofList fallback, after.tail)
      else none
  | _ => none

def expand (lookup : String → String → String) : (fuel : Nat) → List Char → List Char
  | 0, cs => cs
  | _, [] => []
  | fuel + 1, c :: cs =>
    match reference? (c :: cs) with
    | some (name, fallback, rest) => (lookup name fallback).toList ++ expand lookup fuel rest
    | none => c :: expand lookup fuel cs

def variableValue (environment : List (String × String)) (earlier : List Binding) (name fallback : String) :
    String :=
  match Table.get? name earlier with
  | some v => v.getD ""
  | none => (Table.get? name environment).getD fallback

def resolve (environment : List (String × String)) (bs : List Binding) : List Binding :=
  bs.foldl (fun earlier b =>
    let text (s : String) : String :=
      String.ofList (expand (variableValue environment earlier) s.length s.toList)
    Table.set b.1 (b.2.map text) earlier) []

def read (environment : List (String × String)) (cs : List Char) : List Binding :=
  let cs := joinLineEnds cs
  resolve environment (bindings (cs.length + 1) cs)

end ContainerDriver.Dotenv
