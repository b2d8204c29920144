import ContainerDriver.Decimal
import ContainerDriver.Toml.Text
import ContainerDriver.Value

/-! Values of TOML documents that hold no others, strings apart: truth values, points in time and
numbers. -/
namespace ContainerDriver.Toml
open Text.Numeral (isDigit digitsOf)

def field? (width low high : Nat) (cs : List Char) : Option (Nat × List Char) :=
  let ds := cs.take width
  if ds.length = width ∧ ds.all isDigit ∧ low ≤ digitsOf ds ∧ digitsOf ds ≤ high then
    some (digitsOf ds, cs.drop width)
  else none

def mark? (c : Char) (cs : List Char) : Option (List Char) :=
  if cs.head? = some c then some cs.tail else none

def isLeap (year : Nat) : Bool := year % 4 = 0 && (year % 100 ≠ 0 || year % 400 = 0)

def daysIn (year month : Nat) : Nat :=
  if month = 2 then if isLeap year then 29 else 28
  else if month ∈ [4, 6, 9, 11] then 30 else 31

def date? (cs : List Char) : Option (List Char) := do
  let (year, cs) ← field? 4 1 9999 cs
  let (month, cs) ← field? 2 1 12 (← mark? '-' cs)
  let (_, cs) ← field? 2 1 (daysIn year month) (← mark? '-' cs)
  return cs

def clock? (cs : List Char) : Option (List Char) := do
  let (_, cs) ← field? 2 0 23 cs
  let (_, cs) ← field? 2 0 59 (← mark? ':' cs)
  let (_, cs) ← field? 2 0 59 (← mark? ':' cs)
  match cs with
  | '.' :: rest => return if rest.head?.any isDigit then rest.dropWhile isDigit else cs
  | _ => return cs

def offset? : List Char → Option (List Char)
  | sign :: rest =>
    if sign = 'Z' ∨ sign = 'z' then some rest
    else if sign = '+' ∨ sign = '-' then do
      let (_, cs) ← field? 2 0 23 rest
      let (_, cs) ← field? 2 0 59 (← mark? ':' cs)
      return cs
    else none
  | [] => none

def dayTime? : List Char → Option (List Char)
  | c :: rest =>
    if c = 'T' ∨ c = 't' ∨ c = ' ' then (clock? rest).map fun cs => (offset? cs).getD cs else none
  | [] => none

def moment? (cs : List Char) : Option (List Char) :=
  match date? cs with
  | some rest => some ((dayTime? rest).getD rest)
  | none => clock? cs

def digitRun (isDigit : Char → Bool) : List Char → List Char × List Char
  | [] => ([], [])
  | '_' :: c :: rest =>
    if isDigit c then ((digitRun isDigit rest).map (c :: ·) id) else ([], '_' :: c :: rest)
  | c :: rest => if isDigit c then ((digitRun isDigit rest).map (c :: ·) id) else ([], c :: rest)

def digits? (isDigit : Char → Bool) (cs : List Char) : Option (List Char × List Char) :=
  if cs.head?.any isDigit then some (digitRun isDigit cs) else none

def bases : List (Char × Nat) := [('x', 16), ('o', 8), ('b', 2)]

def marked? : List Char → Option (Value × List Char)
  | '0' :: mark :: rest => do
    let base ← bases.lookup mark
    let (ds, rest) ← digits? (fun c => (Text.Numeral.hexDigit? c).any (· < base)) rest
    return (.int (Text.Numeral.ofDigits base (ds.filterMap Text.Numeral.hexDigit?)), rest)
  | _ => none

def sign (cs : List Char) : Bool × List Char :=
  match cs with
  | '-' :: rest => (true, rest)
  | '+' :: rest => (false, rest)
  | _ => (false, cs)

def whole? : List Char → Option (List Char × List Char)
  | '0' :: rest => some (['0'], rest)
  | cs => digits? isDigit cs

def fraction? : List Char → Option (List Char × List Char)
  | '.' :: rest => digits? isDigit rest
  | _ => none

def power? : List Char → Option (Int × List Char)
  | e :: rest =>
    if e = 'e' ∨ e = 'E' then do
      let (negative, rest) := sign rest
      let (ds, rest) ← digits? isDigit rest
      let n : Int := digitsOf ds
      return (if negative then -n else n, rest)
    else none
  | [] => none

def decimal : Reader Value := fun cs =>
  let (negative, cs) := sign cs
  match whole? cs with
  | none => .error .malformed
  | some (ds, cs) =>
    let fraction := fraction? cs
    let (point, cs) := fraction.getD ([], cs)
    let power := power? cs
    let (e, rest) := power.getD (0, cs)
    if fraction.isSome || power.isSome then
      .ok (.real (Decimal.nearest negative (digitsOf (ds ++ point)) (e - point.length)), rest)
    else if Text.Numeral.digitLimit < ds.length then .error .longNumeral
    else
      let n : Int := digitsOf ds
      .ok (.int (if negative then -n else n), rest)

def words : List (List Char × Value) :=
  [("true".toList, .bool true), ("false".toList, .bool false), ("inf".toList, .real Decimal.infinity),
   ("+inf".toList, .real Decimal.infinity), ("-inf".toList, .real (-Decimal.infinity)),
   ("nan".toList, .real Decimal.notANumber), ("+nan".toList, .real Decimal.notANumber),
   ("-nan".toList, .real Decimal.notANumber)]

def word? (cs : List Char) : Option (Value × List Char) :=
  words.findSome? fun w => if w.1.isPrefixOf cs then some (w.2, cs.drop w.1.length) else none

def scalar : Reader Value := fun cs =>
  match word? cs with
  | some r => .ok r
  | none =>
    match moment? cs with
    | some rest => .ok (.moment, rest)
    | none =>
      match marked? cs with
      | some r => .ok r
      | none => decimal cs

end ContainerDriver.Toml
