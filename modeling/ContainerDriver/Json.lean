import ContainerDriver.Decimal
import ContainerDriver.Table
import ContainerDriver.Text.Numeral
import ContainerDriver.Value

/-! Reading JSON values. Beyond the standard, the words for infinities and for no number are
accepted; a key that comes twice keeps its first position and its last value. -/
namespace ContainerDriver.Json
open Text.Symbol
open Text.Numeral (isDigit digitsOf)

def isSpace (c : Char) : Bool := c = ' ' || c = '\t' || c = '\n' || c = '\r'

def skipSpace (cs : List Char) : List Char := cs.dropWhile isSpace

def codeUnit? : List Char → Option (Nat × List Char)
  | a :: b :: c :: d :: rest => (Text.Numeral.hexDigits? [a, b, c, d]).map fun n => (n, rest)
  | _ => none

def simpleEscape? (c : Char) : Option Char :=
  if c = quotationMark ∨ c = backslash ∨ c = '/' then some c
  else if c = 'b' then some (Char.ofNat 8)
  else if c = 'f' then some (Char.ofNat 12)
  else if c = 'n' then some '\n'
  else if c = 'r' then some '\r'
  else if c = 't' then some '\t'
  else none

def isHigh (n : Nat) : Bool := 0xD800 ≤ n && n < 0xDC00
def isLow (n : Nat) : Bool := 0xDC00 ≤ n && n < 0xE000

def lowHalf? : List Char → Option (Nat × List Char)
  | a :: 'u' :: rest =>
    if a = backslash then (codeUnit? rest).filter fun p => isLow p.1 else none
  | _ => none

def string? : (fuel : Nat) → List Char → Option (Text × List Char)
  | 0, _ => none
  | _, [] => none
  | fuel + 1, c :: rest =>
    if c = quotationMark then some ([], rest)
    else if c.toNat < 0x20 then none
    else if c ≠ backslash then do
      let (cs, rest) ← string? fuel rest
      return (.char c :: cs, rest)
    else match rest with
      | 'u' :: rest => do
        let (n, rest) ← codeUnit? rest
        match if isHigh n then lowHalf? rest else none with
        | some (low, rest) =>
          let (cs, rest) ← string? fuel rest
          return (.char (Char.ofNat (0x10000 + (n - 0xD800) * 0x400 + (low - 0xDC00))) :: cs, rest)
        | none =>
          let (cs, rest) ← string? fuel rest
          return (.ofCode n :: cs, rest)
      | e :: rest => do
        let c ← simpleEscape? e
        let (cs, rest) ← string? fuel rest
        return (.char c :: cs, rest)
      | [] => none

def keyOf (t : Text) : String :=
  String.ofList (t.map fun l => l.char?.getD (Char.ofNat 0xFFFD))

def fraction (cs : List Char) : List Char × List Char :=
  match cs with
  | '.' :: rest =>
    let ds := rest.takeWhile isDigit
    if ds.isEmpty then ([], cs) else (ds, rest.drop ds.length)
  | _ => ([], cs)

def exponent? (cs : List Char) : Option (Int × List Char) :=
  match cs with
  | e :: rest =>
    if e = 'e' ∨ e = 'E' then
      let (negative, rest) := match rest with
        | '-' :: rest => (true, rest)
        | '+' :: rest => (false, rest)
        | rest => (false, rest)
      let ds := rest.takeWhile isDigit
      if ds.isEmpty then none
      else
        let n : Int := digitsOf ds
        some (if negative then -n else n, rest.drop ds.length)
    else none
  | [] => none

def number? (cs : List Char) : Option (Value × List Char) := do
  let negative := cs.head? = some '-'
  let body := if negative then cs.tail else cs
  let whole := if body.head? = some '0' then ['0'] else body.takeWhile isDigit
  if whole.isEmpty then none
  let rest := body.drop whole.length
  let (point, rest) := fraction rest
  let power := exponent? rest
  if point.isEmpty && power.isNone then
    if Text.Numeral.digitLimit < whole.length then none
    let n : Int := digitsOf whole
    return (.int (if negative then -n else n), rest)
  let (e, rest) := power.getD (0, rest)
  return (.real (Decimal.nearest negative (digitsOf (whole ++ point)) (e - point.length)), rest)

def words : List (List Char × Value) :=
  [("null".toList, .null), ("true".toList, .bool true), ("false".toList, .bool false),
   ("NaN".toList, .real Decimal.notANumber), ("Infinity".toList, .real Decimal.infinity),
   ("-Infinity".toList, .real (-Decimal.infinity))]

def word? (cs : List Char) : Option (Value × List Char) :=
  words.findSome? fun w => if w.1.isPrefixOf cs then some (w.2, cs.drop w.1.length) else none

mutual
def value? : (fuel : Nat) → List Char → Option (Value × List Char)
  | 0, _ => none
  | _, [] => none
  | fuel + 1, c :: rest =>
    if c = quotationMark then do
      let (cs, rest) ← string? (rest.length + 1) rest
      return (.ofText cs, rest)
    else if c = '[' then
      let rest := skipSpace rest
      if rest.head? = some ']' then some (.list [], rest.tail)
      else do
        let (items, rest) ← items? fuel rest
        return (.list items, rest)
    else if c = openBrace then
      let rest := skipSpace rest
      if rest.head? = some closeBrace then some (.table [], rest.tail)
      else do
        let (entries, rest) ← entries? fuel [] rest
        return (.table entries, rest)
    else (word? (c :: rest)).or (number? (c :: rest))

def items? : (fuel : Nat) → List Char → Option (List Value × List Char)
  | 0, _ => none
  | fuel + 1, cs => do
    let (v, rest) ← value? fuel cs
    match skipSpace rest with
    | ',' :: rest =>
      let (vs, rest) ← items? fuel (skipSpace rest)
      return (v :: vs, rest)
    | ']' :: rest => return ([v], rest)
    | _ => none

def entries? : (fuel : Nat) → List (String × Value) → List Char →
    Option (List (String × Value) × List Char)
  | 0, _, _ => none
  | fuel + 1, before, cs => do
    if cs.head? ≠ some quotationMark then none
    let (key, rest) ← string? (cs.length + 1) cs.tail
    match skipSpace rest with
    | ':' :: rest =>
      let (v, rest) ← value? fuel (skipSpace rest)
      let entries := Table.set (keyOf key) v before
      match skipSpace rest with
      | ',' :: rest => entries? fuel entries (skipSpace rest)
      | c :: rest => if c = closeBrace then some (entries, rest) else none
      | [] => none
    | _ => none
end

def read? (s : String) : Option Value := do
  let cs := skipSpace s.toList
  let (v, rest) ← value? (cs.length + 1) cs
  if (skipSpace rest).isEmpty then some v else none

end ContainerDriver.Json
