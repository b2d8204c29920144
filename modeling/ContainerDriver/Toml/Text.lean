import ContainerDriver.Text.Numeral
import ContainerDriver.Text.Basic

/-! The words of TOML documents: blanks, comments, strings and keys. -/
namespace ContainerDriver.Toml
open Text.Symbol

inductive Flaw where
  | malformed
  | longNumeral
  deriving DecidableEq, Repr

abbrev Reader (α : Type) := List Char → Except Flaw (α × List Char)

def isBlank (c : Char) : Bool := c = ' ' || c = '\t'

def isSpace (c : Char) : Bool := isBlank c || c = '\n'

def skipBlank (cs : List Char) : List Char := cs.dropWhile isBlank

def isPlain (c : Char) : Bool := c = '\t' || 0x20 ≤ c.toNat && c.toNat ≠ 0x7F

def skipComment : List Char → Except Flaw (List Char)
  | '#' :: rest =>
    if (rest.takeWhile (· ≠ '\n')).all isPlain then .ok (rest.dropWhile (· ≠ '\n'))
    else .error .malformed
  | cs => .ok cs

def skipPadding : (fuel : Nat) → List Char → Except Flaw (List Char)
  | 0, _ => .error .malformed
  | fuel + 1, cs =>
    match cs.dropWhile isSpace with
    | '#' :: rest => do skipPadding fuel (← skipComment ('#' :: rest))
    | rest => .ok rest

def numbered (width : Nat) : Reader (List Char) := fun cs =>
  match (Text.Numeral.hexDigits? (cs.take width)).filter (Nat.isValidChar ·) with
  | some n =>
    if (cs.take width).length = width then .ok ([Char.ofNat n], cs.drop width)
    else .error .malformed
  | none => .error .malformed

def escapes : List (Char × Nat) :=
  [('b', 0x08), ('t', 0x09), ('n', 0x0A), ('f', 0x0C), ('r', 0x0D), (quotationMark, 0x22),
   (backslash, 0x5C)]

def escape (block : Bool) : Reader (List Char)
  | [] => .error .malformed
  | c :: rest =>
    if block && isSpace c then
      match skipBlank (c :: rest) with
      | '\n' :: rest => .ok ([], rest.dropWhile isSpace)
      | _ => .error .malformed
    else if c = 'u' then numbered 4 rest
    else if c = 'U' then numbered 8 rest
    else match escapes.lookup c with
      | some n => .ok ([Char.ofNat n], rest)
      | none => .error .malformed

def escaped (block : Bool) : (fuel : Nat) → Reader (List Char)
  | 0, _ => .error .malformed
  | _, [] => .error .malformed
  | fuel + 1, c :: rest =>
    if c = quotationMark ∧ (block = false ∨ rest.take 2 = [c, c]) then
      .ok ([], if block then rest.drop 2 else rest)
    else if c = backslash then do
      let (piece, rest) ← escape block rest
      let (cs, rest) ← escaped block fuel rest
      return (piece ++ cs, rest)
    else if isPlain c || block && c = '\n' then do
      let (cs, rest) ← escaped block fuel rest
      return (c :: cs, rest)
    else .error .malformed

def verbatim : Reader (List Char)
  | [] => .error .malformed
  | c :: rest =>
    if c = apostrophe ∧ rest.take 2 = [c, c] then .ok ([], rest.drop 2)
    else if isPlain c || c = '\n' then do
      let (cs, rest) ← verbatim rest
      return (c :: cs, rest)
    else .error .malformed

def lineString (mark : Char) : Reader (List Char) := fun cs =>
  if mark = quotationMark then escaped false (cs.length + 1) cs
  else
    let body := cs.takeWhile (· ≠ mark)
    match cs.drop body.length with
    | _ :: rest => if body.all isPlain then .ok (body, rest) else .error .malformed
    | [] => .error .malformed

/-- The rest of a block, behind the three marks that open it. A first line feed does not count, and
up to two more marks may stand before the three that close it. -/
def blockString (mark : Char) : Reader (List Char) := fun cs => do
  let body := if cs.head? = some '\n' then cs.tail else cs
  let (cs, rest) ←
    if mark = quotationMark then escaped true (body.length + 1) body else verbatim body
  let more := (rest.take 2).takeWhile (· = mark)
  return (cs ++ more, rest.drop more.length)

abbrev Key := List String

def isBare (c : Char) : Bool := c.isAlphanum || c = '-' || c = '_'

def keyPart : Reader String
  | [] => .error .malformed
  | c :: rest =>
    if isBare c then
      .ok (String.ofList (c :: rest.takeWhile isBare), rest.dropWhile isBare)
    else if c = quotationMark ∨ c = apostrophe then do
      let (cs, rest) ← lineString c rest
      return (String.ofList cs, rest)
    else .error .malformed

def key : (fuel : Nat) → Reader Key
  | 0, _ => .error .malformed
  | fuel + 1, cs => do
    let (part, rest) ← keyPart cs
    match skipBlank rest with
    | '.' :: rest =>
      let (more, rest) ← key fuel (skipBlank rest)
      return (part :: more, rest)
    | rest => return ([part], rest)

end ContainerDriver.Toml
