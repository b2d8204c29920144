import ContainerDriver.Bytes
import ContainerDriver.Text.Blank

/-! Lenient integers: surrounding white space, one sign, and single underscores between digits are
allowed. Decimal ones take the digits of every script and at most 4300 of them; octal ones may
start with the marker `0o`. -/
namespace ContainerDriver.Text.Numeral

def zeros : List Nat :=
  [0x30, 0x660, 0x6F0, 0x7C0, 0x966, 0x9E6, 0xA66, 0xAE6, 0xB66, 0xBE6,
   0xC66, 0xCE6, 0xD66, 0xDE6, 0xE50, 0xED0, 0xF20, 0x1040, 0x1090, 0x17E0,
   0x1810, 0x1946, 0x19D0, 0x1A80, 0x1A90, 0x1B50, 0x1BB0, 0x1C40, 0x1C50, 0xA620,
   0xA8D0, 0xA900, 0xA9D0, 0xA9F0, 0xAA50, 0xABF0, 0xFF10, 0x104A0, 0x10D30, 0x11066,
   0x110F0, 0x11136, 0x111D0, 0x112F0, 0x11450, 0x114D0, 0x11650, 0x116C0, 0x11730, 0x118E0,
   0x11950, 0x11C50, 0x11D50, 0x11DA0, 0x16A60, 0x16AC0, 0x16B50, 0x1D7CE, 0x1D7D8, 0x1D7E2,
   0x1D7EC, 0x1D7F6, 0x1E140, 0x1E2F0, 0x1E950, 0x1FBF0]

def decimalDigit? (c : Char) : Option Nat :=
  (zeros.find? fun z => z ≤ c.toNat && c.toNat ≤ z + 9).map (c.toNat - ·)

def octalDigit? (c : Char) : Option Nat :=
  if '0' ≤ c ∧ c ≤ '7' then some (c.toNat - 0x30) else none

def digits? (digit? : Char → Option Nat) : List Char → Option (List Nat)
  | [] => none
  | [c] => (digit? c).map ([·])
  | c :: '_' :: rest => do some ((← digit? c) :: (← digits? digit? rest))
  | c :: rest => do some ((← digit? c) :: (← digits? digit? rest))

def ofDigits (base : Nat) (ds : List Nat) : Nat := ds.foldl (fun n d => n * base + d) 0

def isDigit (c : Char) : Bool := '0' ≤ c && c ≤ '9'

def digitsOf (cs : List Char) : Nat := ofDigits 10 (cs.map fun c => c.toNat - 0x30)

def hexDigit? (c : Char) : Option Nat :=
  if '0' ≤ c ∧ c ≤ '9' then some (c.toNat - 0x30)
  else if 'a' ≤ c ∧ c ≤ 'f' then some (c.toNat - 0x57)
  else if 'A' ≤ c ∧ c ≤ 'F' then some (c.toNat - 0x37)
  else none

def hexDigits? (cs : List Char) : Option Nat :=
  (cs.mapM hexDigit?).map (ofDigits 16)

def signed? (read : List Char → Option Nat) : List Char → Option Int
  | '-' :: rest => (read rest).map fun n => -(n : Int)
  | '+' :: rest => (read rest).map Int.ofNat
  | cs => (read cs).map Int.ofNat

def digitLimit : Nat := 4300

def unsignedDecimal? (cs : List Char) : Option Nat := do
  let ds ← digits? decimalDigit? cs
  if ds.length ≤ digitLimit then some (ofDigits 10 ds) else none

/-- The information separators are white space elsewhere, but not around a number. -/
def isPadding (c : Char) : Bool := isBlank c && !inRanges [(0x1C, 0x1F)] c.toNat

def decimal? (cs : List Char) : Option Int :=
  signed? unsignedDecimal? ((cs.dropWhile isPadding).reverse.dropWhile isPadding).reverse

def asciiChars? (b : Bytes) : Option (List Char) :=
  if b.all (· < 0x80) then some (b.map fun x => Char.ofNat x.toNat) else none

def decimalBytes? (b : Bytes) : Option Int := do decimal? (← asciiChars? b)

def unsignedOctal? : List Char → Option Nat
  | '0' :: mark :: rest =>
    if mark = 'o' ∨ mark = 'O' then
      let body := if rest.head? = some '_' then rest.tail else rest
      (digits? octalDigit? body).map (ofDigits 8)
    else (digits? octalDigit? ('0' :: mark :: rest)).map (ofDigits 8)
  | cs => (digits? octalDigit? cs).map (ofDigits 8)

def octal? (cs : List Char) : Option Int :=
  if (trim cs).isEmpty then some 0 else signed? unsignedOctal? (trim cs)

end ContainerDriver.Text.Numeral
