import ContainerDriver.Bytes
import ContainerDriver.Text.Numeral

/-! Fields of a header block: texts padded with zero bytes, octal numbers that end in a zero byte,
and the sum of a block's bytes. The reader of numbers is more lenient than the writer: it takes
padded octal text and big-endian binary numbers as well. -/
namespace ContainerDriver.Archive

def blockSize : Nat := 512

def wholeBlocks (n : Int) : Int := -((-n) / (blockSize : Int)) * (blockSize : Int)

namespace Field

def text (width : Nat) (b : Bytes) : Bytes := b.take width ++ Bytes.zeros (width - b.length)

def octal : (width n : Nat) → Bytes
  | 0, _ => []
  | width + 1, n => octal width (n / 8) ++ [UInt8.ofNat (0x30 + n % 8)]

def number (width n : Nat) : Bytes := octal (width - 1) n ++ [0]

def fits (width : Nat) (n : Int) : Bool := 0 ≤ n && n < Nat.pow 8 (width - 1)

def bigEndian (b : Bytes) : Nat := b.foldl (fun n x => n * 256 + x.toNat) 0

def readOctal? (b : Bytes) : Option Int := do
  Text.Numeral.octal? (← Text.Numeral.asciiChars? (Bytes.untilZero b))

/-- Reads a number field. The lead bytes 0x80 and 0xFF announce a binary number, the second of
them a negative one. -/
def read? : Bytes → Option Int
  | [] => none
  | lead :: rest =>
    if lead = 0x80 then some (bigEndian rest : Nat)
    else if lead = 0xFF then some ((bigEndian rest : Nat) - Nat.pow 256 rest.length)
    else readOctal? (lead :: rest)

def sum (b : Bytes) : Nat := b.foldr (fun x n => x.toNat + n) 0

def signedByte (x : UInt8) : Int := if x < 0x80 then x.toNat else (x.toNat : Int) - 256

def signedSum (b : Bytes) : Int := b.foldr (fun x n => signedByte x + n) 0

end Field

def slice (offset length : Nat) (b : Bytes) : Bytes := (b.drop offset).take length

end ContainerDriver.Archive
