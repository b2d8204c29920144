import ContainerDriver.Bytes
import ContainerDriver.Text.Basic

/-! UTF-8. A byte string splits into pieces: well-formed characters and ill-formed stretches, each
stretch as long as a prefix of some well-formed sequence allows. All decoders read the pieces, so
they differ only in what they make of an ill-formed stretch. Names of the operating system are
decoded so that a byte that is no text becomes a surrogate of its own, and is encoded as that byte
again; other encoders refuse every surrogate. -/
namespace ContainerDriver.Text

inductive Piece where
  | char (c : Char)
  | broken (bytes : Bytes)
  deriving DecidableEq, Repr

namespace Utf8

private def octet (n : Nat) : UInt8 := UInt8.ofNat n

def encodeChar (c : Char) : Bytes :=
  let n := c.toNat
  if n < 0x80 then [octet n]
  else if n < 0x800 then [octet (0xC0 + n / 64), octet (0x80 + n % 64)]
  else if n < 0x10000 then
    [octet (0xE0 + n / 4096), octet (0x80 + n / 64 % 64), octet (0x80 + n % 64)]
  else
    [octet (0xF0 + n / 262144), octet (0x80 + n / 4096 % 64), octet (0x80 + n / 64 % 64),
     octet (0x80 + n % 64)]

def encode (cs : List Char) : Bytes := cs.flatMap encodeChar

def ofString (s : String) : Bytes := encode s.toList

def standsForByte (n : Fin 0x800) : Bool := 0x480 ≤ n.val && n.val < 0x500

def encodeLetter : Letter → Bytes
  | .char c => encodeChar c
  | .surrogate n => if standsForByte n then [octet (n - 0x400)] else []

def ofText (t : Text) : Bytes := t.flatMap encodeLetter

/-- The bytes that may follow a lead byte: how many, and the range of the first of them. The range
keeps out overlong forms, surrogates and code points above U+10FFFF. -/
def follow (lead : UInt8) : Option (Nat × Nat × Nat) :=
  let n := lead.toNat
  if n < 0xC2 then none
  else if n < 0xE0 then some (1, 0x80, 0xBF)
  else if n = 0xE0 then some (2, 0xA0, 0xBF)
  else if n = 0xED then some (2, 0x80, 0x9F)
  else if n < 0xF0 then some (2, 0x80, 0xBF)
  else if n = 0xF0 then some (3, 0x90, 0xBF)
  else if n < 0xF4 then some (3, 0x80, 0xBF)
  else if n = 0xF4 then some (3, 0x80, 0x8F)
  else none

def tail : (count lo hi : Nat) → Bytes → Bytes
  | 0, _, _, _ => []
  | _, _, _, [] => []
  | count + 1, lo, hi, b :: rest =>
    if lo ≤ b.toNat ∧ b.toNat ≤ hi then b :: tail count 0x80 0xBF rest else []

private def leadBits (count : Nat) (lead : UInt8) : Nat :=
  match count with
  | 1 => lead.toNat % 32
  | 2 => lead.toNat % 16
  | _ => lead.toNat % 8

private def assemble (count : Nat) (lead : UInt8) (bytes : Bytes) : Char :=
  Char.ofNat (bytes.foldl (fun n b => n * 64 + b.toNat % 64) (leadBits count lead))

def piece (lead : UInt8) (rest : Bytes) : Piece × Nat :=
  if lead.toNat < 0x80 then (.char (Char.ofNat lead.toNat), 0)
  else match follow lead with
    | none => (.broken [lead], 0)
    | some (count, lo, hi) =>
      let more := tail count lo hi rest
      if more.length = count then (.char (assemble count lead more), count)
      else (.broken (lead :: more), more.length)

def pieces : Bytes → List Piece
  | [] => []
  | lead :: rest =>
    (piece lead rest).1 :: pieces (rest.drop (piece lead rest).2)
termination_by b => b.length
decreasing_by simp only [List.length_drop, List.length_cons]; omega

def decodeReplacing (b : Bytes) : List Char :=
  (pieces b).map fun
    | .char c => c
    | .broken _ => Char.ofNat 0xFFFD

def decodeEscaping (b : Bytes) : Text :=
  (pieces b).flatMap fun
    | .char c => [.char c]
    | .broken bytes => bytes.map fun x =>
      .surrogate ⟨0x400 + x.toNat, by have := x.toNat_lt; omega⟩

def decode? (b : Bytes) : Option (List Char) :=
  (pieces b).mapM fun
    | .char c => some c
    | .broken _ => none

end Utf8

structure Unencodable where
  text : Text
  start : Nat
  stop : Nat
  deriving DecidableEq, Repr

def refused? (refuses : Fin 0x800 → Bool) (t : Text) : Option Unencodable :=
  let start := (t.takeWhile fun
    | .char _ => true
    | .surrogate n => !refuses n).length
  if start = t.length then none
  else some ⟨t, start, start + ((t.drop start).takeWhile Letter.isSurrogate).length⟩

def unencodable? (t : Text) : Option Unencodable := refused? (fun _ => true) t

def unescapable? (t : Text) : Option Unencodable := refused? (fun n => !Utf8.standsForByte n) t

end ContainerDriver.Text
