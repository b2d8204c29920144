import ContainerDriver.Bytes
import ContainerDriver.Table

/-! Records of an extended header: `length keyword=value` and a line feed, where the length counts
the whole record, its own digits included. -/
namespace ContainerDriver.Archive

def decimal (n : Nat) : Bytes :=
  if n < 10 then [UInt8.ofNat (0x30 + n)]
  else decimal (n / 10) ++ [UInt8.ofNat (0x30 + n % 10)]

def signedDecimal (n : Int) : Bytes :=
  if n < 0 then 0x2D :: decimal n.natAbs else decimal n.natAbs

structure Record where
  keyword : Bytes
  value : Bytes
  deriving DecidableEq, Repr

namespace Record

def bodyLength (r : Record) : Nat := r.keyword.length + r.value.length + 3

/-- The least length that counts its own digits. The body with one digit is a lower bound, and
adding digits to it can lengthen the number once at most. -/
def totalLength (body : Nat) : Nat :=
  body + (decimal (body + (decimal (body + 1)).length)).length

def bytes (r : Record) : Bytes :=
  decimal (totalLength r.bodyLength) ++ 0x20 :: r.keyword ++ 0x3D :: r.value ++ [0x0A]

def isDigit (b : UInt8) : Bool := 0x30 ≤ b && b ≤ 0x39

def ofDecimal (ds : Bytes) : Nat := ds.foldl (fun n d => n * 10 + (d.toNat - 0x30)) 0

def first? (b : Bytes) : Option (Record × Nat) :=
  let digits := b.takeWhile isDigit
  let length := ofDecimal digits
  let body := (b.take (length - 1)).drop (digits.length + 1)
  let keyword := body.takeWhile (· ≠ 0x3D)
  if 1 ≤ digits.length ∧ digits.length ≤ 20 ∧ b[digits.length]? = some 0x20 ∧
      5 ≤ length ∧ length ≤ b.length ∧ keyword ≠ [] ∧ keyword.length < body.length ∧
      b[length - 1]? = some 0x0A then
    some (⟨keyword, body.drop (keyword.length + 1)⟩, length)
  else none

theorem firstLength {b r n} (h : first? b = some (r, n)) : 5 ≤ n ∧ n ≤ b.length := by
  unfold first? at h
  simp only at h
  split at h
  · next c => cases h; exact ⟨c.2.2.2.1, c.2.2.2.2.1⟩
  · contradiction

def parse? (b : Bytes) : Option (List Record) :=
  if b = [] ∨ b.head? = some 0 then some []
  else match _found : first? b with
    | none => none
    | some (r, n) => (parse? (b.drop n)).map (r :: ·)
termination_by b.length
decreasing_by
  have := firstLength _found
  simp only [List.length_drop]; omega

end Record

abbrev Attributes := List (Bytes × Bytes)

def Attributes.add (a : Attributes) (rs : List Record) : Attributes :=
  rs.foldl (fun t r => Table.set r.keyword r.value t) a

end ContainerDriver.Archive
