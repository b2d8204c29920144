import ContainerDriver.Archive.Header

/-! What a header block says. A block is believed only if its stored sum is the sum of its bytes,
counted unsigned or signed. -/
namespace ContainerDriver.Archive

inductive HeaderFlaw where
  | empty
  | truncated
  | endOfArchive
  | checksum
  | invalid
  deriving DecidableEq, Repr

def HeaderFlaw.message : HeaderFlaw → String
  | empty => "empty header"
  | truncated => "truncated header"
  | endOfArchive => "end of file header"
  | checksum => "bad checksum"
  | invalid => "invalid header"

structure Extent where
  offset : Int
  length : Int
  deriving DecidableEq, Repr

/-- The part of a header that old sparse members have: their first extents, whether blocks with
more extents follow, and the size with all gaps filled. -/
structure SparseLead where
  extents : List Extent
  more : Bool
  size : Int
  deriving DecidableEq, Repr

structure Fields where
  name : Bytes
  mode : Int
  uid : Int
  gid : Int
  size : Int
  flag : UInt8
  sparse : Option SparseLead
  deriving DecidableEq, Repr

def slash : UInt8 := 0x2F

def dropTrailingSlashes (name : Bytes) : Bytes := (name.reverse.dropWhile (· = slash)).reverse

namespace Fields

def numberAt (block : Bytes) (offset width : Nat) : Except HeaderFlaw Int :=
  match Field.read? (slice offset width block) with
  | some n => .ok n
  | none => .error .invalid

def textAt (block : Bytes) (offset width : Nat) : Bytes := Bytes.untilZero (slice offset width block)

def unsignedSum (block : Bytes) : Nat :=
  Field.sum (block.take 148) + 8 * 0x20 + Field.sum (block.drop 156)

def signedSum (block : Bytes) : Int :=
  Field.signedSum (block.take 148) + 8 * 0x20 + Field.signedSum (block.drop 156)

def extentAt (block : Bytes) (offset : Nat) : Except HeaderFlaw Extent := do
  return ⟨← numberAt block offset 12, ← numberAt block (offset + 12) 12⟩

def sparseLead (block : Bytes) : Except HeaderFlaw SparseLead := do
  let extents ← (List.range 4).mapM fun i => extentAt block (386 + 24 * i)
  return ⟨extents, slice 482 1 block ≠ [0], ← numberAt block 483 12⟩

/-- Before there was a flag for directories, a trailing slash made one. -/
def effectiveFlag (flag : UInt8) (name : Bytes) : UInt8 :=
  if flag = Flag.oldRegular ∧ name.getLast? = some slash then Flag.directory else flag

def fullName (flag : UInt8) (front name : Bytes) : Bytes :=
  let name := if flag = Flag.directory then dropTrailingSlashes name else name
  if front = [] ∨ flag ∈ [Flag.longName, Flag.longLink, Flag.sparse] then name
  else front ++ slash :: name

def ofFullBlock (block : Bytes) : Except HeaderFlaw Fields := do
  let sum ← numberAt block 148 8
  if sum ≠ unsignedSum block ∧ sum ≠ signedSum block then throw .checksum
  let mode ← numberAt block 100 8
  let uid ← numberAt block 108 8
  let gid ← numberAt block 116 8
  let size ← numberAt block 124 12
  let _ ← numberAt block 136 12
  let _ ← numberAt block 329 8
  let _ ← numberAt block 337 8
  let name := textAt block 0 100
  let flag := effectiveFlag ((block.drop 156).headD 0) name
  let sparse ← if flag = Flag.sparse then some <$> sparseLead block else pure none
  return ⟨fullName flag (textAt block 345 155) name, mode, uid, gid, size, flag, sparse⟩

def ofBlock (block : Bytes) : Except HeaderFlaw Fields :=
  if block = [] then .error .empty
  else if block.length ≠ blockSize then .error .truncated
  else if block.all (· = 0) then .error .endOfArchive
  else ofFullBlock block

theorem ofBlockLength {block f} (h : ofBlock block = .ok f) : block.length = blockSize := by
  unfold ofBlock at h
  split at h
  · contradiction
  · split at h
    · contradiction
    · next full => exact Decidable.not_not.mp full

end Fields
end ContainerDriver.Archive
