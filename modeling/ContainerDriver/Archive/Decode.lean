import ContainerDriver.Archive.Member
import ContainerDriver.Text.Quoted

/-! Reading the content of the first member. The reader itself is content with what it gets, so
the length of the content is compared with the member's size at the end. Headers may be chained to
any depth, and gaps may fill memory up to a fixed limit; a machine that has less room for either
gives up earlier. -/
namespace ContainerDriver.Archive

inductive DecodingFlaw where
  | emptyStream
  | noEntries
  | notRegular (name : Bytes)
  | header (f : HeaderFlaw)
  | emptyFile
  | unexpectedEnd
  | truncated (name : Bytes) (expected : Int) (actual : Nat)
  deriving DecidableEq, Repr

namespace DecodingFlaw

def malformed (reason : String) : String := "malformed or truncated archive: " ++ reason

def message : DecodingFlaw → String
  | emptyStream => "archive stream is empty"
  | noEntries => "archive has no entries"
  | notRegular name => "archive entry " ++ Text.quotedBytes name ++ " is not a regular file"
  | header f => malformed f.message
  | emptyFile => malformed "empty file"
  | unexpectedEnd => malformed "unexpected end of data"
  | truncated name expected actual =>
    "archive entry " ++ Text.quotedBytes name ++ " truncated: expected " ++ toString expected
      ++ " bytes, got " ++ toString actual

end DecodingFlaw

inductive DecodingFault where
  | flaw (f : DecodingFlaw)
  | mishap (m : Mishap)
  deriving DecidableEq, Repr

/-- Reading goes on behind a member whose extents are bad, at the place where the next header
should be. -/
def resumeTape (data : Bytes) (r : Resume) : Except DecodingFault Tape :=
  if r.next = r.tape.position then .ok r.tape
  else if !Tape.inReach (r.next - 1) then .error (.mishap .outOfRange)
  else if r.next - 1 < 0 then .error (.mishap .badNumber)
  else if (data.length : Int) ≤ r.next - 1 then .error (.flaw .unexpectedEnd)
  else .ok (Tape.wind data r.next.toNat)

/-- The second look for a member. Headers that are no headers count as the end now. -/
def findBehind (data : Bytes) (r : Resume) : Except DecodingFault Member := do
  let t ← resumeTape data r
  match Member.find r.globals t with
  | .ok found => .ok found.member
  | .error (.flawed _) => .error (.flaw .noEntries)
  | .error (.behind f) => .error (.flaw (.header f))
  | .error (.badExtents r) =>
    .error (.flaw (if r.next = 0 then .header .invalid else .noEntries))
  | .error (.mishap m) => .error (.mishap m)

def firstMember (data : Bytes) : Except DecodingFault Member :=
  match Member.find [] (Tape.ofBytes data) with
  | .ok found => .ok found.member
  | .error (.flawed .endOfArchive) => .error (.flaw .noEntries)
  | .error (.flawed .empty) => .error (.flaw .emptyFile)
  | .error (.flawed f) => .error (.flaw (.header f))
  | .error (.behind f) => .error (.flaw (.header f))
  | .error (.badExtents r) =>
    if r.next = 0 then .error (.flaw (.header .invalid)) else findBehind data r
  | .error (.mishap m) => .error (.mishap m)

namespace Sparse

structure Stretch where
  first : Int
  behind : Int
  stored : Option Int
  deriving DecidableEq, Repr

/-- Stored stretches follow each other in the archive; gaps fill what lies between them. `last` is
the end of the stretch before. -/
def stretches (size : Int) : (stored last : Int) → List Extent → List Stretch
  | _, last, [] => if last < size then [⟨last, size, none⟩] else []
  | stored, last, e :: rest =>
    let here : Stretch := ⟨e.offset, e.offset + e.length, some stored⟩
    let more := here :: stretches size (stored + e.length) (e.offset + e.length) rest
    if last < e.offset then ⟨last, e.offset, none⟩ :: more else more

def turn (position : Int) (ring : List Stretch) : Option (Stretch × List Stretch) :=
  let covers (s : Stretch) := s.first ≤ position && position < s.behind
  match ring.dropWhile fun s => !covers s with
  | [] => none
  | s :: rest => some (s, s :: rest ++ ring.takeWhile fun s => !covers s)

/-- Gaps are filled in memory, so they must be shorter than this. -/
def room : Nat := Nat.pow 2 40

def readStretch (data : Bytes) (s : Stretch) (position : Int) (length : Nat) :
    Except DecodingFault Bytes :=
  match s.stored with
  | none =>
    if !Tape.inReach length then .error (.mishap .outOfRange)
    else if room ≤ length then .error (.mishap .tooLong)
    else .ok (Bytes.zeros length)
  | some stored =>
    let start := stored + (position - s.first)
    if !Tape.inReach start then .error (.mishap .outOfRange)
    else if start < 0 then .error (.mishap .badNumber)
    else if !Tape.inReach length then .error (.mishap .outOfRange)
    else
      let bytes := (data.drop start.toNat).take length
      if bytes.length = length then .ok bytes else .error (.flaw .unexpectedEnd)

theorem turnCovers {position ring s ring'} (h : turn position ring = some (s, ring')) :
    position < s.behind := by
  unfold turn at h
  simp only at h
  split at h
  · contradiction
  · next s' rest eq =>
    cases h
    have := List.head?_dropWhile_not (fun s : Stretch =>
      !(decide (s.first ≤ position) && decide (position < s.behind))) ring
    simp only [eq, List.head?_cons] at this
    simp at this
    exact this.2

def readStretches (data : Bytes) (ring : List Stretch) (position : Int) (remaining : Nat) :
    Except DecodingFault Bytes :=
  if remaining = 0 then .ok []
  else match _found : turn position ring with
    | none => .error (.mishap .uncovered)
    | some (s, ring') =>
      let length := min remaining (s.behind - position).toNat
      match readStretch data s position length with
      | .error f => .error f
      | .ok bytes =>
        match readStretches data ring' (position + length) (remaining - length) with
        | .error f => .error f
        | .ok rest => .ok (bytes ++ rest)
termination_by remaining
decreasing_by
  have := turnCovers _found
  omega

end Sparse

def Member.content (data : Bytes) (m : Member) : Except DecodingFault Bytes :=
  let extents := m.extents.getD [⟨0, m.size⟩]
  Sparse.readStretches data (Sparse.stretches m.size m.start 0 extents) 0 m.size.toNat

def decode (data : Bytes) : Except DecodingFault Bytes := do
  if data = [] then throw (.flaw .emptyStream)
  let m ← firstMember data
  if !m.isRegular then throw (.flaw (.notRegular m.name))
  let content ← m.content data
  if (content.length : Int) ≠ m.size then
    throw (.flaw (.truncated m.name m.size content.length))
  return content

def copy (data dest : Bytes) : Except DecodingFault Nat × Bytes :=
  match decode data with
  | .ok content => (.ok content.length, dest ++ content)
  | .error f => (.error f, dest)

end ContainerDriver.Archive
