import ContainerDriver.Archive.Fields
import ContainerDriver.Archive.Record
import ContainerDriver.Archive.Tape
import ContainerDriver.Text.Utf8

/-! The first member behind a position. Extended headers stand in front of the header that they
describe, several of them nested, so the reader comes back through them from the member outwards
and changes what each of them has to say about it. -/
namespace ContainerDriver.Archive

structure Member where
  name : Bytes
  mode : Int
  uid : Int
  gid : Int
  size : Int
  flag : UInt8
  start : Nat
  extents : Option (List Extent)
  deriving DecidableEq, Repr

namespace Member

def isRegular (m : Member) : Bool := Flag.isRegular m.flag

def isDirectory (m : Member) : Bool := m.flag = Flag.directory

def span (flag : UInt8) (size : Int) : Int := if Flag.isBare flag then 0 else wholeBlocks size

def trimDirectory (m : Member) : Member :=
  if m.isDirectory then { m with name := dropTrailingSlashes m.name } else m

end Member

namespace Attributes

def key (s : String) : Bytes := Bytes.ofAscii s

def number? (value : Bytes) : Option Int := do
  Text.Numeral.decimal? (← Text.Utf8.decode? value)

def requiredNumber (value : Bytes) : Except Mishap Int :=
  match number? value with
  | some n => .ok n
  | none => .error .badNumber

/-- One attribute applied to a member. Owners and sizes that are no numbers become zero, the sizes
of sparse members may not. -/
def applyOne (m : Member) (keyword value : Bytes) : Except Mishap Member :=
  if keyword = key "GNU.sparse.name" then .ok { m with name := value }
  else if keyword = key "GNU.sparse.size" ∨ keyword = key "GNU.sparse.realsize" then
    (requiredNumber value).map fun n => { m with size := n }
  else if keyword = key "path" then .ok { m with name := dropTrailingSlashes value }
  else if keyword = key "size" then .ok { m with size := (number? value).getD 0 }
  else if keyword = key "uid" then .ok { m with uid := (number? value).getD 0 }
  else if keyword = key "gid" then .ok { m with gid := (number? value).getD 0 }
  else .ok m

def apply (a : Attributes) (m : Member) : Except Mishap Member :=
  a.foldlM (fun m kv => applyOne m kv.1 kv.2) m

end Attributes

structure Resume where
  globals : Attributes
  tape : Tape
  next : Int
  deriving DecidableEq, Repr

structure Found where
  member : Member
  resume : Resume
  deriving DecidableEq, Repr

inductive Stop where
  | flawed (f : HeaderFlaw)
  | behind (f : HeaderFlaw)
  | badExtents (r : Resume)
  | mishap (m : Mishap)
  deriving DecidableEq, Repr

/-- The same stop as an extended header in front reports it. -/
def Stop.outer : Stop → Stop
  | flawed f => behind f
  | behind f => behind f
  | badExtents _ => behind .invalid
  | mishap m => mishap m

namespace Sparse

def blockNumber (block : Bytes) : Except Stop Int :=
  if block = [] then .error (.mishap .cutBlock)
  else match Field.read? (block.take 12) with
    | some n => .ok n
    | none => .error (.flawed .invalid)

/-- Extents of one extension block. A listed extent without position or length is dropped. -/
def blockExtents : (count : Nat) → (block : Bytes) → Except Stop (List Extent)
  | 0, _ => .ok []
  | count + 1, block => do
    let offset ← blockNumber block
    let length ← blockNumber (block.drop 12)
    let rest ← blockExtents count (block.drop 24)
    return if offset ≠ 0 ∧ length ≠ 0 then ⟨offset, length⟩ :: rest else rest

def moreExtents (t : Tape) : Except Stop (List Extent × Tape) :=
  let block := t.rest.take blockSize
  match blockExtents 21 block with
  | .error s => .error s
  | .ok extents =>
    if _short : block.length < 505 then .error (.mishap .cutBlock)
    else if slice 504 1 block = [0] then .ok (extents, t.skip blockSize)
    else match moreExtents (t.skip blockSize) with
      | .error s => .error s
      | .ok (rest, t') => .ok (extents ++ rest, t')
termination_by t.rest.length
decreasing_by
  have : (t.rest.take blockSize).length ≥ 505 := Nat.le_of_not_lt _short
  simp only [List.length_take, Tape.skip, List.length_drop, blockSize] at *
  omega

def pairUp : List Int → List Extent
  | a :: b :: rest => ⟨a, b⟩ :: pairUp rest
  | _ => []

def ofMap (value : Bytes) : Except Mishap (List Extent) := do
  let numbers ← (Bytes.split 0x2C value).mapM Attributes.requiredNumber
  return pairUp numbers

def ofRecords? (rs : List Record) : Option (List Extent) := do
  let offsets ← (rs.filter (·.keyword = Attributes.key "GNU.sparse.offset")).mapM
    (Attributes.number? ·.value)
  let lengths ← (rs.filter (·.keyword = Attributes.key "GNU.sparse.numbytes")).mapM
    (Attributes.number? ·.value)
  return List.zipWith Extent.mk offsets lengths

def line? (b : Bytes) : Option (Int × Bytes) :=
  let text := b.takeWhile (· ≠ 0x0A)
  if text.length < b.length then
    (Text.Numeral.decimalBytes? text).map fun n => (n, b.drop (text.length + 1))
  else none

def lines : (count : Nat) → (buffer : Bytes) → Tape → Except Mishap (List Int × Tape)
  | 0, _, t => .ok ([], t)
  | count + 1, buffer, t =>
    let short := !buffer.contains 0x0A
    let buffer := if short then buffer ++ t.rest.take blockSize else buffer
    let t := if short then t.skip blockSize else t
    match line? buffer with
    | none => .error .badNumber
    | some (n, buffer) => do
      let (rest, t) ← lines count buffer t
      return (n :: rest, t)

def ofContent (t : Tape) : Except Mishap (List Extent × Tape) :=
  match line? (t.rest.take blockSize) with
  | none => .error .badNumber
  | some (count, buffer) => do
    let (numbers, t) ← lines (count * 2).toNat buffer (t.skip blockSize)
    return (pairUp numbers, t)

def describe (a : Attributes) (rs : List Record) (found : Found) : Except Stop Found :=
  match Table.get? (Attributes.key "GNU.sparse.map") a with
  | some value =>
    match ofMap value with
    | .error m => .error (.mishap m)
    | .ok extents => .ok { found with member.extents := some extents }
  | none =>
    if Table.has (Attributes.key "GNU.sparse.size") a then
      match ofRecords? rs with
      | none => .error (.badExtents found.resume)
      | some extents => .ok { found with member.extents := some extents }
    else if Table.get? (Attributes.key "GNU.sparse.major") a = some (Attributes.key "1") ∧
        Table.get? (Attributes.key "GNU.sparse.minor") a = some (Attributes.key "0") then
      match ofContent found.resume.tape with
      | .error m => .error (.mishap m)
      | .ok (extents, tape) =>
        .ok { member := { found.member with extents := some extents, start := tape.position }
              resume := { found.resume with tape := tape } }
    else .ok found

end Sparse

inductive Kind where
  | longName
  | longLink
  | attributes
  | globals
  | plain
  deriving DecidableEq, Repr

def Kind.ofFlag (f : UInt8) : Kind :=
  if f = Flag.longName then longName
  else if f = Flag.longLink then longLink
  else if f = Flag.attributes ∨ f = Flag.oldAttributes then attributes
  else if f = Flag.globalAttributes then globals
  else plain

namespace Member

def ofFields (f : Fields) (start : Nat) : Member :=
  ⟨f.name, f.mode, f.uid, f.gid, f.size, f.flag, start, none⟩

def plain (globals : Attributes) (f : Fields) (t : Tape) : Except Stop Found :=
  match Attributes.apply globals (ofFields f t.position) with
  | .error m => .error (.mishap m)
  | .ok m => .ok ⟨m.trimDirectory, ⟨globals, t, t.position + span f.flag f.size⟩⟩

def sparse (globals : Attributes) (f : Fields) (lead : SparseLead) (t : Tape) :
    Except Stop Found := do
  let (extents, t) ← if lead.more then Sparse.moreExtents t else pure ([], t)
  return ⟨{ ofFields f t.position with size := lead.size, extents := some (lead.extents ++ extents) },
    ⟨globals, t, t.position + wholeBlocks f.size⟩⟩

/-- A long name replaces the name of the member behind it. -/
def rename (kind : Kind) (payload : Bytes) (m : Member) : Member :=
  let m := if kind = .longName then { m with name := Bytes.untilZero payload } else m
  if m.isDirectory ∧ m.name.getLast? = some slash then { m with name := m.name.dropLast } else m

def describe (a : Attributes) (found : Found) : Except Stop Found :=
  match Attributes.apply a found.member with
  | .error m => .error (.mishap m)
  | .ok m =>
    let next := if Table.has (Attributes.key "size") a then m.start + span m.flag m.size
      else found.resume.next
    .ok ⟨m, { found.resume with next := next }⟩

def find (globals : Attributes) (t : Tape) : Except Stop Found :=
  match _header : Fields.ofBlock (t.rest.take blockSize) with
  | .error f => .error (.flawed f)
  | .ok f =>
    match f.sparse, Kind.ofFlag f.flag with
    | some lead, _ => sparse globals f lead (t.skip blockSize)
    | none, .plain => plain globals f (t.skip blockSize)
    | none, kind =>
      match _payload : (t.skip blockSize).read (wholeBlocks f.size) with
      | .error m => .error (.mishap m)
      | .ok (buffer, t') =>
        if kind = .longName ∨ kind = .longLink then
          match find globals t' with
          | .error s => .error s.outer
          | .ok found => .ok { found with member := rename kind buffer found.member }
        else
          match Record.parse? buffer with
          | none => .error (.flawed .invalid)
          | some rs =>
            let all := Attributes.add globals rs
            match find (if kind = .globals then all else globals) t' with
            | .error s => .error s.outer
            | .ok found =>
              let shared := if kind = .globals then found.resume.globals else all
              match Sparse.describe shared rs found with
              | .error s => .error s
              | .ok found => if kind = .globals then .ok found else describe all found
termination_by t.rest.length
decreasing_by
  all_goals
    have full := Fields.ofBlockLength _header
    have := Tape.readRest _payload
    simp only [Tape.skip, List.length_drop, List.length_take, blockSize] at *
    omega

end Member
end ContainerDriver.Archive
