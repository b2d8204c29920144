import ContainerDriver.Archive.Entry
import ContainerDriver.Archive.Header
import ContainerDriver.Archive.Record

/-! Writing one entry as an archive: an extended header when some field does not fit, the entry's
header, its content, and zero bytes up to a whole number of records. -/
namespace ContainerDriver.Archive

def archiveUnit : Nat := 20 * blockSize

namespace Entry

def isAscii (t : Text) : Bool := t.all fun l => l.code < 0x80

def shortName (name : Text) : Bytes :=
  (name.take 100).map fun l => if l.code < 0x80 then UInt8.ofNat l.code else 0x3F

def needsPath (name : Text) : Bool := !isAscii name || 100 < name.length

def charsetRecord (name : Text) : List Record :=
  if name.any Letter.isSurrogate then [⟨Bytes.ofAscii "hdrcharset", Bytes.ofAscii "BINARY"⟩] else []

def pathRecord (name : Text) : List Record :=
  if needsPath name then [⟨Bytes.ofAscii "path", Text.Utf8.ofText name⟩] else []

def shown (width : Nat) (n : Int) : Nat := if Field.fits width n then n.toNat else 0

def numberRecord (keyword : String) (width : Nat) (n : Int) : List Record :=
  if Field.fits width n then [] else [⟨Bytes.ofAscii keyword, signedDecimal n⟩]

def records (e : Entry) (now : Int) : List Record :=
  charsetRecord e.name ++ pathRecord e.name ++ numberRecord "uid" 8 e.uid
    ++ numberRecord "gid" 8 e.gid ++ numberRecord "mtime" 12 now

def permissions (e : Entry) : Nat := ((e.mode.getD defaultMode) % 0o10000).toNat

def header (e : Entry) (now : Int) : Header :=
  ⟨shortName e.name, e.permissions, shown 8 e.uid, shown 8 e.gid, e.size.toNat, shown 12 now,
   Flag.regular⟩

end Entry

def extendedHeader (payload : Bytes) : Header :=
  ⟨Bytes.ofAscii "././@PaxHeader", 0, 0, 0, payload.length, 0, Flag.attributes⟩

def extension (rs : List Record) : Bytes :=
  let payload := rs.flatMap Record.bytes
  if rs.isEmpty then [] else (extendedHeader payload).block ++ Bytes.padTo blockSize payload

def writable (n : Int) : Bool := n.natAbs < Nat.pow 10 Text.Numeral.digitLimit

def Entry.lead (e : Entry) (now : Int) : Bytes :=
  extension (e.records now) ++ (e.header now).block

def encode (e : Entry) (content : Bytes) (now : Int) : Except EncodingFlaw Bytes := do
  e.checkSize content.length
  if !(writable e.uid && writable e.gid && writable now) then throw (.tooManyDigits e)
  if let some u := Text.unescapable? e.name then throw (.unencodable e u)
  if maxEntrySize < ((e.records now).flatMap Record.bytes).length then throw (.oversizedRecords e)
  let used := e.lead now ++ Bytes.padTo blockSize content ++ Bytes.zeros (2 * blockSize)
  return Bytes.padTo archiveUnit used

end ContainerDriver.Archive
