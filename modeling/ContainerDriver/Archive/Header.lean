import ContainerDriver.Archive.Field

/-! Header blocks. A block is written from the fields that a plain file needs, and carries the sum
of its own bytes. -/
namespace ContainerDriver.Archive

namespace Flag
def regular : UInt8 := 0x30
def oldRegular : UInt8 := 0
def hardLink : UInt8 := 0x31
def symbolicLink : UInt8 := 0x32
def characterDevice : UInt8 := 0x33
def blockDevice : UInt8 := 0x34
def directory : UInt8 := 0x35
def fifo : UInt8 := 0x36
def contiguous : UInt8 := 0x37
def sparse : UInt8 := 0x53
def longName : UInt8 := 0x4C
def longLink : UInt8 := 0x4B
def attributes : UInt8 := 0x78
def oldAttributes : UInt8 := 0x58
def globalAttributes : UInt8 := 0x67

def isRegular (f : UInt8) : Bool :=
  [regular, oldRegular, contiguous, sparse].contains f

def isBare (f : UInt8) : Bool :=
  [hardLink, symbolicLink, directory, fifo, characterDevice, blockDevice, longName, longLink].contains f
end Flag

structure Header where
  name : Bytes
  mode : Nat
  uid : Nat
  gid : Nat
  size : Nat
  mtime : Nat
  flag : UInt8
  deriving DecidableEq, Repr

namespace Header

def front (h : Header) : Bytes :=
  Field.text 100 h.name ++ Field.number 8 h.mode ++ Field.number 8 h.uid ++ Field.number 8 h.gid
    ++ Field.number 12 h.size ++ Field.number 12 h.mtime

def magic : Bytes := Bytes.ofAscii "ustar" ++ [0] ++ Bytes.ofAscii "00"

def back (h : Header) : Bytes :=
  h.flag :: Bytes.zeros 100 ++ magic ++ Bytes.zeros 247

/-- The sum counts its own field as eight blanks. -/
def checksum (h : Header) : Nat := Field.sum h.front + 8 * 0x20 + Field.sum h.back

def block (h : Header) : Bytes :=
  h.front ++ (Field.octal 6 h.checksum ++ [0, 0x20]) ++ h.back

end Header
end ContainerDriver.Archive
