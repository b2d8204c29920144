import ContainerDriver.Event
import ContainerDriver.Text.Utf8

/-! Where log bytes go. A line sink makes an event of every complete line that holds text; a file
keeps what is written to it until it is flushed, and has a descriptor that engine processes can
write to directly. -/
namespace ContainerDriver

structure LineSink where
  title : String := "engine output"
  context : List (String × Value) := []
  pending : Bytes := []
  deriving Repr, BEq

namespace LineSink

def newline : UInt8 := 0x0A

def carriageReturn : Char := Char.ofNat 0x0D

def lineText (line : Bytes) : List Char :=
  ((Text.Utf8.decodeReplacing line).reverse.dropWhile (· = carriageReturn)).reverse

def event? (s : LineSink) (line : Bytes) : Option Event :=
  if (lineText line).isEmpty then none
  else some (.line s.title (String.ofList (lineText line)) s.context)

def write (s : LineSink) (data : Bytes) : LineSink × List Event :=
  let parts := Bytes.split newline (s.pending ++ data)
  ({ s with pending := parts.getLastD [] }, parts.dropLast.filterMap s.event?)

def flush (s : LineSink) : LineSink × List Event :=
  if s.pending = [] then (s, []) else ({ s with pending := [] }, (s.event? s.pending).toList)

end LineSink

inductive Sink where
  | memory (content : Bytes)
  /-- A buffered file: what has arrived, and what is written but not flushed. -/
  | file (content pending : Bytes)
  | bare (content : Bytes)
  | null
  | lines (s : LineSink)
  deriving Repr, BEq

namespace Sink

def write : Sink → Bytes → Sink × List Event
  | memory content, data => (memory (content ++ data), [])
  | file content pending, data => (file content (pending ++ data), [])
  | bare content, data => (bare (content ++ data), [])
  | null, _ => (null, [])
  | lines s, data => (lines (s.write data).1, (s.write data).2)

def flush : Sink → Sink × List Event
  | file content pending => (file (content ++ pending) [], [])
  | lines s => (lines s.flush.1, s.flush.2)
  | s => (s, [])

def canFlush : Sink → Bool
  | bare _ | null => false
  | _ => true

def hasDescriptor : Sink → Bool
  | file _ _ => true
  | _ => false

def receive : Sink → Bytes → Sink
  | file content pending, data => file (content ++ data) pending
  | s, _ => s

def content : Sink → Bytes
  | memory content | file content _ | bare content => content
  | _ => []

def pending : Sink → Bytes
  | file _ pending => pending
  | lines s => s.pending
  | _ => []

inductive Call where
  | write (data : Bytes)
  | flush
  deriving DecidableEq, Repr

structure Reply where
  taken : Option Nat := none
  events : List Event := []
  deriving Repr, BEq

def call (s : Sink) : Call → Sink × Reply
  | .write data => ((s.write data).1, { taken := some data.length, events := (s.write data).2 })
  | .flush => (s.flush.1, { events := s.flush.2 })

def calls (s : Sink) : List Call → Sink × List Reply
  | [] => (s, [])
  | c :: rest => (((s.call c).1.calls rest).1, (s.call c).2 :: ((s.call c).1.calls rest).2)

end Sink
end ContainerDriver
