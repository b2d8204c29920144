import ContainerDriver.Archive.Decode
import ContainerDriver.Command.Basic
import ContainerDriver.Engine.Script
import ContainerDriver.Engine.Sink
import ContainerDriver.Error

/-! What operations act on: the engine, the sinks, processes that still run, and a journal of all
that happened, oldest entry first. -/
namespace ContainerDriver

inductive SinkId where
  | given (name : String)
  | own (number : Nat)
  deriving DecidableEq, Repr

inductive Stream where
  | discard
  | pipe
  | sink (id : SinkId)
  deriving DecidableEq, Repr

structure Attempt where
  command : Command
  env : Environment
  stdin : Stream
  stdout : Stream
  stderr : Stream
  input : Option Bytes
  answer : Answer
  deriving DecidableEq, Repr

def Attempt.launched (a : Attempt) : Bool :=
  match a.answer with
  | .exits _ _ => true
  | _ => false

inductive Entry where
  | event (e : Event)
  | attempt (a : Attempt)
  | wrote (sink : SinkId) (data : Bytes)
  | flushed (sink : SinkId)
  | received (sink : SinkId) (data : Bytes)
  | connected (pid : Nat)
  deriving Repr, BEq

structure Child where
  pid : Nat
  code : Int
  chunks : List Chunk
  stdout : Stream
  stderr : Stream
  -- The sink that the error stream is copied to while the process runs.
  forwarder : Option SinkId
  deriving DecidableEq, Repr

structure World where
  script : Script := []
  nextPid : Nat := 1001
  parent : Environment := []
  now : Int := 0
  closed : Bool := false
  sinks : List (SinkId × Sink) := []
  ownSinks : Nat := 0
  processes : List Child := []
  journal : List Entry := []
  deriving Repr, BEq

inductive Fault where
  | error (e : Error)
  | missingId (image : Text)
  | malformedItem
  | mishap (m : Archive.Mishap)
  | unencodable (e : Text.Unencodable)
  | launchRefused (r : Refusal)
  | connectorRefused
  deriving DecidableEq, Repr

abbrev Op := ExceptT Fault (StateM World)

namespace World

def record (w : World) (e : Entry) : World := { w with journal := w.journal ++ [e] }

def recordEvents (w : World) (es : List Event) : World :=
  { w with journal := w.journal ++ es.map .event }

def sink? (w : World) (id : SinkId) : Option Sink := Table.get? id w.sinks

def putSink (w : World) (id : SinkId) (s : Sink) : World := { w with sinks := Table.set id s w.sinks }

def write (w : World) (id : SinkId) (data : Bytes) : World :=
  match w.sink? id with
  | none => w
  | some s => ((w.record (.wrote id data)).putSink id (s.write data).1).recordEvents (s.write data).2

def flush (w : World) (id : SinkId) : World :=
  match w.sink? id with
  | none => w
  | some s =>
    if s.canFlush then ((w.record (.flushed id)).putSink id s.flush.1).recordEvents s.flush.2 else w

def receive (w : World) (id : SinkId) (data : Bytes) : World :=
  match w.sink? id with
  | none => w
  | some s =>
    if s.hasDescriptor then (w.record (.received id data)).putSink id (s.receive data) else w

/-- Only sinks of the caller can have a descriptor. -/
def hasDescriptor (w : World) : SinkId → Bool
  | .given name => ((w.sink? (.given name)).map Sink.hasDescriptor).getD false
  | .own _ => false

def deliver (w : World) (stdout stderr : Stream) (chunks : List Chunk) : World :=
  chunks.foldl (fun w c =>
    match c, stdout, stderr with
    | .out data, .sink id, _ => w.receive id data
    | .err data, _, .sink id => w.receive id data
    | _, _, _ => w) w

def finish (w : World) (p : Child) : World :=
  let w := w.deliver p.stdout p.stderr p.chunks
  match p.forwarder with
  | none => w
  | some id =>
    (if Chunk.stderrOf p.chunks = [] then w else w.write id (Chunk.stderrOf p.chunks)).flush id

def settle (w : World) : World :=
  { w.processes.foldl finish w with processes := [] }

end World

namespace Op

def emit (e : Event) : Op Unit := modify (·.record (.event e))

def fail {α : Type} (e : Error) : Op α := throw (.error e)

def ownSink (context : List (String × Value)) : Op SinkId := do
  let w ← get
  let id := SinkId.own w.ownSinks
  set { w.putSink id (.lines { context }) with ownSinks := w.ownSinks + 1 }
  return id

def sinkOr (log : Option SinkId) (context : List (String × Value)) : Op SinkId :=
  match log with
  | some id => pure id
  | none => ownSink context

/-- Runs `handler` on typed errors only, before the error goes on. -/
def onError {α : Type} (p : Op α) (handler : Op Unit) : Op α :=
  tryCatch p fun
    | .error e => do
      handler
      throw (.error e)
    | f => throw f

end Op
end ContainerDriver
