import ContainerDriver.Engine.Client
import ContainerDriver.Proofs.Text.Surrogates
import Mathlib

/-! The part of the world that logging leaves alone: the engine, the clock, and on record what was
asked of the engine and which processes were handed on. Nothing that is done to a sink shows in it,
and a launch asks the engine once. -/
namespace ContainerDriver

structure Ask where
  command : Command
  env : Environment
  input : Option Bytes
  answer : Answer
  deriving DecidableEq, Repr

namespace Entry

def ask? : Entry → Option Ask
  | attempt a => some ⟨a.command, a.env, a.input, a.answer⟩
  | _ => none

def connection? : Entry → Option Nat
  | connected pid => some pid
  | _ => none

def Silent (e : Entry) : Prop := e.ask? = none ∧ e.connection? = none

end Entry

structure Core where
  script : Script
  nextPid : Nat
  parent : Environment
  now : Int
  closed : Bool
  asks : List Ask
  connections : List Nat
  deriving DecidableEq, Repr

def World.core (w : World) : Core :=
  ⟨w.script, w.nextPid, w.parent, w.now, w.closed, w.journal.filterMap Entry.ask?,
   w.journal.filterMap Entry.connection?⟩

def Command.unshown? (verbose : Bool) (c : Command) : Option Text.Unencodable :=
  if verbose then Text.unencodable? c.announcement else none

theorem Command.unshownNone {verbose : Bool} {c : Command} :
    c.unshown? verbose = none ↔ (verbose = true → c.render.Unicode) := by
  unfold unshown?
  cases verbose with
  | false => simp
  | true =>
    rw [if_pos rfl, Text.unencodableNone, announcement, Text.unicodeAppend, Text.unicodeAppend]
    exact ⟨fun parts _ => parts.1.2,
      fun line => ⟨⟨Text.unicodeString _, line rfl⟩, Text.unicodeString _⟩⟩

def Answer.outcome (binary : Text) : Answer → Except Fault (Int × List Chunk)
  | exits code chunks => .ok (code, chunks)
  | fails e => .error (.error (.launch binary e.reason))
  | refuses r => .error (.launchRefused r)

namespace Core

def answer (k : Core) (command : Command) (barred : Option Answer := none) : Answer :=
  (Bridge.reply k.script k.parent command barred).1

def asked (k : Core) (command : Command) (input : Option Bytes) (barred : Option Answer := none) :
    Ask :=
  ⟨command, Bridge.childEnv k.parent command, input, k.answer command barred⟩

def ask (k : Core) (command : Command) (input : Option Bytes) (barred : Option Answer := none) :
    Core :=
  { k with
    script := (Bridge.reply k.script k.parent command barred).2
    nextPid := match k.answer command barred with
      | .exits _ _ => k.nextPid + 1
      | _ => k.nextPid
    asks := k.asks ++ [k.asked command input barred] }

def call (k : Core) (verbose : Bool) (command : Command) (input : Option Bytes)
    (barred : Option Answer := none) : Except Fault (Int × List Chunk) × Core :=
  match command.unshown? verbose with
  | some e => (.error (.unencodable e), k)
  | none => ((k.answer command barred).outcome command.binary, k.ask command input barred)

theorem callDone {k : Core} {verbose : Bool} {command : Command} {input : Option Bytes}
    {barred : Option Answer} {out : Int × List Chunk}
    (done : (k.call verbose command input barred).1 = .ok out) :
    command.unshown? verbose = none ∧ k.answer command barred = .exits out.1 out.2 ∧
      (k.call verbose command input barred).2 = k.ask command input barred := by
  unfold call at *
  cases shown : command.unshown? verbose with
  | some e =>
    rw [shown] at done
    cases done
  | none =>
    rw [shown] at done
    refine ⟨rfl, ?_, rfl⟩
    cases answer : k.answer command barred with
    | exits code chunks =>
      rw [answer] at done
      cases done
      rfl
    | fails | refuses =>
      rw [answer] at done
      cases done

theorem callAsks (k : Core) (verbose : Bool) (command : Command) (input : Option Bytes)
    (barred : Option Answer := none) : (k.call verbose command input barred).2.asks =
      k.asks ++ if command.unshown? verbose = none then [k.asked command input barred] else [] := by
  unfold call
  cases command.unshown? verbose with
  | none => rfl
  | some e => exact (List.append_nil _).symm

theorem callFrame (k : Core) (verbose : Bool) (command : Command) (input : Option Bytes)
    (barred : Option Answer := none) :
    (k.call verbose command input barred).2.closed = k.closed ∧
      (k.call verbose command input barred).2.connections = k.connections := by
  unfold call
  cases command.unshown? verbose <;> exact ⟨rfl, rfl⟩

theorem callNextPid {k : Core} {verbose : Bool} {command : Command} {input : Option Bytes}
    {barred : Option Answer} {out : Int × List Chunk}
    (done : (k.call verbose command input barred).1 = .ok out) :
    (k.call verbose command input barred).2.nextPid = k.nextPid + 1 := by
  obtain ⟨-, answer, asked⟩ := callDone done
  rw [asked]
  simp only [ask, answer]

def connect (k : Core) (pid : Nat) : Core := { k with connections := k.connections ++ [pid] }

end Core

namespace LineSink

theorem eventLine {s : LineSink} {line : Bytes} {e : Event} (made : s.event? line = some e) :
    e.isControl = false := by
  unfold event? at made
  split at made
  · cases made
  · cases made
    rfl

end LineSink

namespace Sink

def emptied : Sink → Sink
  | memory _ => memory []
  | file _ _ => file [] []
  | bare _ => bare []
  | null => null
  | lines _ => lines {}

theorem writeEmptied (s : Sink) (data : Bytes) : (s.write data).1.emptied = s.emptied := by
  cases s <;> rfl

theorem flushEmptied (s : Sink) : s.flush.1.emptied = s.emptied := by cases s <;> rfl

theorem receiveEmptied (s : Sink) (data : Bytes) : (s.receive data).emptied = s.emptied := by
  cases s <;> rfl

theorem writeLines (s : Sink) (data : Bytes) : ∀ e ∈ (s.write data).2, e.isControl = false := by
  cases s with
  | lines s =>
    intro e made
    obtain ⟨line, -, shown⟩ := List.mem_filterMap.mp made
    exact LineSink.eventLine shown
  | _ => simp [write]

theorem flushLines (s : Sink) : ∀ e ∈ s.flush.2, e.isControl = false := by
  cases s with
  | lines s =>
    simp only [flush, LineSink.flush]
    split
    · simp
    · exact fun e made => LineSink.eventLine (Option.mem_toList.mp made)
  | _ => simp [flush]

end Sink

/-- A view that shows nothing of what is done to sinks, nothing in them, and no lines of output. -/
structure World.Deaf {α : Type} (view : World → α) : Prop where
  wrote (w : World) (id : SinkId) (data : Bytes) : view (w.record (.wrote id data)) = view w
  flushed (w : World) (id : SinkId) : view (w.record (.flushed id)) = view w
  received (w : World) (id : SinkId) (data : Bytes) : view (w.record (.received id data)) = view w
  lines (w : World) {es : List Event} :
    (∀ e ∈ es, e.isControl = false) → view (w.recordEvents es) = view w
  putSink (w : World) {id : SinkId} {s s' : Sink} :
    w.sink? id = some s → s'.emptied = s.emptied → view (w.putSink id s') = view w

namespace World.Deaf

variable {α : Type} {view : World → α} (deaf : Deaf view)

include deaf

theorem write (w : World) (id : SinkId) (data : Bytes) : view (w.write id data) = view w := by
  unfold World.write
  cases has : w.sink? id with
  | none => rfl
  | some s =>
    have put := deaf.putSink (w.record (.wrote id data)) has (s.writeEmptied data)
    rw [deaf.lines _ (s.writeLines data), put, deaf.wrote]

theorem flush (w : World) (id : SinkId) : view (w.flush id) = view w := by
  unfold World.flush
  cases has : w.sink? id with
  | none => rfl
  | some s =>
    dsimp only
    split
    · have put := deaf.putSink (w.record (.flushed id)) has s.flushEmptied
      rw [deaf.lines _ s.flushLines, put, deaf.flushed]
    · rfl

theorem receive (w : World) (id : SinkId) (data : Bytes) : view (w.receive id data) = view w := by
  unfold World.receive
  cases has : w.sink? id with
  | none => rfl
  | some s =>
    dsimp only
    split
    · have put := deaf.putSink (w.record (.received id data)) has (s.receiveEmptied data)
      rw [put, deaf.received]
    · rfl

theorem deliver (w : World) (stdout stderr : Stream) (chunks : List Chunk) :
    view (w.deliver stdout stderr chunks) = view w := by
  unfold World.deliver
  induction chunks generalizing w with
  | nil => rfl
  | cons chunk rest ih =>
    rw [List.foldl_cons, ih]
    split
    · exact deaf.receive w _ _
    · exact deaf.receive w _ _
    · rfl

theorem finish (w : World) (p : Child) : view (w.finish p) = view w := by
  unfold World.finish
  cases p.forwarder with
  | none => exact deaf.deliver w _ _ _
  | some id =>
    dsimp only
    rw [deaf.flush]
    split
    · exact deaf.deliver w _ _ _
    · rw [deaf.write, deaf.deliver]

theorem finishAll (ps : List Child) (w : World) : view (ps.foldl World.finish w) = view w := by
  induction ps generalizing w with
  | nil => rfl
  | cons p rest ih => rw [List.foldl_cons, ih, deaf.finish]

end World.Deaf

namespace World

theorem recordSilent (w : World) {e : Entry} (silent : e.Silent) : (w.record e).core = w.core := by
  simp [core, record, silent.1, silent.2]

theorem recordEventsSilent (w : World) (es : List Event) : (w.recordEvents es).core = w.core := by
  have asks : (es.map Entry.event).filterMap Entry.ask? = [] := by
    simp [List.filterMap_eq_nil_iff, Entry.ask?]
  have connections : (es.map Entry.event).filterMap Entry.connection? = [] := by
    simp [List.filterMap_eq_nil_iff, Entry.connection?]
  simp [core, recordEvents, asks, connections]

theorem coreDeaf : Deaf core where
  wrote w _ _ := w.recordSilent ⟨rfl, rfl⟩
  flushed w _ := w.recordSilent ⟨rfl, rfl⟩
  received w _ _ := w.recordSilent ⟨rfl, rfl⟩
  lines w es _ := w.recordEventsSilent es
  putSink _ _ _ _ _ _ := rfl

theorem writeSilent (w : World) (id : SinkId) (data : Bytes) : (w.write id data).core = w.core :=
  coreDeaf.write w id data

theorem flushSilent (w : World) (id : SinkId) : (w.flush id).core = w.core := coreDeaf.flush w id

theorem settleSilent (w : World) : w.settle.core = w.core := coreDeaf.finishAll w.processes w

end World

namespace Op

variable {α β : Type} {p : Op α} {q : α → Op β} {w w' : World}

theorem bindOk {a : α} (ran : (p.run w).run = (.ok a, w')) :
    ((p >>= q).run w).run = ((q a).run w').run := by
  simp only [Id.run, ExceptT.run, bind, ExceptT.bind, ExceptT.mk, StateT.bind] at *
  rw [ran]
  rfl

theorem bindError {f : Fault} (ran : (p.run w).run = (.error f, w')) :
    ((p >>= q).run w).run = (.error f, w') := by
  simp only [Id.run, ExceptT.run, bind, ExceptT.bind, ExceptT.mk, StateT.bind] at *
  rw [ran]
  rfl

theorem mapRan (g : α → β) (p : Op α) (w : World) :
    ((g <$> p).run w).run = (((p.run w).run.1).map g, (p.run w).run.2) := by
  rw [map_eq_pure_bind]
  cases ran : (p.run w).run with
  | mk r w' =>
    cases r with
    | error f => exact bindError ran
    | ok a => exact bindOk ran

theorem catchOk {handler : Fault → Op α} {a : α} (ran : (p.run w).run = (.ok a, w')) :
    ((tryCatch p handler).run w).run = (.ok a, w') := by
  simp only [Id.run, ExceptT.run, tryCatch, tryCatchThe, MonadExceptOf.tryCatch, ExceptT.tryCatch,
    ExceptT.mk, bind, StateT.bind] at *
  rw [ran]
  rfl

theorem catchError {handler : Fault → Op α} {f : Fault} (ran : (p.run w).run = (.error f, w')) :
    ((tryCatch p handler).run w).run = ((handler f).run w').run := by
  simp only [Id.run, ExceptT.run, tryCatch, tryCatchThe, MonadExceptOf.tryCatch, ExceptT.tryCatch,
    ExceptT.mk, bind, StateT.bind] at *
  rw [ran]

end Op

def Ends {α : Type} (p : Op α) (w : World) (r : Except Fault α) (k : Core) : Prop :=
  ∃ w', (p.run w).run = (r, w') ∧ w'.core = k

namespace Ends

variable {α β : Type} {p : Op α} {q : α → Op β} {w : World} {k k' : Core}

theorem value (a : α) (core : w.core = k) : Ends (pure a) w (.ok a) k := ⟨w, rfl, core⟩

theorem failure (f : Fault) (core : w.core = k) : Ends (throw f : Op α) w (.error f) k :=
  ⟨w, rfl, core⟩

theorem after {a : α} {r : Except Fault β} {w' : World} (ran : (p.run w).run = (.ok a, w'))
    (next : Ends (q a) w' r k') : Ends (p >>= q) w r k' := by
  obtain ⟨w'', ran', core⟩ := next
  exact ⟨w'', (Op.bindOk ran).trans ran', core⟩

theorem step {a : α} {r : Except Fault β} (first : Ends p w (.ok a) k)
    (next : ∀ w', w'.core = k → Ends (q a) w' r k') : Ends (p >>= q) w r k' := by
  obtain ⟨w', ran, core⟩ := first
  exact .after ran (next w' core)

theorem stop {f : Fault} (first : Ends p w (.error f) k) : Ends (p >>= q) w (.error f) k := by
  obtain ⟨w', ran, core⟩ := first
  exact ⟨w', Op.bindError ran, core⟩

theorem mapped {γ : Type} {r : Except Fault γ} {give : γ → α} {last : γ → β}
    (first : Ends p w (r.map give) k)
    (next : ∀ c w', w'.core = k → Ends (q (give c)) w' (.ok (last c)) k) :
    Ends (p >>= q) w (r.map last) k := by
  cases r with
  | error f => exact .stop first
  | ok c => exact .step first (next c)

theorem current (w : World) : Ends (get : Op World) w (.ok w) w.core := ⟨w, rfl, rfl⟩

theorem change {f : World → World} (core : (f w).core = k) :
    Ends (modify f : Op PUnit) w (.ok ⟨⟩) k := ⟨f w, rfl, core⟩

theorem caught {handler : Fault → Op α} {r : Except Fault α} {f : Fault}
    (first : Ends p w (.error f) k) (next : ∀ w', w'.core = k → Ends (handler f) w' r k') :
    Ends (tryCatch p handler) w r k' := by
  obtain ⟨w', ran, core⟩ := first
  obtain ⟨w'', ran', core'⟩ := next w' core
  exact ⟨w'', (Op.catchError ran).trans ran', core'⟩

theorem uncaught {handler : Fault → Op α} {a : α} (first : Ends p w (.ok a) k) :
    Ends (tryCatch p handler) w (.ok a) k := by
  obtain ⟨w', ran, core⟩ := first
  exact ⟨w', Op.catchOk ran, core⟩

end Ends

namespace Op

variable {w : World} {k : Core}

theorem emitEnds (e : Event) (core : w.core = k) : Ends (emit e) w (.ok ()) k :=
  .change (by rw [World.recordSilent w ⟨rfl, rfl⟩, core])

theorem sinkOrEnds (log : Option SinkId) (context : List (String × Value)) (core : w.core = k) :
    ∃ id, Ends (sinkOr log context) w (.ok id) k := by
  subst core
  cases log with
  | some id => exact ⟨id, .value id rfl⟩
  | none => exact ⟨.own w.ownSinks, _, rfl, rfl⟩

end Op

namespace Bridge

variable {w : World} {k : Core}

def conclude (w : World) (command : Command) (stdin stdout stderr : Stream) (input : Option Bytes)
    (answer : Answer) (script : Script) : Op (Nat × Int × List Chunk) := do
  let w := { w with script }.record
    (.attempt ⟨command, childEnv w.parent command, stdin, stdout, stderr, input, answer⟩)
  match answer with
  | .exits code chunks =>
    set { w with nextPid := w.nextPid + 1 }
    return (w.nextPid, code, chunks)
  | .fails e =>
    set w
    Op.fail (.launch command.binary e.reason)
  | .refuses r =>
    set w
    throw (.launchRefused r)

theorem launchConcludes (w : World) (command : Command) (stdin stdout stderr : Stream)
    (input : Option Bytes) : ((launch command stdin stdout stderr input).run w).run =
      ((conclude w command stdin stdout stderr input
        (reply w.script w.parent command (unattachable? w stdout)).1
        (reply w.script w.parent command (unattachable? w stdout)).2).run w).run := rfl

theorem launchEnds (command : Command) (stdin stdout stderr : Stream) (input : Option Bytes)
    (core : w.core = k) : Ends (launch command stdin stdout stderr input) w
      (((k.answer command (unattachable? w stdout)).outcome command.binary).map
        fun out => (k.nextPid, out))
      (k.ask command input (unattachable? w stdout)) := by
  subst core
  have ran := launchConcludes w command stdin stdout stderr input
  have answered : w.core.answer command (unattachable? w stdout) =
    (reply w.script w.parent command (unattachable? w stdout)).1 := rfl
  unfold Core.ask Core.asked
  rw [answered]
  cases reply : (reply w.script w.parent command (unattachable? w stdout)).1 with
  | exits code chunks =>
    rw [reply] at ran
    exact ⟨_, ran, by simp [World.core, World.record, Entry.ask?, Entry.connection?]⟩
  | fails e =>
    rw [reply] at ran
    exact ⟨_, ran, by simp [World.core, World.record, Entry.ask?, Entry.connection?]⟩
  | refuses r =>
    rw [reply] at ran
    exact ⟨_, ran, by simp [World.core, World.record, Entry.ask?, Entry.connection?]⟩

end Bridge
end ContainerDriver
