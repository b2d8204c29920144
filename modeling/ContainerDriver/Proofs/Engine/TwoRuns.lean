import ContainerDriver.Proofs.Engine.Core

/-! Two runs side by side. What a world shows is all of its journal but the command lines that were
tried; a world without these and without its engine is veiled. Whatever is written to a sink, and
whatever a process delivers, acts on a world as on its veiled one, so two runs can differ only where
a command is launched. -/
namespace ContainerDriver

def Entry.isShown : Entry → Bool
  | attempt _ => false
  | _ => true

namespace World

def shown (w : World) : List Entry := w.journal.filter Entry.isShown

def veiled (w : World) : World := { w with script := [], journal := w.shown }

def Blind (f : World → World) : Prop := ∀ w, (f w).veiled = f w.veiled

theorem recordBlind {e : Entry} (shown : e.isShown = true) : Blind (record · e) := by
  intro w
  simp [veiled, record, World.shown, shown]

theorem recordEventsBlind (es : List Event) : Blind (recordEvents · es) := by
  intro w
  have kept : (es.map Entry.event).filter Entry.isShown = es.map Entry.event := by
    simp [List.filter_eq_self, Entry.isShown]
  simp [veiled, recordEvents, World.shown, kept]

theorem putSinkBlind (id : SinkId) (s : Sink) : Blind (putSink · id s) := fun _ => rfl

theorem sinkVeiled (w : World) (id : SinkId) : w.veiled.sink? id = w.sink? id := rfl

theorem writeBlind (id : SinkId) (data : Bytes) : Blind (write · id data) := by
  intro w
  simp only [write, sinkVeiled]
  cases w.sink? id with
  | none => rfl
  | some s =>
    dsimp only
    rw [recordEventsBlind, putSinkBlind, recordBlind rfl]

theorem flushBlind (id : SinkId) : Blind (flush · id) := by
  intro w
  simp only [flush, sinkVeiled]
  cases w.sink? id with
  | none => rfl
  | some s =>
    dsimp only
    split
    · rw [recordEventsBlind, putSinkBlind, recordBlind rfl]
    · rfl

theorem receiveBlind (id : SinkId) (data : Bytes) : Blind (receive · id data) := by
  intro w
  simp only [receive, sinkVeiled]
  cases w.sink? id with
  | none => rfl
  | some s =>
    dsimp only
    split
    · rw [putSinkBlind, recordBlind rfl]
    · rfl

theorem foldlBlind {α : Type} {f : World → α → World} (each : ∀ a, Blind (f · a)) (as : List α) :
    Blind (as.foldl f) := by
  induction as with
  | nil => exact fun _ => rfl
  | cons a rest ih =>
    intro w
    simp only [List.foldl_cons]
    exact (ih (f w a)).trans (congrArg (rest.foldl f) (each a w))

theorem deliverBlind (stdout stderr : Stream) (chunks : List Chunk) :
    Blind (deliver · stdout stderr chunks) := by
  refine foldlBlind (fun chunk => ?_) chunks
  intro w
  dsimp only
  split
  · exact receiveBlind _ _ w
  · exact receiveBlind _ _ w
  · rfl

theorem finishBlind (p : Child) : Blind (finish · p) := by
  intro w
  simp only [finish]
  cases p.forwarder with
  | none => exact deliverBlind _ _ _ w
  | some id =>
    dsimp only
    rw [flushBlind]
    split
    · rw [deliverBlind]
    · rw [writeBlind, deliverBlind]

theorem settleBlind : Blind settle := by
  intro w
  have finished := foldlBlind finishBlind w.processes w
  exact congrArg (fun v : World => { v with processes := [] }) finished

theorem unattachableKind {w w' : World} (same : ∀ name,
    (w'.sink? (.given name)).map Sink.emptied = (w.sink? (.given name)).map Sink.emptied)
    (stdout : Stream) : Bridge.unattachable? w' stdout = Bridge.unattachable? w stdout := by
  cases stdout with
  | discard => rfl
  | pipe => rfl
  | sink id =>
    cases id with
    | own number => rfl
    | given name =>
      have kind := same name
      cases known : w.sink? (.given name) with
      | none =>
        rw [known, Option.map_none, Option.map_eq_none_iff] at kind
        simp only [Bridge.unattachable?, hasDescriptor, known, kind]
      | some s =>
        rw [known] at kind
        obtain ⟨s', known', emptied⟩ := Option.map_eq_some_iff.mp kind
        simp only [Bridge.unattachable?, hasDescriptor, known, known']
        cases s <;> cases s' <;> first | rfl | cases emptied

theorem unattachableDeaf (stdout : Stream) : Deaf (Bridge.unattachable? · stdout) where
  wrote _ _ _ := unattachableKind (fun _ => rfl) stdout
  flushed _ _ := unattachableKind (fun _ => rfl) stdout
  received _ _ _ := unattachableKind (fun _ => rfl) stdout
  lines _ _ _ := unattachableKind (fun _ => rfl) stdout
  putSink w id s s' has same := by
    refine unattachableKind (fun name => ?_) stdout
    have put : (w.putSink id s').sink? (.given name)
        = if id = .given name then some s' else w.sink? (.given name) := Table.getSet ..
    rw [put]
    split
    · next here =>
      rw [← here, has]
      exact congrArg some same
    · rfl

theorem ownSinkAttached (w : World) (s : Sink) (stdout : Stream) :
    Bridge.unattachable? { w.putSink (.own w.ownSinks) s with ownSinks := w.ownSinks + 1 } stdout
      = Bridge.unattachable? w stdout := by
  refine unattachableKind (fun name => ?_) stdout
  have aside : ({ w.putSink (.own w.ownSinks) s with ownSinks := w.ownSinks + 1 } : World).sink?
      (.given name) = w.sink? (.given name) := (Table.getSet ..).trans (if_neg nofun)
  rw [aside]

end World

def Same (w w' : World) : Prop := w.veiled = w'.veiled

/-- Both worlds show the same. As long as it matters, the engine will give the two commands the same
answer, unless the stream of their output bars them anyway. -/
structure Twins (stdout : Stream) (matters : Prop) (one two : Command) (w w' : World) : Prop where
  same : Same w w'
  answer : matters → Bridge.unattachable? w stdout = none → w.core.answer one = w'.core.answer two

variable {out : Stream} {matters : Prop} {one two : Command} {w w' : World}

theorem Same.read {α : Type} (same : Same w w') {f : World → α} (plain : ∀ w, f w.veiled = f w) :
    f w = f w' :=
  (plain w).symm.trans ((congrArg f same).trans (plain w'))

theorem Same.change {f : World → World} (same : Same w w') (blind : World.Blind f) :
    Same (f w) (f w') :=
  (blind w).trans ((congrArg f same).trans (blind w').symm)

theorem Twins.change {f : World → World} (twins : Twins out matters one two w w')
    (blind : World.Blind f) (silent : ∀ w, (f w).core = w.core)
    (attached : ∀ w, Bridge.unattachable? (f w) out = Bridge.unattachable? w out) :
    Twins out matters one two (f w) (f w') := by
  refine ⟨twins.same.change blind, ?_⟩
  rw [silent, silent, attached]
  exact twins.answer

/-- From worlds that `R` relates both operations come to the same result, and leave worlds that `S`
relates. -/
def Agree {α : Type} (R S : World → World → Prop) (p q : Op α) : Prop :=
  ∀ w w', R w w' → ∃ r v v', (p.run w).run = (r, v) ∧ (q.run w').run = (r, v') ∧ S v v'

namespace Agree

variable {α β : Type} {R S T : World → World → Prop} {p p' : Op α} {q q' : α → Op β}

theorem value (a : α) : Agree R R (pure a) (pure a) := fun w w' rel => ⟨_, w, w', rfl, rfl, rel⟩

theorem failure (f : Fault) : Agree R R (throw f : Op α) (throw f) :=
  fun w w' rel => ⟨_, w, w', rfl, rfl, rel⟩

theorem change {f g : World → World} (kept : ∀ w w', R w w' → S (f w) (g w')) :
    Agree R S (modify f : Op PUnit) (modify g) :=
  fun w w' rel => ⟨_, f w, g w', rfl, rfl, kept w w' rel⟩

theorem step (first : Agree R S p p') (next : ∀ a, Agree S T (q a) (q' a))
    (stopped : ∀ w w', S w w' → T w w') : Agree R T (p >>= q) (p' >>= q') := by
  intro w w' rel
  obtain ⟨r, v, v', ran, ran', later⟩ := first w w' rel
  cases r with
  | error f => exact ⟨.error f, v, v', Op.bindError ran, Op.bindError ran', stopped v v' later⟩
  | ok a =>
    obtain ⟨r, u, u', ends, ends', last⟩ := next a v v' later
    exact ⟨r, u, u', (Op.bindOk ran).trans ends, (Op.bindOk ran').trans ends', last⟩

theorem look {q q' : World → Op β} (next : ∀ v v', R v v' → Agree R S (q v) (q' v')) :
    Agree R S (get >>= q) (get >>= q') :=
  fun w w' rel => next w w' rel w w' rel

end Agree

theorem Op.emitAgrees (e : Event) :
    Agree (Twins out matters one two) (Twins out matters one two) (Op.emit e) (Op.emit e) :=
  .change fun _ _ twins => twins.change (World.recordBlind rfl) (fun w => w.recordSilent ⟨rfl, rfl⟩)
    fun _ => by cases out <;> rfl

theorem Op.sinkOrAgrees (log : Option SinkId) (context : List (String × Value)) :
    Agree (Twins out matters one two) (Twins out matters one two) (Op.sinkOr log context)
      (Op.sinkOr log context) := by
  cases log with
  | some id => exact .value id
  | none =>
    intro w w' twins
    have number : w.ownSinks = w'.ownSinks := twins.same.read fun _ => rfl
    let f (w : World) : World :=
      { w.putSink (.own w.ownSinks) (.lines { context }) with ownSinks := w.ownSinks + 1 }
    have kept : Twins out matters one two (f w) (f w') :=
      twins.change (f := f) (fun _ => rfl) (fun _ => rfl) fun w => w.ownSinkAttached _ out
    exact ⟨.ok (.own w.ownSinks), f w, f w', rfl, by rw [number]; rfl, kept⟩

namespace Bridge

theorem announceAgrees (verbose : Bool) (render : one.render = two.render) (log : SinkId) :
    Agree (Twins out matters one two) (Twins out matters one two) (announce verbose one log)
      (announce verbose two log) := by
  unfold announce Command.announcement
  rw [render]
  refine .step (Op.emitAgrees _) (fun _ => ?_) fun _ _ twins => twins
  split
  · split
    · exact .failure _
    · refine .step (.change fun _ _ twins => twins.change (World.writeBlind _ _) ?_ ?_) (fun _ => ?_)
        fun _ _ twins => twins
      · exact fun w => w.writeSilent _ _
      · exact fun w => (World.unattachableDeaf out).write w _ _
      · exact .change fun _ _ twins => twins.change (World.flushBlind _)
          (fun w => w.flushSilent _) fun w => (World.unattachableDeaf out).flush w _
  · exact .value _

theorem announceStopsAgrees {α : Type} {verbose : Bool} (render : one.render = two.render)
    {e : Text.Unencodable} (unshown : one.unshown? verbose = some e) (log : SinkId) (p q : Op α) :
    Agree (Twins out matters one two) (Twins out matters one two) (do announce verbose one log; p)
      (do announce verbose two log; q) := by
  cases verbose with
  | false => cases unshown
  | true =>
    have unencodable : Text.unencodable? one.announcement = some e := unshown
    have same : two.announcement = one.announcement := by
      rw [Command.announcement, Command.announcement, render]
    unfold announce
    rw [if_pos rfl, if_pos rfl, same, unencodable, ← render]
    simp only [bind_assoc]
    refine .step (Op.emitAgrees _) (fun _ => ?_) fun _ _ twins => twins
    exact fun w w' twins => ⟨.error (.unencodable e), w, w', rfl, rfl, twins⟩

theorem launchAgrees (live : matters) (binary : one.binary = two.binary)
    (stdin stderr : Stream) (input : Option Bytes) :
    Agree (Twins out matters one two) Same (launch one stdin out stderr input)
      (launch two stdin out stderr input) := by
  intro w w' twins
  have ran := launchConcludes w one stdin out stderr input
  have ran' := launchConcludes w' two stdin out stderr input
  have barred : unattachable? w out = unattachable? w' out :=
    twins.same.read (f := (unattachable? · out)) fun _ => by cases out <;> rfl
  have answer : (reply w.script w.parent one (unattachable? w out)).1
      = (reply w'.script w'.parent two (unattachable? w' out)).1 := by
    rw [← barred]
    cases free : unattachable? w out with
    | some a => rfl
    | none => exact twins.answer live free
  have pid : w.nextPid = w'.nextPid := twins.same.read fun _ => rfl
  -- Only the attempt and the engine tell the worlds apart, and the veil hides both.
  have veiled (script script' : Script) (a a' : Attempt) :
      Same ({ w with script }.record (.attempt a))
        ({ w' with script := script' }.record (.attempt a')) := by
    have hidden (w : World) (script : Script) (a : Attempt) :
        ({ w with script }.record (.attempt a)).veiled = w.veiled := by
      simp [World.veiled, World.record, World.shown, Entry.isShown]
    rw [Same, hidden, hidden]
    exact twins.same
  rw [← answer] at ran'
  cases reply : (reply w.script w.parent one (unattachable? w out)).1 with
  | exits code chunks =>
    rw [reply] at ran ran'
    refine ⟨.ok (w.nextPid, code, chunks), _, _, ran, by rw [pid]; exact ran', ?_⟩
    exact (veiled _ _ _ _).change (f := fun v => { v with nextPid := v.nextPid + 1 }) fun _ => rfl
  | fails e =>
    rw [reply] at ran ran'
    exact ⟨.error (.error (.launch one.binary e.reason)), _, _, ran, by rw [binary]; exact ran',
      veiled _ _ _ _⟩
  | refuses r =>
    rw [reply] at ran ran'
    exact ⟨.error (.launchRefused r), _, _, ran, ran', veiled _ _ _ _⟩

theorem startAgrees (verbose : Bool) (render : one.render = two.render)
    (binary : one.binary = two.binary) (live : one.unshown? verbose = none → matters)
    (interactive : Bool) (stdout : Stream) (log : Option SinkId) :
    Agree (Twins (if interactive then .pipe else stdout) matters one two) Same
      (start verbose one interactive stdout log) (start verbose two interactive stdout log) := by
  have weaker : ∀ w w', Twins (if interactive then .pipe else stdout) matters one two w w' →
      Same w w' := fun _ _ twins => twins.same
  unfold start defaultContext
  rw [render]
  refine .step (Op.sinkOrAgrees _ _) (fun log => ?_) weaker
  cases shown : one.unshown? verbose with
  | some e =>
    intro w w' twins
    obtain ⟨r, v, v', ran, ran', later⟩ := announceStopsAgrees render shown log _ _ w w' twins
    exact ⟨r, v, v', ran, ran', later.same⟩
  | none =>
  refine .step (announceAgrees verbose render log) (fun _ => ?_) weaker
  refine .look fun v v' twins => ?_
  have stderr : errorStream v log = errorStream v' log :=
    twins.same.read (f := (errorStream · log)) fun _ => by cases log <;> rfl
  rw [stderr]
  refine .step (launchAgrees (live shown) binary _ _ _) (fun out => ?_) fun _ _ same => same
  let process : Child := ⟨out.1, out.2.1, out.2.2, if interactive then .pipe else stdout,
    errorStream v' log, if errorStream v' log = .pipe then some log else none⟩
  refine .step (.change fun _ _ same => same.change
    (f := fun w => { w with processes := w.processes ++ [process] }) fun _ => rfl) (fun _ => ?_)
    fun _ _ same => same
  refine .step (.change fun _ _ same => same.change (World.recordBlind rfl)) (fun _ => ?_)
    fun _ _ same => same
  exact .value _

end Bridge
end ContainerDriver
