import ContainerDriver.Proofs.Engine.TwoRuns

/-! Muted worlds. A muted world has no lines of output, nothing in the sinks of the caller and no
others, and none of the streams that were chosen for the sake of a sink. However a command is run,
what becomes of the muted world is what becomes of it when nothing is logged at all: a remark, one
launch and another remark, unless the line of the command cannot be shown and should be. -/
namespace ContainerDriver

def Attempt.unrouted (a : Attempt) : Attempt := { a with stdout := .discard, stderr := .discard }

def Child.unrouted (p : Child) : Child := { p with stderr := .discard, forwarder := none }

def Entry.muted? : Entry → Option Entry
  | event e => if e.isControl then some (event e) else none
  | attempt a => some (attempt a.unrouted)
  | connected pid => some (connected pid)
  | _ => none

def SinkId.emptied? : SinkId × Sink → Option (SinkId × Sink)
  | (given name, s) => some (given name, s.emptied)
  | (own _, _) => none

namespace World

variable {sinks : List (SinkId × Sink)}

theorem getEmptied (sinks : List (SinkId × Sink)) (name : String) :
    Table.get? (.given name) (sinks.filterMap SinkId.emptied?) =
      (Table.get? (.given name) sinks).map Sink.emptied := by
  induction sinks with
  | nil => rfl
  | cons e rest ih =>
    obtain ⟨given | own, s⟩ := e
    · rw [List.filterMap_cons]
      simp only [SinkId.emptied?, Table.get?]
      split
      · rfl
      · exact ih
    · simpa [List.filterMap_cons, SinkId.emptied?, Table.get?] using ih

theorem setEmptied {id : SinkId} {s s' : Sink} (has : Table.get? id sinks = some s)
    (same : s'.emptied = s.emptied) :
    (Table.set id s' sinks).filterMap SinkId.emptied? = sinks.filterMap SinkId.emptied? := by
  induction sinks with
  | nil => cases has
  | cons e rest ih =>
    obtain ⟨id', old⟩ := e
    rw [Table.get?] at has
    rw [Table.set]
    by_cases here : id' = id
    · rw [if_pos here] at has ⊢
      cases has
      subst here
      cases id' <;> simp [List.filterMap_cons, SinkId.emptied?, same]
    · rw [if_neg here] at has ⊢
      rw [List.filterMap_cons, List.filterMap_cons, ih has]

theorem setOwnEmptied (number : Nat) (s : Sink) (sinks : List (SinkId × Sink)) :
    (Table.set (.own number) s sinks).filterMap SinkId.emptied? =
      sinks.filterMap SinkId.emptied? := by
  induction sinks with
  | nil => rfl
  | cons e rest ih =>
    rw [Table.set]
    by_cases here : e.1 = .own number
    · rw [if_pos here]
      obtain ⟨_, s'⟩ := e
      cases here
      rfl
    · rw [if_neg here, List.filterMap_cons, List.filterMap_cons, ih]

def muted (w : World) : World :=
  { w with
    sinks := w.sinks.filterMap SinkId.emptied?
    ownSinks := 0
    processes := w.processes.map Child.unrouted
    journal := w.journal.filterMap Entry.muted? }

theorem recordMuted (w : World) (e : Entry) :
    (w.record e).muted = { w.muted with journal := w.muted.journal ++ e.muted?.toList } := by
  cases muted : e.muted? <;> simp [World.muted, record, muted]

theorem mutedDeaf : Deaf muted where
  wrote w _ _ := by simp [muted, record, Entry.muted?]
  flushed w _ := by simp [muted, record, Entry.muted?]
  received w _ _ := by simp [muted, record, Entry.muted?]
  lines w es quiet := by
    have none : (es.map Entry.event).filterMap Entry.muted? = [] := by
      simp only [List.filterMap_eq_nil_iff, List.forall_mem_map]
      exact fun e mem => if_neg (by simp [quiet e mem])
    simp [muted, recordEvents, none]
  putSink w _ _ _ has same := by
    unfold muted
    dsimp only [putSink]
    rw [setEmptied has same]

theorem settleMuted (w : World) : w.settle.muted = { w.muted with processes := [] } :=
  congrArg (fun m : World => { m with processes := [] }) (mutedDeaf.finishAll w.processes w)

theorem ownSinkMuted (w : World) (s : Sink) :
    { w.putSink (.own w.ownSinks) s with ownSinks := w.ownSinks + 1 }.muted = w.muted := by
  unfold muted
  dsimp only [putSink]
  rw [setOwnEmptied]

theorem sinkMuted (w : World) (name : String) :
    w.muted.sink? (.given name) = (w.sink? (.given name)).map Sink.emptied :=
  getEmptied w.sinks name

theorem hasDescriptorMuted (w : World) (id : SinkId) :
    w.muted.hasDescriptor id = w.hasDescriptor id := by
  cases id with
  | own number => rfl
  | given name =>
    rw [hasDescriptor, hasDescriptor, sinkMuted]
    cases w.sink? (.given name) with
    | none => rfl
    | some s => cases s <;> rfl

theorem unattachableMuted (w : World) (stdout : Stream) :
    Bridge.unattachable? w.muted stdout = Bridge.unattachable? w stdout := by
  refine unattachableKind (fun name => ?_) stdout
  rw [sinkMuted, Option.map_map]
  cases w.sink? (.given name) with
  | none => rfl
  | some s => cases s <;> rfl

end World

def Alike (w w' : World) : Prop := w.muted = w'.muted

namespace Alike

variable {w w' : World}

theorem read {α : Type} (alike : Alike w w') (f : World → α) (plain : ∀ w, f w.muted = f w) :
    f w = f w' :=
  (plain w).symm.trans ((congrArg f alike).trans (plain w'))

theorem change {f : World → World} (alike : Alike w w') (plain : ∀ w, (f w).muted = f w.muted) :
    Alike (f w) (f w') :=
  (plain w).trans ((congrArg f alike).trans (plain w').symm)

theorem record {e e' : Entry} (alike : Alike w w') (same : e.muted? = e'.muted?) :
    Alike (w.record e) (w'.record e') := by
  rw [Alike, World.recordMuted, World.recordMuted, same, show w.muted = w'.muted from alike]

theorem leave {p p' : Child} (alike : Alike w w') (same : p.unrouted = p'.unrouted) :
    Alike { w with processes := w.processes ++ [p] }
      { w' with processes := w'.processes ++ [p'] } := by
  have left (w : World) (p : Child) : { w with processes := w.processes ++ [p] }.muted =
      { w.muted with processes := w.muted.processes ++ [p.unrouted] } := by
    simp [World.muted]
  rw [Alike, left, left, same, show w.muted = w'.muted from alike]

theorem settle (alike : Alike w w') : Alike w.settle w'.settle := by
  rw [Alike, World.settleMuted, World.settleMuted, show w.muted = w'.muted from alike]

theorem core (alike : Alike w w') : w.core = w'.core := by
  refine alike.read World.core fun w => ?_
  have asks (e : Entry) : e.muted?.bind Entry.ask? = e.ask? := by
    cases e with
    | event e => cases control : e.isControl <;> simp [Entry.muted?, Entry.ask?, control]
    | _ => rfl
  have connections (e : Entry) : e.muted?.bind Entry.connection? = e.connection? := by
    cases e with
    | event e => cases control : e.isControl <;> simp [Entry.muted?, Entry.connection?, control]
    | _ => rfl
  simp [World.core, World.muted, List.filterMap_filterMap, asks, connections]

end Alike

def From (m w w' : World) : Prop := w.muted = m ∧ w'.muted = m

abbrev Transparent {α : Type} (p q : Op α) : Prop := Agree Alike Alike p q

namespace Transparent

variable {α β : Type} {p p' q : Op α} {m : World}

theorem ofFrom (each : ∀ m, Agree (From m) Alike p q) : Transparent p q :=
  fun w w' alike => each w.muted w w' ⟨rfl, alike.symm⟩

theorem toFrom (agreed : Transparent p q) : Agree (From m) Alike p q :=
  fun w w' both => agreed w w' (both.1.trans both.2.symm)

theorem step {q q' : α → Op β} (first : Transparent p p') (next : ∀ a, Transparent (q a) (q' a)) :
    Transparent (p >>= q) (p' >>= q') :=
  Agree.step first next fun _ _ alike => alike

theorem emit (e : Event) : Transparent (Op.emit e) (Op.emit e) :=
  .change fun _ _ alike => alike.record rfl

theorem hushFrom {f : World → World} (silent : ∀ w, (f w).muted = w.muted)
    (rest : Agree (From m) Alike p q) : Agree (From m) Alike (do modify f; p) q := by
  intro w w' both
  obtain ⟨r, v, v', ran, ran', later⟩ := rest (f w) w' ⟨(silent w).trans both.1, both.2⟩
  exact ⟨r, v, v', (Op.bindOk rfl).trans ran, ran', later⟩

theorem hush {f : World → World} (silent : ∀ w, (f w).muted = w.muted) (rest : Transparent p q) :
    Transparent (do modify f; p) q :=
  ofFrom fun _ => hushFrom silent rest.toFrom

theorem hushLast {f : World → World} (silent : ∀ w, (f w).muted = w.muted) :
    Transparent (modify f : Op PUnit) (pure ⟨⟩) :=
  fun w w' alike => ⟨_, f w, w', rfl, rfl, (silent w).trans alike⟩

theorem hushIf {c : Prop} [Decidable c] {f : World → World}
    (silent : ∀ w, (f w).muted = w.muted) (rest : Transparent p q) :
    Transparent (if c then (do modify f; p) else p) q := by
  split
  · exact hush silent rest
  · exact rest

theorem peek {p : World → Op α} (rest : ∀ w, Agree (From w.muted) Alike (p w) q) :
    Transparent (get >>= p) q := by
  intro w w' alike
  obtain ⟨r, v, v', ran, ran', later⟩ := rest w w w' ⟨rfl, alike.symm⟩
  exact ⟨r, v, v', (Op.bindOk rfl).trans ran, ran', later⟩

theorem sinkOr {q : Op α} {p : SinkId → Op α} (log : Option SinkId)
    (context : List (String × Value)) (rest : ∀ id, log.getD id = id → Transparent (p id) q) :
    Transparent (Op.sinkOr log context >>= p) q := by
  cases log with
  | some id => exact rest id rfl
  | none =>
    intro w w' alike
    let made : World :=
      { w.putSink (.own w.ownSinks) (.lines { context }) with ownSinks := w.ownSinks + 1 }
    exact rest (.own w.ownSinks) rfl made w' ((w.ownSinkMuted _).trans alike)

theorem ends {w : World} {r : Except Fault α} {k : Core} (agreed : Transparent p q)
    (ended : Ends q w r k) : Ends p w r k := by
  obtain ⟨r', v, v', ran, ran', alike⟩ := agreed w w rfl
  obtain ⟨u, mute, core⟩ := ended
  cases ran'.symm.trans mute
  exact ⟨v, ran, alike.core.trans core⟩

end Transparent

namespace Bridge

variable {w : World} {k : Core}

theorem launchTransparent (command : Command) (stdin : Stream) (input : Option Bytes)
    (stdout stderr stdout' stderr' : Stream) {m : World}
    (barred : unattachable? m stdout = unattachable? m stdout') :
    Agree (From m) Alike (launch command stdin stdout stderr input)
      (launch command stdin stdout' stderr' input) := by
  rintro w w' ⟨rfl, other⟩
  have alike : Alike w w' := other.symm
  have ran := launchConcludes w command stdin stdout stderr input
  have ran' := launchConcludes w' command stdin stdout' stderr' input
  have script : w.script = w'.script := alike.read World.script fun _ => rfl
  have parent : w.parent = w'.parent := alike.read World.parent fun _ => rfl
  have pid : w.nextPid = w'.nextPid := alike.read World.nextPid fun _ => rfl
  rw [w.unattachableMuted, ← other, w'.unattachableMuted] at barred
  rw [← script, ← parent, ← barred] at ran'
  cases reply : reply w.script w.parent command (unattachable? w stdout) with
  | mk answer script =>
    rw [reply] at ran ran'
    have tried : Alike
        ({ w with script }.record (.attempt
          ⟨command, childEnv w.parent command, stdin, stdout, stderr, input, answer⟩))
        ({ w' with script }.record (.attempt
          ⟨command, childEnv w'.parent command, stdin, stdout', stderr', input, answer⟩)) := by
      refine (alike.change (f := fun v => { v with script }) fun _ => rfl).record ?_
      rw [parent]
      rfl
    cases answer with
    | exits code chunks =>
      refine ⟨.ok (w.nextPid, code, chunks), _, _, ran, by rw [pid]; exact ran', ?_⟩
      exact tried.change (f := fun v => { v with nextPid := v.nextPid + 1 }) fun _ => rfl
    | fails e => exact ⟨.error (.error (.launch command.binary e.reason)), _, _, ran, ran', tried⟩
    | refuses r => exact ⟨.error (.launchRefused r), _, _, ran, ran', tried⟩

def permit (verbose : Bool) (command : Command) : Op Unit :=
  match command.unshown? verbose with
  | some e => throw (.unencodable e)
  | none => pure ()

def declare (verbose : Bool) (command : Command) : Op Unit := do
  Op.emit (.running command.render)
  permit verbose command

def mute {α : Type} (verbose : Bool) (command : Command) (input : Option Bytes)
    (give : Int → List Chunk → α) : Op α := do
  declare verbose command
  let (_, code, chunks) ←
    launch command (if input.isSome then .pipe else .discard) .discard .discard input
  Op.emit (.finished command.render code)
  return give code chunks

theorem announceTransparent (verbose : Bool) (command : Command) (log : SinkId) :
    Transparent (announce verbose command log) (declare verbose command) := by
  unfold announce declare permit Command.unshown?
  refine .step (.emit _) fun _ => ?_
  cases verbose with
  | false => exact .value ()
  | true =>
    simp only [if_true]
    cases Text.unencodable? command.announcement with
    | some e => exact .failure _
    | none =>
      refine .hush (fun w => World.mutedDeaf.write w _ _) ?_
      exact .hushLast fun w => World.mutedDeaf.flush w _

theorem closeTransparent {α : Type} (e : Event) (log : SinkId) (a : α) :
    Transparent (do modify (·.flush log); Op.emit e; return a) (do Op.emit e; return a) :=
  .hush (fun w => World.mutedDeaf.flush w log) (.step (.emit e) fun _ => .value a)

theorem reportTransparent (command : Command) (log : SinkId) (target : Output)
    (stdout stderr : Stream) (code : Int) (chunks : List Chunk) : Transparent (do
      modify (·.deliver stdout stderr chunks)
      let out := if stdout = .pipe then Chunk.stdoutOf chunks else []
      let err := if stderr = .pipe then Chunk.stderrOf chunks else []
      if err ≠ [] then modify (·.write log err)
      match target with
      | .sink id => if out ≠ [] then modify (·.write id out)
      | _ => pure ()
      modify (·.flush log)
      Op.emit (.finished command.render code)
      return Execution.mk code (if target = .collect then out else [])) (do
    Op.emit (.finished command.render code)
    return Execution.mk code (if target = .collect then
      (if stdout = .pipe then Chunk.stdoutOf chunks else []) else [])) := by
  refine .hush (fun w => World.mutedDeaf.deliver w _ _ _) ?_
  refine .hushIf (fun w => World.mutedDeaf.write w _ _) ?_
  cases target with
  | sink id =>
    exact .hushIf (fun w => World.mutedDeaf.write w _ _) (closeTransparent _ log _)
  | standard => exact closeTransparent _ log _
  | collect => exact closeTransparent _ log _

theorem completeTransparent (verbose : Bool) (command : Command) (input : Option Bytes)
    (output : Output) (log : SinkId) :
    Transparent (complete verbose command input output log)
      (mute verbose command input fun code chunks =>
        Execution.mk code (if output = .collect then Chunk.stdoutOf chunks else [])) := by
  refine .step (announceTransparent verbose command log) fun _ => ?_
  extract_lets target
  have same : target = .collect ↔ output = .collect := by
    simp only [target]
    split
    · next h => simp [h.1]
    · rfl
  clear_value target
  refine .peek fun w => ?_
  extract_lets stderr rest
  -- The output goes nowhere, into a pipe, or to a sink that the process can write to.
  have restTransparent (stdout : Stream) (free : unattachable? w.muted stdout = none)
      (piped : target = .collect → stdout = .pipe) : Agree (From w.muted) Alike (rest stdout) (do
        let (_, code, chunks) ←
          launch command (if input.isSome then .pipe else .discard) .discard .discard input
        Op.emit (.finished command.render code)
        return Execution.mk code (if output = .collect then Chunk.stdoutOf chunks else [])) := by
    refine .step (launchTransparent command _ input stdout stderr .discard .discard free)
      (fun out => ?_) fun _ _ alike => alike
    have collected : (if target = .collect then
        (if stdout = .pipe then Chunk.stdoutOf out.2.2 else []) else []) =
        if output = .collect then Chunk.stdoutOf out.2.2 else [] := by
      by_cases h : output = .collect
      · rw [if_pos h, if_pos (same.mpr h), if_pos (piped (same.mpr h))]
      · rw [if_neg h, if_neg (mt same.mp h)]
    have reported := reportTransparent command log target stdout stderr out.2.1 out.2.2
    rw [collected] at reported
    exact reported
  cases target with
  | standard => exact restTransparent .discard rfl (by simp)
  | collect => exact restTransparent .pipe rfl fun _ => rfl
  | sink id =>
    dsimp only
    split
    · next open' =>
      have free : unattachable? w.muted (.sink id) = none := by
        rw [w.unattachableMuted]
        simp only [unattachable?, open', if_true]
      exact Transparent.hushFrom (fun w => World.mutedDeaf.flush w _)
        (restTransparent _ free (by simp))
    · exact restTransparent .pipe rfl fun _ => rfl

theorem muteMap {α β : Type} (verbose : Bool) (command : Command) (input : Option Bytes)
    (give : Int → List Chunk → α) (f : α → β) :
    (do return f (← mute verbose command input give)) =
      mute verbose command input fun code chunks => f (give code chunks) := by
  simp [mute]

theorem runTransparent (verbose : Bool) (command : Command) (input : Option Bytes)
    (output : Output) (log : Option SinkId) :
    Transparent (run verbose command input output log)
      (mute verbose command input fun code _ => code) := by
  refine .sinkOr log _ fun id _ => ?_
  have completed := completeTransparent verbose command input output id
  have given := Transparent.step completed fun e => .value e.exitCode
  rwa [muteMap] at given

theorem captureTransparent (verbose : Bool) (command : Command) (input : Option Bytes)
    (log : Option SinkId) :
    Transparent (do return (← capture verbose command input log).1)
      (mute verbose command input fun code chunks =>
        Execution.mk code (Chunk.stdoutOf chunks)) := by
  simp only [capture, bind_assoc, pure_bind]
  refine .sinkOr log _ fun id _ => ?_
  have completed := completeTransparent verbose command input .collect id
  have given := Transparent.step completed fun e => .value e
  rwa [muteMap] at given

def muteStart (verbose : Bool) (command : Command) (interactive : Bool) (stdout : Stream) :
    Op Nat := do
  declare verbose command
  let stdin := if interactive then .pipe else .discard
  let stdout := if interactive then .pipe else stdout
  let (pid, code, chunks) ← launch command stdin stdout .discard none
  modify fun w =>
    { w with processes := w.processes ++ [⟨pid, code, chunks, stdout, .discard, none⟩] }
  Op.emit (.started command.render pid)
  return pid

theorem startTransparent (verbose : Bool) (command : Command) (interactive : Bool)
    (stdout : Stream) (log : Option SinkId) :
    Transparent (start verbose command interactive stdout log)
      (muteStart verbose command interactive stdout) := by
  refine .sinkOr log _ fun id _ => .step (announceTransparent verbose command id) fun _ => ?_
  refine .peek fun w => ?_
  refine .step (launchTransparent command _ none _ (errorStream w id) _ .discard rfl)
    (fun out => ?_) fun _ _ alike => alike
  refine Transparent.step (.change fun v v' alike => alike.leave rfl) fun _ => ?_
  exact Transparent.step (.emit _) fun _ => .value out.1

theorem callEnds {α : Type} {verbose : Bool} {command : Command} {input : Option Bytes}
    {barred : Option Answer} {rest : Unit → Op α} {give : Int × List Chunk → α} (core : w.core = k)
    (launched : ∀ w', w'.core = k → unattachable? w' = unattachable? w →
      Ends (rest ()) w' (((k.answer command barred).outcome command.binary).map give)
        (k.ask command input barred)) :
    Ends (declare verbose command >>= rest) w ((k.call verbose command input barred).1.map give)
      (k.call verbose command input barred).2 := by
  have declared : ((declare verbose command).run w).run = (match command.unshown? verbose with
      | some e => .error (.unencodable e)
      | none => .ok (), w.record (.event (.running command.render))) := by
    unfold declare permit
    cases command.unshown? verbose <;> rfl
  have quiet : (w.record (.event (.running command.render))).core = k :=
    (w.recordSilent ⟨rfl, rfl⟩).trans core
  unfold Core.call
  cases shown : command.unshown? verbose with
  | some e =>
    rw [shown] at declared
    exact .stop ⟨_, declared, quiet⟩
  | none =>
    rw [shown] at declared
    exact .after declared (launched _ quiet rfl)

theorem muteEnds {α : Type} (verbose : Bool) (command : Command) (input : Option Bytes)
    (give : Int → List Chunk → α) (core : w.core = k) : Ends (mute verbose command input give) w
      ((k.call verbose command input).1.map fun out => give out.1 out.2)
      (k.call verbose command input).2 := by
  refine callEnds core fun w core _ => ?_
  have launched := launchEnds command (if input.isSome then .pipe else .discard) .discard .discard
    input core
  refine .mapped launched fun out w core => ?_
  exact .step (Op.emitEnds _ core) fun _ core => .value _ core

def startBarred? (w : World) (interactive : Bool) (stdout : Stream) : Option Answer :=
  unattachable? w (if interactive then .pipe else stdout)

theorem muteStartEnds (verbose : Bool) (command : Command) (interactive : Bool) (stdout : Stream)
    (core : w.core = k) : Ends (muteStart verbose command interactive stdout) w
      ((k.call verbose command none (startBarred? w interactive stdout)).1.map fun _ => k.nextPid)
      (k.call verbose command none (startBarred? w interactive stdout)).2 := by
  refine callEnds core fun w' core same => ?_
  extract_lets stdin target
  have launched := launchEnds command stdin target .discard none core
  rw [same] at launched
  refine .mapped launched fun out w core => ?_
  refine .step (.change core) fun w core => ?_
  exact .step (Op.emitEnds _ core) fun _ core => .value _ core

theorem runEnds (verbose : Bool) (command : Command) (input : Option Bytes) (output : Output)
    (log : Option SinkId) (core : w.core = k) : Ends (run verbose command input output log) w
      ((k.call verbose command input).1.map Prod.fst) (k.call verbose command input).2 :=
  (runTransparent verbose command input output log).ends (muteEnds verbose command input _ core)

theorem collectEnds (verbose : Bool) (command : Command) (input : Option Bytes)
    (log : Option SinkId) (core : w.core = k) :
    Ends (do return (← capture verbose command input log).1) w
      ((k.call verbose command input).1.map fun out =>
        Execution.mk out.1 (Chunk.stdoutOf out.2)) (k.call verbose command input).2 :=
  (captureTransparent verbose command input log).ends (muteEnds verbose command input _ core)

theorem startEnds (verbose : Bool) (command : Command) (interactive : Bool) (stdout : Stream)
    (log : Option SinkId) (core : w.core = k) :
    Ends (start verbose command interactive stdout log) w
      ((k.call verbose command none (startBarred? w interactive stdout)).1.map fun _ => k.nextPid)
      (k.call verbose command none (startBarred? w interactive stdout)).2 :=
  (startTransparent verbose command interactive stdout log).ends
    (muteStartEnds verbose command interactive stdout core)

end Bridge
end ContainerDriver
