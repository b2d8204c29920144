import ContainerDriver.Proofs.Engine.Routing

/-! Commands from their launch to the last byte of their output. Whether a command is waited for,
has its output collected or is left running, the sinks get what belongs to them in full and nothing
else, and a binary that cannot be launched leaves nothing but the announcement behind. -/
namespace ContainerDriver

namespace World

variable {w v : World} {log : Option SinkId}

theorem openedStands (w : World) (context : List (String × Value)) (log : Option SinkId) :
    (w.opened context log).2.Stands w.core (w.opened context log).2.logs := by
  cases log <;> exact ⟨rfl, rfl⟩

theorem openedPlain (context : List (String × Value))
    (plain : ∀ id ∈ log, ∃ s, w.sink? id = some s ∧ s.hasDescriptor = false) :
    ∃ s, (w.opened context log).2.logs.sink? (w.opened context log).1 = some s ∧
      s.hasDescriptor = false := by
  cases log with
  | some id => exact plain id rfl
  | none => exact ⟨.lines { context }, by simp [opened, logs, sink?, putSink, Table.getSet], rfl⟩

theorem sinkOrOpens {α : Type} (w : World) (context : List (String × Value)) (log : Option SinkId)
    (q : SinkId → Op α) : ((Op.sinkOr log context >>= q).run w).run =
      ((q (w.opened context log).1).run (w.opened context log).2).run := by
  cases log <;> rfl

theorem openedProcesses (w : World) (context : List (String × Value)) (log : Option SinkId) :
    (w.opened context log).2.processes = w.processes := by
  cases log <;> rfl

theorem processesDeaf : Deaf processes where
  wrote _ _ _ := rfl
  flushed _ _ := rfl
  received _ _ _ := rfl
  lines _ _ _ := rfl
  putSink _ _ _ _ _ _ := rfl

theorem Routed.running {id : SinkId} {target : Option SinkId} {bytes : SinkId → Bytes}
    (routed : w.Routed v id target bytes) (processes : List Child) :
    w.Routed { v with processes } id target bytes :=
  ⟨routed.sent, routed.kept, routed.others, routed.lines, routed.displayed⟩

end World

theorem Leaves.mapped {α β γ : Type} {p : Op β} {w v : World} {k : Core} {r : Except Fault α}
    {give : α → β} (first : Leaves p w (r.map give) k v) (last : β → γ) :
    Leaves (do return last (← p)) w (r.map fun a => last (give a)) k v := by
  obtain ⟨w', ran, there⟩ := first
  cases r with
  | ok a => exact ⟨w', Op.bindOk ran, there⟩
  | error f => exact ⟨w', Op.bindError ran, there⟩

theorem shareNothing (log : SinkId) (own : Bytes) (target : Option SinkId) :
    share log own target [] = share log own none [] := by
  funext id
  simp [share]

theorem shareUntargeted (log : SinkId) (own out : Bytes) :
    share log own none out = share log own none [] := by
  funext id
  simp [share]

def Delivers {α : Type} (p : Op α) (w : World) (r : Except Fault α) (v : World) (log : SinkId)
    (target : Option SinkId) (bytes : SinkId → Bytes) : Prop :=
  ∃ w', (p.run w).run = (r, w') ∧ v.Routed w' log target bytes

namespace Bridge

variable {w : World} {log : Option SinkId}

section

variable (plain : ∀ id ∈ log, ∃ s, w.sink? id = some s ∧ s.hasDescriptor = false) {verbose : Bool}
  {command : Command}

include plain

theorem runDelivers (shown : command.unshown? verbose = none) (input : Option Bytes)
    (output : Output) :
    let opened := w.opened (defaultContext command) log
    let answer := w.core.answer command
    let target := (aim verbose output opened.1).sink?
    Delivers (run verbose command input output log) w
      ((answer.outcome command.binary).map (·.1)) opened.2 opened.1 target
      (share opened.1 (announcement verbose command ++ Chunk.stderrOf answer.chunks) target
        (Chunk.stdoutOf answer.chunks)) := by
  intro opened answer target
  obtain ⟨s, known, still⟩ := World.openedPlain (defaultContext command) plain
  obtain ⟨w', ran, there⟩ := (completeLeaves input output opened.1 shown
    (w.openedStands (defaultContext command) log)).mapped (·.exitCode)
  exact ⟨w', (w.sinkOrOpens _ log _).trans ran,
    .ofLogs (completingRouted known still verbose command _ answer) there.logs⟩

theorem captureDelivers (shown : command.unshown? verbose = none) (input : Option Bytes) :
    let opened := w.opened (defaultContext command) log
    let answer := w.core.answer command
    Delivers (capture verbose command input log) w
      ((answer.outcome command.binary).map fun out => (⟨out.1, Chunk.stdoutOf out.2⟩, opened.1))
      opened.2 opened.1 none
      (share opened.1 (announcement verbose command ++ Chunk.stderrOf answer.chunks) none []) := by
  intro opened answer
  obtain ⟨s, known, still⟩ := World.openedPlain (defaultContext command) plain
  obtain ⟨w', ran, there⟩ := (completeLeaves input .collect opened.1 shown
    (w.openedStands (defaultContext command) log)).mapped (·, opened.1)
  have aimed : aim verbose .collect opened.1 = .collect := aimCollect.mpr rfl
  rw [aimed] at there
  have routed := completingRouted known still verbose command .collect answer
  have untargeted : Output.collect.sink? = none := rfl
  rw [untargeted, shareUntargeted] at routed
  exact ⟨w', (w.sinkOrOpens _ log _).trans ran, routed.ofLogs there.logs⟩

theorem startDelivers {code : Int} {chunks : List Chunk} (shown : command.unshown? verbose = none)
    (interactive : Bool) (stdout : Stream)
    (free : startBarred? (w.opened (defaultContext command) log).2 interactive stdout = none)
    (reply : w.core.answer command = .exits code chunks) :
    let opened := w.opened (defaultContext command) log
    ∃ w', ((start verbose command interactive stdout log).run w).run = (.ok w.nextPid, w') ∧
      opened.2.Routed w' opened.1 none (share opened.1 (announcement verbose command) none []) ∧
      w'.processes = w.processes ++
        [started opened.2 interactive stdout opened.1 w.nextPid code chunks] := by
  intro opened
  obtain ⟨s, known, still⟩ := World.openedPlain (defaultContext command) plain
  have here := w.openedStands (defaultContext command) log
  rw [startBarred?, here.barred] at free
  obtain ⟨w', ran, there⟩ := startLeaves interactive stdout opened.1 shown free here reply
  have running := congrArg World.processes there.logs
  refine ⟨w', (w.sinkOrOpens _ log _).trans ran,
    .ofLogs ((announcingRouted known still verbose command).running _) there.logs, ?_⟩
  refine running.trans ?_
  rw [World.processesDeaf.enact]
  exact congrArg (· ++ _) (w.openedProcesses _ log)

theorem startHalts {f : Fault} (shown : command.unshown? verbose = none) (interactive : Bool)
    (stdout : Stream)
    (reply : (w.core.answer command (startBarred? (w.opened (defaultContext command) log).2
      interactive stdout)).outcome command.binary = .error f) :
    let opened := w.opened (defaultContext command) log
    Delivers (start verbose command interactive stdout log) w (.error f) opened.2 opened.1 none
      (share opened.1 (announcement verbose command) none []) := by
  intro opened
  obtain ⟨s, known, still⟩ := World.openedPlain (defaultContext command) plain
  have here := w.openedStands (defaultContext command) log
  rw [startBarred?, here.barred] at reply
  obtain ⟨w', ran, there⟩ := startHaltsAt interactive stdout opened.1 shown here reply
  exact ⟨w', (w.sinkOrOpens _ log _).trans ran,
    .ofLogs (announcingRouted known still verbose command) there.logs⟩

end

theorem startedDelivers {process : Child} {later : World} {id : SinkId} {s : Sink}
    (known : later.sink? id = some s) (still : s.hasDescriptor = false)
    (errors : process.stderr = .pipe) (forwarded : process.forwarder = some id) :
    later.Routed (later.finish process) id process.stdout.sink?
      (share id (Chunk.stderrOf process.chunks) process.stdout.sink?
        (straight later process.stdout (Chunk.stdoutOf process.chunks))) := by
  rw [finishEnacts errors forwarded]
  exact finishingRouted known still process

/-- However the command is run, the operation ends with the fault, and nothing but the line was
written; of the streams that a start can be given those count that are as told. -/
structure Halts (verbose : Bool) (command : Command) (log : Option SinkId) (w : World)
    (line : Bytes) (f : Fault) (told : Bool → Stream → Prop) : Prop where
  run (input : Option Bytes) (output : Output) :
    let opened := w.opened (defaultContext command) log
    Delivers (run verbose command input output log) w (.error f) opened.2 opened.1
      (aim verbose output opened.1).sink? (share opened.1 line none [])
  capture (input : Option Bytes) :
    let opened := w.opened (defaultContext command) log
    Delivers (capture verbose command input log) w (.error f) opened.2 opened.1 none
      (share opened.1 line none [])
  start (interactive : Bool) (stdout : Stream) : told interactive stdout →
    let opened := w.opened (defaultContext command) log
    Delivers (start verbose command interactive stdout log) w (.error f) opened.2 opened.1 none
      (share opened.1 line none [])

theorem haltsUnanswered (plain : ∀ id ∈ log, ∃ s, w.sink? id = some s ∧ s.hasDescriptor = false)
    {verbose : Bool} {command : Command} {f : Fault} (shown : command.unshown? verbose = none)
    (reply : (w.core.answer command).outcome command.binary = .error f)
    (silent : (w.core.answer command).chunks = []) :
    Halts verbose command log w (announcement verbose command) f (fun interactive stdout =>
      startBarred? (w.opened (defaultContext command) log).2 interactive stdout = none) where
  run input output := by
    have ran := runDelivers plain shown input output
    simp only [reply, silent, Chunk.stderrOf, Chunk.stdoutOf, List.flatMap_nil, List.append_nil,
      shareNothing] at ran
    exact ran
  capture input := by
    have ran := captureDelivers plain shown input
    simp only [reply, silent, Chunk.stderrOf, List.flatMap_nil, List.append_nil] at ran
    exact ran
  start interactive stdout free := startHalts plain shown interactive stdout (by rw [free, reply])

theorem haltsUnshown (plain : ∀ id ∈ log, ∃ s, w.sink? id = some s ∧ s.hasDescriptor = false)
    {verbose : Bool} {command : Command} {e : Text.Unencodable}
    (unshown : command.unshown? verbose = some e) :
    Halts verbose command log w [] (.unencodable e) (fun _ _ => True) := by
  have here := w.openedStands (defaultContext command) log
  obtain ⟨s, known, quiet⟩ := World.openedPlain (defaultContext command) plain
  have still (target : Option SinkId) {w' : World}
      (same : w'.logs = (w.opened (defaultContext command) log).2.logs) :
      (w.opened (defaultContext command) log).2.Routed w'
        (w.opened (defaultContext command) log).1 target
        (share (w.opened (defaultContext command) log).1 [] none []) :=
    .ofLogs (quietRouted known quiet target) same
  exact {
    run := fun input output => by
      obtain ⟨w', ran, there⟩ := completeStops input output
        (w.opened (defaultContext command) log).1 unshown here
      exact ⟨w', (w.sinkOrOpens _ log _).trans (Op.bindError ran), still _ there.logs⟩
    capture := fun input => by
      obtain ⟨w', ran, there⟩ := completeStops input .collect
        (w.opened (defaultContext command) log).1 unshown here
      exact ⟨w', (w.sinkOrOpens _ log _).trans (Op.bindError ran), still _ there.logs⟩
    start := fun interactive stdout _ => by
      obtain ⟨w', ran, there⟩ := startStops interactive stdout
        (w.opened (defaultContext command) log).1 unshown here
      exact ⟨w', (w.sinkOrOpens _ log _).trans ran, still _ there.logs⟩ }

theorem unattachableFails {stdout : Stream} {answer : Answer}
    (barred : unattachable? w stdout = some answer) (binary : Text) :
    ∃ f, answer.outcome binary = .error f ∧ answer.chunks = [] := by
  unfold unattachable? at barred
  split at barred
  · split at barred
    · cases barred
    · split at barred <;> cases barred <;> exact ⟨_, rfl, rfl⟩
  · cases barred

/-- Every byte of a command reaches the sink that it belongs to, once and in its place. -/
theorem outputRouted (verbose : Bool) (command : Command) (log : Option SinkId) (w : World)
    (plain : ∀ id ∈ log, ∃ s, w.sink? id = some s ∧ s.hasDescriptor = false) :
    let id := (w.opened (defaultContext command) log).1
    let v := (w.opened (defaultContext command) log).2
    let line := announcement verbose command
    match command.unshown? verbose with
    | some e => Halts verbose command log w [] (.unencodable e) fun _ _ => True
    | none =>
      (∀ interactive stdout answer, startBarred? v interactive stdout = some answer →
        ∃ f, answer.outcome command.binary = .error f ∧
          Delivers (start verbose command interactive stdout log) w (.error f) v id none
            (share id line none [])) ∧
      match w.core.answer command with
      | .exits code chunks =>
        let out := Chunk.stdoutOf chunks
        let err := Chunk.stderrOf chunks
        (∀ input output,
          let target := (aim verbose output id).sink?
          Delivers (run verbose command input output log) w (.ok code) v id target
            (share id (line ++ err) target out)) ∧
        (∀ input, Delivers (capture verbose command input log) w (.ok (⟨code, out⟩, id)) v id none
          (share id (line ++ err) none [])) ∧
        ∀ interactive stdout, startBarred? v interactive stdout = none →
          let process := started v interactive stdout id w.nextPid code chunks
          ∃ w', ((start verbose command interactive stdout log).run w).run =
              (.ok process.pid, w') ∧
            v.Routed w' id none (share id line none []) ∧
            w'.processes = w.processes ++ [process] ∧
            ∀ (later : World) (s : Sink), later.sink? id = some s → s.hasDescriptor = false →
              later.Routed (later.finish process) id process.stdout.sink?
                (share id err process.stdout.sink? (straight later process.stdout out))
      | .fails e => Halts verbose command log w line (.error (.launch command.binary e.reason))
          fun interactive stdout => startBarred? v interactive stdout = none
      | .refuses r => Halts verbose command log w line (.launchRefused r)
          fun interactive stdout => startBarred? v interactive stdout = none := by
  intro id v line
  have errors : errorStream v id = .pipe := by
    obtain ⟨s, known, still⟩ := World.openedPlain (defaultContext command) plain
    have closed : v.hasDescriptor id = false := World.sinkPlain (w := v) known still
    exact if_neg (by simp [closed])
  split
  · next e unshown => exact haltsUnshown plain unshown
  next shown =>
  refine ⟨fun interactive stdout answer barred => ?_, ?_⟩
  · obtain ⟨f, fails, -⟩ := unattachableFails barred command.binary
    refine ⟨f, fails, startHalts plain shown interactive stdout ?_⟩
    rw [show startBarred? _ interactive stdout = some answer from barred]
    exact fails
  split
  · next code chunks reply =>
    refine ⟨fun input output => ?_, fun input => ?_, fun interactive stdout free => ?_⟩
    · have ran := runDelivers plain shown input output
      rw [reply] at ran
      exact ran
    · have ran := captureDelivers plain shown input
      rw [reply] at ran
      exact ran
    · obtain ⟨w', ran, routed, running⟩ :=
        startDelivers plain shown interactive stdout free reply
      refine ⟨w', ran, routed, running, fun later s known still => ?_⟩
      exact startedDelivers known still errors (if_pos errors)
  · next e reply =>
    exact haltsUnanswered plain shown (by rw [reply]; rfl) (by rw [reply]; rfl)
  · next r reply =>
    exact haltsUnanswered plain shown (by rw [reply]; rfl) (by rw [reply]; rfl)

def chat : List Chunk :=
  [.out (Bytes.ofAscii "one\n"), .err (Bytes.ofAscii "two"), .out (Bytes.ofAscii "three\n")]

def chatty : World where
  script := [⟨["build"], .exits 3 chat, none⟩]
  sinks := [(.given "log", .lines {})]

theorem outputRoutedJoined :
    let command := Command.build {} "docker" [⟨"build", false⟩]
    let log := SinkId.given "log"
    (∀ id ∈ some log, ∃ s, chatty.sink? id = some s ∧ s.hasDescriptor = false) ∧
    ∃ w', ((run true command none .standard (some log)).run chatty).run = (.ok 3, w') ∧
      w'.sent log = Bytes.ofAscii "$ docker build\ntwoone\nthree\n" ∧
      w'.sink? log = some (.lines {}) ∧
      w'.displayed = ["$ docker build", "twoone", "three"].map (.line "engine output" · []) := by
  intro command log
  have plain : ∀ id ∈ some log, ∃ s, chatty.sink? id = some s ∧ s.hasDescriptor = false := by
    rintro id ⟨⟩
    exact ⟨.lines {}, rfl, rfl⟩
  have reply : chatty.core.answer command = .exits 3 chat := by decide +kernel
  have whole : share log (announcement true command ++ Chunk.stderrOf chat) (some log)
      (Chunk.stdoutOf chat) log = Bytes.ofAscii "$ docker build\ntwoone\nthree\n" := by
    decide +kernel
  have lines : LineSink.texts ((Bytes.ofAscii "$ docker build\ntwoone\nthree\n").splitOn
      LineSink.newline) = ["$ docker build", "twoone", "three"].map String.toList := by
    decide +kernel
  have shown : command.unshown? true = none := by decide +kernel
  have routed := outputRouted true command (some log) chatty plain
  rw [shown, reply] at routed
  obtain ⟨w', ran, routed⟩ := routed.2.1 none .standard
  have sent := routed.sent log (.lines {}) rfl
  obtain ⟨shown, more, -, alone⟩ := routed.displayed (by rintro s ⟨⟩; rfl)
  have voiced := alone (by rintro id t ⟨⟩ other; exact absurd rfl other)
  refine ⟨plain, w', ran, sent.trans whole, routed.lines {} rfl rfl, more.trans ?_⟩
  have spoken : shown = chatty.voice log (Bytes.ofAscii "$ docker build\ntwoone\nthree\n") :=
    voiced.trans (congrArg (chatty.voice log) whole)
  rw [spoken]
  change (LineSink.texts _).map _ = _
  rw [lines]
  rfl

theorem refusalUntyped :
    let command := Command.build {} "docker" [⟨"build", false⟩, ⟨"a\x00b", false⟩]
    let result := ((run true command none .standard (some (.given "log"))).run chatty).run.1
    result = .error (.launchRefused .zeroByte) ∧
      ∀ reason, result ≠ .error (.error (.launch command.binary reason)) := by
  intro command result
  have refused : result = .error (.launchRefused .zeroByte) := by decide +kernel
  refine ⟨refused, fun reason launched => ?_⟩
  cases refused.symm.trans launched

end Bridge
end ContainerDriver
