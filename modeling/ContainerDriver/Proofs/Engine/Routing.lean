import ContainerDriver.Proofs.Engine.Streams

/-! Where the output of a command goes. Each sink gets its share of the announcement, the error
stream and the output, byte for byte and in this order, and nothing else. -/
namespace ContainerDriver

namespace World

variable {w w' v : World}

def opened (w : World) (context : List (String × Value)) : Option SinkId → SinkId × World
  | some id => (id, w)
  | none => (.own w.ownSinks,
      { w.putSink (.own w.ownSinks) (.lines { context }) with ownSinks := w.ownSinks + 1 })

theorem sinkDescriptor {id : SinkId} {s : Sink} (has : w.sink? id = some s)
    (open' : w.hasDescriptor id = true) : s.hasDescriptor = true := by
  cases id with
  | own number => cases open'
  | given name =>
    rw [hasDescriptor, has] at open'
    exact open'

theorem sinkPlain {id : SinkId} {s : Sink} (has : w.sink? id = some s)
    (plain : s.hasDescriptor = false) : w.hasDescriptor id = false := by
  by_contra open'
  rw [sinkDescriptor has (by simpa using open')] at plain
  cases plain

theorem Routed.ofLogs {log : SinkId} {target : Option SinkId} {bytes : SinkId → Bytes}
    (routed : w.logs.Routed v log target bytes) (logs : w'.logs = v) :
    w.Routed w' log target bytes := by
  subst logs
  exact {
    sent := fun id s has => by
      have sent := routed.sent id s has
      rwa [sentLogs, sentLogs] at sent
    kept := routed.kept
    others := routed.others
    lines := routed.lines
    displayed := fun idle => by
      have displayed := routed.displayed idle
      rwa [displayedLogs, displayedLogs] at displayed }

theorem deliveriesSink {stdout : Stream} {chunks : List Chunk} {a : Act}
    (mem : a ∈ deliveries stdout .pipe chunks) :
    ∃ data, stdout = .sink a.sink ∧ a = .receive a.sink data := by
  obtain ⟨chunk, -, made⟩ := List.mem_filterMap.mp mem
  cases chunk with
  | err data => cases stdout <;> cases made
  | out data =>
    cases stdout with
    | discard | pipe => cases made
    | sink id =>
      cases made
      exact ⟨data, rfl, rfl⟩

end World

def share (log : SinkId) (own : Bytes) (target : Option SinkId) (out : Bytes) (id : SinkId) :
    Bytes :=
  (if id = log then own else []) ++ (if target = some id then out else [])

def Output.sink? : Output → Option SinkId
  | .sink id => some id
  | _ => none

def Answer.chunks : Answer → List Chunk
  | exits _ chunks => chunks
  | _ => []

def Stream.sink? : Stream → Option SinkId
  | .sink id => some id
  | _ => none

theorem Stream.sinkSome {stdout : Stream} {id : SinkId} :
    stdout.sink? = some id ↔ stdout = .sink id := by
  cases stdout <;> simp [Stream.sink?]

theorem Output.sinkSome {target : Output} {id : SinkId} :
    target.sink? = some id ↔ target = .sink id := by
  cases target <;> simp [Output.sink?]

namespace Bridge

variable {v : World} {log : SinkId}

def unlessEmpty (data : Bytes) : List Bytes := if data ≠ [] then [data] else []

theorem unlessEmptyWhole (data : Bytes) : (unlessEmpty data).flatten = data := by
  unfold unlessEmpty
  split
  · exact List.append_nil data
  · next none' => exact (not_not.mp none').symm

theorem writingOn (id id' : SinkId) (data : Bytes) :
    (writing id data).filter (·.sink = id') = if id = id' then writing id data else [] := by
  unfold writing
  split <;> split <;> simp_all [Act.sink]

theorem writingInside (id : SinkId) (data : Bytes) : ∀ a ∈ writing id data, a.sink = id := by
  unfold writing
  split <;> simp [Act.sink]

theorem flushingOn (id id' : SinkId) : [Act.call id .flush].filter (·.sink = id') =
    if id = id' then [.call id .flush] else [] := by
  split <;> simp_all [Act.sink]

theorem writingCalls (id : SinkId) (data : Bytes) :
    Sink.callsOf (writing id data) = (unlessEmpty data).map .write := by
  unfold writing unlessEmpty
  split <;> rfl

theorem writingBrought (s : Sink) (id : SinkId) (data : Bytes) :
    (writing id data).flatMap s.brought = data := by
  unfold writing
  split
  · exact List.append_nil data
  · next none' => exact (not_not.mp none').symm

theorem callsOfAppend (as bs : List Act) :
    Sink.callsOf (as ++ bs) = Sink.callsOf as ++ Sink.callsOf bs := List.filterMap_append

theorem deliveriesCalls (stdout : Stream) (chunks : List Chunk) (p : Act → Bool) :
    Sink.callsOf ((World.deliveries stdout .pipe chunks).filter p) = [] := by
  refine List.filterMap_eq_nil_iff.mpr fun a mem => ?_
  obtain ⟨data, -, made⟩ := World.deliveriesSink (List.mem_filter.mp mem).1
  rw [made]

theorem deliveriesBrought (s : Sink) (stdout : Stream) (chunks : List Chunk) (id : SinkId) :
    ((World.deliveries stdout .pipe chunks).filter (·.sink = id)).flatMap s.brought =
      if stdout = .sink id ∧ s.hasDescriptor = true then Chunk.stdoutOf chunks else [] := by
  by_cases here : stdout = .sink id
  · subst here
    have all : (World.deliveries (.sink id) .pipe chunks).filter (·.sink = id) =
        World.deliveries (.sink id) .pipe chunks := by
      refine List.filter_eq_self.mpr fun a mem => ?_
      obtain ⟨data, same, -⟩ := World.deliveriesSink mem
      cases same
      simp
    rw [all]
    clear all
    induction chunks with
    | nil => simp [World.deliveries, Chunk.stdoutOf]
    | cons chunk rest ih =>
      cases chunk with
      | err data => exact ih
      | out data =>
        have step : World.deliveries (.sink id) .pipe (.out data :: rest) =
            .receive id data :: World.deliveries (.sink id) .pipe rest := rfl
        have whole : Chunk.stdoutOf (.out data :: rest) = data ++ Chunk.stdoutOf rest := rfl
        rw [step, List.flatMap_cons, ih, Sink.brought, whole]
        cases s.hasDescriptor <;> simp
  · have none' : (World.deliveries stdout .pipe chunks).filter (·.sink = id) = [] := by
      refine List.filter_eq_nil_iff.mpr fun a mem => ?_
      obtain ⟨data, same, -⟩ := World.deliveriesSink mem
      simp only [decide_eq_true_eq]
      exact fun equal => here (equal ▸ same)
    rw [none', if_neg fun both => here both.1]
    rfl

theorem outputtingOn (out : Bytes) (target : Output) (id : SinkId) :
    (outputting out target).filter (·.sink = id) =
      if target = .sink id then writing id out else [] := by
  cases target with
  | sink id' =>
    rw [outputting, writingOn]
    by_cases same : id' = id
    · subst same
      rw [if_pos rfl, if_pos rfl]
    · rw [if_neg same, if_neg (by simpa using same)]
  | standard | collect => rfl

theorem preparingBrought (v : World) (target : Output) (s : Sink) (p : Act → Bool) :
    ((preparing v target).filter p).flatMap s.brought = [] := by
  refine List.flatMap_eq_nil_iff.mpr fun a mem => ?_
  obtain ⟨inside, -⟩ := List.mem_filter.mp mem
  unfold preparing at inside
  split at inside
  · split at inside
    · rw [List.mem_singleton.mp inside]
      rfl
    · cases inside
  · cases inside

theorem preparingAside (plain : v.hasDescriptor log = false) (target : Output) :
    (preparing v target).filter (·.sink = log) = [] := by
  refine List.filter_eq_nil_iff.mpr fun a inside => ?_
  unfold preparing at inside
  split at inside
  · split at inside
    · next id open' =>
      rw [List.mem_singleton.mp inside, decide_eq_true_eq]
      rintro rfl
      cases plain.symm.trans open'
    · cases inside
  · cases inside

def announced (verbose : Bool) (command : Command) : List (List Bytes) :=
  if verbose then [[announcement verbose command]] else []

theorem announcingCalls (verbose : Bool) (command : Command) (log : SinkId) :
    Sink.callsOf ((announcing verbose command log).filter (·.sink = log)) =
      (announced verbose command).flatMap Sink.block := by
  cases verbose with
  | false => rfl
  | true => simp [announcing, announced, Act.sink, Sink.callsOf, Sink.block]

theorem announcingAside (verbose : Bool) (command : Command) {id : SinkId} (other : id ≠ log) :
    (announcing verbose command log).filter (·.sink = id) = [] := by
  cases verbose with
  | false => rfl
  | true => simp [announcing, Act.sink, Ne.symm other]

theorem announcementEnded (verbose : Bool) (command : Command) :
    LineSink.Ended (announcement verbose command) := by
  cases verbose with
  | false => exact .inl rfl
  | true =>
    have line : announcement true command =
        Text.Utf8.ofText ("$ " ++ command.render) ++ [LineSink.newline] := by
      rw [announcement, if_pos rfl, Command.announcement, Text.Utf8.ofText, List.flatMap_append]
      rfl
    exact .inr (line ▸ List.getLast?_concat)

theorem outStreamSink {target : Output} {id : SinkId} :
    outStream v target = .sink id ↔ target = .sink id ∧ v.hasDescriptor id = true := by
  cases target with
  | standard | collect => simp [outStream]
  | sink id' =>
    rw [outStream]
    split
    · next open' =>
      constructor
      · rintro ⟨⟩
        exact ⟨rfl, open'⟩
      · rintro ⟨⟨⟩, -⟩
        rfl
    · next plain =>
      constructor
      · rintro ⟨⟩
      · rintro ⟨⟨⟩, open'⟩
        exact absurd open' plain

theorem reportingCalls (plain : v.hasDescriptor log = false) (target : Output)
    (chunks : List Chunk) :
    Sink.callsOf ((reporting log target (outStream v target) .pipe chunks).filter (·.sink = log)) =
      Sink.block (unlessEmpty (Chunk.stderrOf chunks) ++
        unlessEmpty (if target = .sink log then Chunk.stdoutOf chunks else [])) := by
  have out : Sink.callsOf ((outputting
      (if outStream v target = .pipe then Chunk.stdoutOf chunks else []) target).filter
        (·.sink = log)) =
      (unlessEmpty (if target = .sink log then Chunk.stdoutOf chunks else [])).map .write := by
    rw [outputtingOn]
    by_cases here : target = .sink log
    · have piped : outStream v target = .pipe := by
        rw [here, outStream, if_neg (by simp [plain])]
      rw [if_pos here, if_pos piped, if_pos here, writingCalls]
    · rw [if_neg here, if_neg here]
      rfl
  rw [reporting, List.filter_append, List.filter_append, List.filter_append, callsOfAppend,
    callsOfAppend, callsOfAppend, deliveriesCalls, writingOn, if_pos rfl, if_pos rfl, writingCalls,
    out, flushingOn, if_pos rfl, Sink.block, List.map_append, List.nil_append, List.append_assoc]
  rfl

def reported (log : SinkId) (target : Output) : Answer → List (List Bytes)
  | .exits _ chunks => [unlessEmpty (Chunk.stderrOf chunks) ++
      unlessEmpty (if target = .sink log then Chunk.stdoutOf chunks else [])]
  | _ => []

theorem answeringCalls (plain : v.hasDescriptor log = false) (target : Output) (answer : Answer) :
    Sink.callsOf ((answering log target (outStream v target) .pipe answer).filter (·.sink = log)) =
      (reported log target answer).flatMap Sink.block := by
  cases answer with
  | exits code chunks => rw [answering, reportingCalls plain, reported, List.flatMap_singleton]
  | fails | refuses => rfl

theorem completingCalls (plain : v.hasDescriptor log = false) (verbose : Bool) (command : Command)
    (target : Output) (answer : Answer) :
    Sink.callsOf ((completing v command target log verbose answer).filter (·.sink = log)) =
      (announced verbose command ++ reported log target answer).flatMap Sink.block := by
  have errors : errorStream v log = .pipe := if_neg (by simp [plain])
  rw [completing, List.filter_append, List.filter_append, callsOfAppend, callsOfAppend,
    announcingCalls, preparingAside plain, errors, answeringCalls plain, List.flatMap_append]
  rfl

theorem loggedEnded (verbose : Bool) (command : Command) (target : Output) (log : SinkId)
    (answer : Answer) :
    ∀ datas ∈ (announced verbose command ++ reported log target answer).dropLast,
      LineSink.Ended datas.flatten := by
  -- The last block is that of the report, unless there is none.
  have shown : ∀ datas ∈ announced verbose command, LineSink.Ended datas.flatten := by
    unfold announced
    split
    · simpa using announcementEnded verbose command
    · simp
  cases answer with
  | exits code chunks =>
    rw [reported, List.dropLast_concat]
    exact shown
  | fails | refuses =>
    rw [reported.eq_def, List.append_nil]
    exact fun datas mem => shown datas (List.mem_of_mem_dropLast mem)

theorem loggedWhole (verbose : Bool) (command : Command) (target : Output) (log : SinkId)
    (answer : Answer) : (announced verbose command ++ reported log target answer).flatten.flatten =
      share log (announcement verbose command ++ Chunk.stderrOf answer.chunks) target.sink?
        (Chunk.stdoutOf answer.chunks) log := by
  have front : (announced verbose command).flatten.flatten = announcement verbose command := by
    cases verbose <;> simp [announced, announcement]
  rw [List.flatten_append, List.flatten_append, front, share, if_pos rfl]
  simp only [Output.sinkSome]
  cases answer with
  | exits code chunks =>
    rw [reported, List.flatten_singleton, List.flatten_append, unlessEmptyWhole, unlessEmptyWhole,
      List.append_assoc]
    rfl
  | fails | refuses =>
    simp [reported, Answer.chunks, Chunk.stderrOf, Chunk.stdoutOf]

theorem completingBrought {id : SinkId} {s : Sink} (plain : v.hasDescriptor log = false)
    (other : id ≠ log) (has : v.sink? id = some s) (verbose : Bool) (command : Command)
    (target : Output) (answer : Answer) :
    ((completing v command target log verbose answer).filter (·.sink = id)).flatMap s.brought =
      share log (announcement verbose command ++ Chunk.stderrOf answer.chunks) target.sink?
        (Chunk.stdoutOf answer.chunks) id := by
  have errors : errorStream v log = .pipe := if_neg (by simp [plain])
  rw [share, if_neg other, List.nil_append, completing, List.filter_append, List.filter_append,
    announcingAside verbose command other, List.nil_append, List.flatMap_append, preparingBrought,
    List.nil_append, errors]
  simp only [Output.sinkSome]
  cases answer with
  | exits code chunks =>
    rw [answering, reporting, List.filter_append, List.filter_append, List.filter_append,
      List.flatMap_append, List.flatMap_append, List.flatMap_append, deliveriesBrought, writingOn,
      if_neg (Ne.symm other), outputtingOn, flushingOn, if_neg (Ne.symm other)]
    simp only [outStreamSink, Answer.chunks, List.flatMap_nil, List.nil_append, List.append_nil]
    by_cases here : target = .sink id
    · subst here
      cases open' : v.hasDescriptor id with
      | true => simp [outStream, open', World.sinkDescriptor has open', writing]
      | false => simp [outStream, open', writingBrought]
    · simp [here]
  | fails | refuses => simp [answering, Answer.chunks, Chunk.stdoutOf]

theorem completingInside (plain : v.hasDescriptor log = false) (verbose : Bool) (command : Command)
    (target : Output) (answer : Answer) :
    ∀ a ∈ completing v command target log verbose answer,
      a.sink = log ∨ target.sink? = some a.sink := by
  have errors : errorStream v log = .pipe := if_neg (by simp [plain])
  have shown : ∀ a ∈ announcing verbose command log, a.sink = log := by
    cases verbose <;> simp [announcing, Act.sink]
  have prepared : ∀ a ∈ preparing v target, target.sink? = some a.sink := by
    intro a mem
    unfold preparing at mem
    split at mem
    · split at mem
      · rw [List.mem_singleton.mp mem]
        rfl
      · cases mem
    · cases mem
  have output (out : Bytes) : ∀ a ∈ outputting out target, target.sink? = some a.sink := by
    cases target with
    | standard | collect => simp [outputting]
    | sink id => exact fun a mem => congrArg some (writingInside id out a mem).symm
  intro a mem
  rw [completing, errors] at mem
  rcases List.mem_append.mp mem with first | mem
  · exact .inl (shown a first)
  rcases List.mem_append.mp mem with second | mem
  · exact .inr (prepared a second)
  cases answer with
  | fails | refuses => cases mem
  | exits code chunks =>
    rcases List.mem_append.mp mem with delivered | mem
    · obtain ⟨data, straight, -⟩ := World.deliveriesSink delivered
      exact .inr (Output.sinkSome.mpr (outStreamSink.mp straight).1)
    rcases List.mem_append.mp mem with err | mem
    · exact .inl (writingInside log _ a err)
    rcases List.mem_append.mp mem with out | last
    · exact .inr (output _ a out)
    · rw [List.mem_singleton.mp last]
      exact .inl rfl

variable {s : Sink}

theorem completingRouted (known : v.sink? log = some s) (plain : s.hasDescriptor = false)
    (verbose : Bool) (command : Command) (target : Output) (answer : Answer) :
    v.Routed (v.enact (completing v command target log verbose answer)) log target.sink?
      (share log (announcement verbose command ++ Chunk.stderrOf answer.chunks) target.sink?
        (Chunk.stdoutOf answer.chunks)) := by
  have still := World.sinkPlain known plain
  exact World.enactRouted known plain (completingCalls still verbose command target answer)
    (loggedEnded verbose command target log answer)
    (loggedWhole verbose command target log answer).symm
    (fun id t other has => completingBrought still other has verbose command target answer)
    (completingInside still verbose command target answer)

theorem announcingRouted (known : v.sink? log = some s) (plain : s.hasDescriptor = false)
    (verbose : Bool) (command : Command) :
    v.Routed (v.enact (announcing verbose command log)) log none
      (share log (announcement verbose command) none []) := by
  have routed := completingRouted known plain verbose command .standard (.refuses .zeroByte)
  simp only [completing, preparing, answering, Answer.chunks, List.append_nil] at routed
  simpa [Chunk.stderrOf, Chunk.stdoutOf, Output.sink?] using routed

theorem quietRouted (known : v.sink? log = some s) (plain : s.hasDescriptor = false)
    (target : Option SinkId) : v.Routed v log target (share log [] none []) := by
  have nothing : share log [] none [] = fun _ => [] := by
    funext id
    simp [share]
  rw [nothing]
  have none' : Sink.callsOf (([] : List Act).filter (·.sink = log)) =
      ([] : List (List Bytes)).flatMap Sink.block := rfl
  exact World.enactRouted known plain none' (by simp) rfl (fun _ _ _ _ => rfl) (by simp)

def finishing (process : Child) (log : SinkId) : List Act :=
  World.deliveries process.stdout .pipe process.chunks ++
    (writing log (Chunk.stderrOf process.chunks) ++ [.call log .flush])

theorem finishEnacts {process : Child} (errors : process.stderr = .pipe)
    (forwarded : process.forwarder = some log) :
    v.finish process = v.enact (finishing process log) := by
  rw [finishing, World.enactAppend, World.enactAppend, World.finish, errors, forwarded,
    World.deliverEnacts]
  unfold writing
  by_cases silent : Chunk.stderrOf process.chunks = []
  · rw [if_neg (not_not.mpr silent)]
    simp only [if_pos silent]
    rfl
  · rw [if_pos silent]
    simp only [if_neg silent]
    rfl

def straight (v : World) : Stream → Bytes → Bytes
  | .sink id, out => if ((v.sink? id).map Sink.hasDescriptor).getD false then out else []
  | _, _ => []

theorem finishingRouted (known : v.sink? log = some s) (plain : s.hasDescriptor = false)
    (process : Child) :
    v.Routed (v.enact (finishing process log)) log process.stdout.sink?
      (share log (Chunk.stderrOf process.chunks) process.stdout.sink?
        (straight v process.stdout (Chunk.stdoutOf process.chunks))) := by
  have onLog : Sink.callsOf ((finishing process log).filter (·.sink = log)) =
      [unlessEmpty (Chunk.stderrOf process.chunks)].flatMap Sink.block := by
    rw [finishing, List.filter_append, List.filter_append, callsOfAppend, callsOfAppend,
      deliveriesCalls, writingOn, if_pos rfl, writingCalls, flushingOn, if_pos rfl,
      List.flatMap_singleton, Sink.block, List.nil_append]
    rfl
  have brought (id : SinkId) (t : Sink) (has : v.sink? id = some t) :
      (if process.stdout = .sink id ∧ t.hasDescriptor = true then Chunk.stdoutOf process.chunks
        else []) =
      if process.stdout.sink? = some id then
        straight v process.stdout (Chunk.stdoutOf process.chunks) else [] := by
    by_cases here : process.stdout = .sink id
    · simp [here, Stream.sink?, straight, has]
    · simp [here, Stream.sinkSome]
  refine World.enactRouted known plain onLog (by simp) ?_ (fun id t other has => ?_) ?_
  · rw [share, if_pos rfl, ← brought log s known, plain]
    simp [unlessEmptyWhole]
  · rw [share, if_neg other, finishing, List.filter_append, List.filter_append,
      List.flatMap_append, List.flatMap_append, deliveriesBrought, writingOn, flushingOn,
      if_neg (Ne.symm other), if_neg (Ne.symm other), brought id t has]
    simp
  · intro a mem
    rcases List.mem_append.mp mem with delivered | mem
    · obtain ⟨data, direct, -⟩ := World.deliveriesSink delivered
      exact .inr (Stream.sinkSome.mpr direct)
    left
    rcases List.mem_append.mp mem with err | last
    · exact writingInside log _ a err
    · rw [List.mem_singleton.mp last]
      rfl

end Bridge
end ContainerDriver
