import ContainerDriver.Proofs.Engine.Cleanup
import ContainerDriver.Proofs.Engine.Closing
import ContainerDriver.Proofs.Engine.Trace
import ContainerDriver.Proofs.Text.Trim

/-! Handles. The engine gives a container its id when it creates it, and what a launch does
afterwards it does to the container of that id. -/
namespace ContainerDriver

namespace Client

def placed (place : Text) : Text :=
  (place.reverse.dropWhile (· ≠ .char ':')).tail.reverse

/-- The container that a command is about. -/
def container? : List Text → Option Text
  | [verb, id] => if verb = "start" then some id else none
  | [verb, source, target] =>
    if verb = "cp" then some (placed (if source = "-" then target else source))
    else if verb = "rm" then some target
    else none
  | [verb, _, _, id] => if verb = "start" then some id else none
  | _ => none

theorem placedPlace (container : Text) {path : Text} (plain : .char ':' ∉ path) :
    placed (place container path) = container := by
  have reversed : (place container path).reverse =
      path.reverse ++ .char ':' :: container.reverse := by
    simp [place, Text.ofString]
  have skipped : ∀ l ∈ path.reverse, (decide (l ≠ .char ':')) = true := by
    intro l mem
    simp only [ne_eq, decide_not, Bool.not_eq_eq_eq_not, Bool.not_true, decide_eq_false_iff_not]
    rintro rfl
    exact plain (List.mem_reverse.mp mem)
  rw [placed, reversed, List.dropWhile_append_of_pos skipped]
  simp

end Client

def Ask.Names (c : Client) (id : Text) (a : Ask) : Prop :=
  ∃ args, a.command = c.commandFor args ∧ Client.container? args = some id

def Ask.Creates (id : String) (a : Ask) : Prop :=
  ∃ chunks, a.answer = .exits 0 chunks ∧ id = (Execution.mk 0 (Chunk.stdoutOf chunks)).text ∧
    id ≠ ""

namespace Stage

def About (id : Text) (s : Stage) : Prop := Client.container? s.args = some id

theorem aboutSend (id : Text) {directory : Text} (p : Parcel)
    (plain : .char ':' ∉ directory) : (send id directory p).About id :=
  congrArg some (Client.placedPlace id plain)

theorem aboutRetrieve (id : Text) {path : Text} (plain : .char ':' ∉ path) :
    (retrieve id path).About id := by
  refine (congrArg some (congrArg Client.placed ?_)).trans
    (congrArg some (Client.placedPlace id plain))
  exact if_neg (Client.placeNe id path)

theorem createGives {image binary : Text} {args : List Text} {a : Answer} {out : Bytes}
    (good : (create image args).result (a.outcome binary) = .ok out) :
    ∃ chunks, a = .exits 0 chunks ∧ out = Chunk.stdoutOf chunks ∧
      (Execution.mk 0 out).text ≠ "" := by
  cases a with
  | fails e => cases good
  | refuses => cases good
  | exits code chunks =>
    simp only [result, Answer.outcome, create] at good
    split at good
    · next named =>
      cases good
      obtain rfl : code = 0 := by simpa [Execution.ok] using named.1
      exact ⟨chunks, rfl, rfl, named.2⟩
    · cases good

theorem createRejects (image : Text) (args : List Text) {code : Int} {chunks : List Chunk}
    (bad : code ≠ 0 ∨ (Execution.mk 0 (Chunk.stdoutOf chunks)).text = "") :
    (create image args).result (.ok (code, chunks)) =
      .error (.error (.exited .createContainer code ("from image " ++ image))) := by
  refine if_neg fun good => ?_
  have done : code = 0 := by simpa [Execution.ok] using good.1
  subst done
  exact bad.elim (absurd rfl) good.2

end Stage

namespace Launch

variable {c : Client} {l : Launch} {id : Text} {k : Core}

theorem provisionAbout (c : Client) (l : Launch) (id : Text) :
    ∀ s ∈ l.provision c id, s.About id := by
  cases l with
  | remoting image workdir artifact connector =>
    simp only [provision, List.forall_mem_cons]
    exact ⟨Stage.aboutSend id _ (by decide), rfl, by simp⟩
  | build image host =>
    simp only [provision, List.forall_mem_cons]
    exact ⟨Stage.aboutRetrieve id (by decide), Stage.aboutSend id _ (by decide),
      Stage.aboutRetrieve id (by decide), Stage.aboutSend id _ (by decide),
      Stage.aboutSend id _ (by decide), rfl, by simp⟩
  | side image host =>
    simp only [provision, List.forall_mem_cons]
    exact ⟨rfl, by simp⟩

theorem courseNames {stages : List Stage} (about : ∀ s ∈ stages, s.About id) (prev : Bytes)
    (k : Core) : ∃ new, (c.course stages prev k).2.asks = k.asks ++ new ∧
      ∀ a ∈ new, a.Names c id := by
  obtain ⟨new, asks, traced⟩ := c.courseTraced stages prev k
  refine ⟨new, asks, fun a mem => ?_⟩
  obtain ⟨i, here⟩ := List.getElem?_of_mem mem
  obtain ⟨s, -, stage, command, -⟩ := traced.source here
  exact ⟨s.args, command, about s (List.mem_of_getElem? stage)⟩

theorem settleNames (l : Launch) (id : Text) (out : Bytes) (k : Core) :
    (∃ new, (l.settle c id out k).2.asks = k.asks ++ new ∧ ∀ a ∈ new, a.Names c id) ∧
      ∀ id', (l.settle c id out k).1 = .ok id' → id' = id := by
  obtain ⟨new, asks, names⟩ := courseNames (c := c) (l.provisionAbout c id) out k
  obtain ⟨last, settled, removals⟩ := l.settleAsks c id out k
  have removed : ∀ a ∈ last, a.Names c id := fun a mem => ⟨_, removals a mem, rfl⟩
  refine ⟨⟨new ++ last, ?_, List.forall_mem_append.mpr ⟨names, removed⟩⟩, fun id' same => ?_⟩
  · rw [settled, asks, List.append_assoc]
  · revert same
    unfold settle
    cases discarding c id (c.course (l.provision c id) out k) with
    | mk r k' =>
      cases r with
      | error f => exact fun same => by cases same
      | ok out' =>
        unfold handOver
        cases l.connector? with
        | none => exact fun same => (Except.ok.inj same).symm
        | some connector => cases connector <;> simp [eq_comm]

theorem createStage (l : Launch) : l.create = .create l.image l.create.args := by
  cases l <;> rfl

theorem opOrdinary {log : Option SinkId} {w w' : World} {f : Fault}
    (failed : ((l.op c log).run w).run = (.error f, w')) : f.Ordinary ∨ w.closed = true := by
  have laws : Lawful c c.verbose log log (fun _ p _ => Steady Fault.Ordinary p) :=
    Steady.lawful (fun _ ordinary => ordinary) c log
  have starting : Starting c c.verbose log log (fun _ p _ => Steady Fault.Ordinary p) :=
    Steady.starting (fun _ ordinary => ordinary) c log
  have fine {α : Type} {p : Op α} (steady : Steady Fault.Ordinary p) {w' : World}
      (failed : (p.run w).run = (.error f, w')) : f.Ordinary ∨ w.closed = true := by
    obtain ⟨r, v, ran, -, fine⟩ := steady w
    cases failed.symm.trans ran
    exact fine f rfl
  cases l with
  | build image host => exact fine (laws.launchBuild image host) failed
  | side image host =>
    rw [op, map_eq_pure_bind] at failed
    have steady : Steady Fault.Ordinary (c.launchSide image host log) :=
      laws.launchSide starting image host
    exact fine (steady.step fun started => .value started.1) failed
  | remoting image workdir artifact connector =>
    by_cases closes : connector = .closes
    · subst closes
      rw [op, c.launchRemotingCloses] at failed
      have steady := laws.launchRemoting starting image workdir artifact .accepts (by simp)
      cases ran : ((c.launchRemoting image workdir artifact .accepts log).run w).run with
      | mk r v =>
        cases r with
        | error g =>
          cases failed.symm.trans (Op.bindError ran)
          exact fine steady ran
        | ok handle => cases failed.symm.trans (Op.bindOk ran)
    · exact fine
        (laws.launchRemoting starting image workdir artifact connector (absurd · closes)) failed

theorem opRefuses (c : Client) (log : Option SinkId) (l : Launch) {w : World}
    (closed : w.closed = true) : ((l.op c log).run w).run = (.error (.error .refused), w) := by
  cases l with
  | remoting image workdir artifact connector =>
    exact Op.bindError (c.createRefuses log closed _ _)
  | build image host => exact Op.bindError (c.createRefuses log closed _ _)
  | side image host =>
    rw [op, map_eq_pure_bind]
    exact Op.bindError (Op.bindError (c.createRefuses log closed _ _))

theorem opRejected (log : Option SinkId) {w : World} {f : Fault} {k : Core}
    (opened : w.closed = false) (rejected : c.attend l.create none w.core = (.error f, k)) :
    Ends (l.op c log) w (.error f) k := by
  have followed := opFollows c log l opened
  rw [(playRefused rejected).1] at followed
  exact followed

theorem opCreated (log : Option SinkId) {w : World} {out : Bytes} (opened : w.closed = false)
    (given : c.attend l.create none w.core =
      (.ok out, w.core.ask (c.commandFor l.create.args) none)) :
    ∃ r w' later, ((l.op c log).run w).run = (r, w') ∧
      w'.core.asks = w.core.asks ++ w.core.asked (c.commandFor l.create.args) none :: later ∧
      (∀ a ∈ later, a.Names c (Execution.mk 0 out).text) ∧
      ∀ h, r = .ok h → h.image = l.image ∧ h.id = (Execution.mk 0 out).text := by
  have followed := opFollows c log l opened
  have id : l.container c w.core = (Execution.mk 0 out).text := by rw [container, given]
  rw [(playCreated given).1, id] at followed
  obtain ⟨⟨later, asks, names⟩, value⟩ := settleNames (c := c) l (Execution.mk 0 out).text out
    (w.core.ask (c.commandFor l.create.args) none)
  cases settled : l.settle c (Execution.mk 0 out).text out
      (w.core.ask (c.commandFor l.create.args) none) with
  | mk r k =>
    rw [settled] at followed asks value
    have all := asks.trans (List.append_assoc _ _ _)
    cases r with
    | error f =>
      obtain ⟨w', ran, rfl⟩ := followed
      exact ⟨.error f, w', later, ran, all, names, by simp⟩
    | ok id' =>
      obtain ⟨handle, ⟨w', ran, rfl⟩, image, same⟩ := followed
      refine ⟨.ok handle, w', later, ran, all, names, ?_⟩
      rintro h ⟨⟩
      exact ⟨image, same.trans (value id' rfl)⟩

/-- A handle has the image that was asked for and the id that the engine gave when it created the
container: its output, trimmed, and more than white space. All later commands are about this
container. If the creation fails or gives no id, that is the error and nothing else is done. -/
theorem handleOfCreated (c : Client) (log : Option SinkId) (l : Launch) (w : World) :
    let command := c.commandFor l.create.args
    let created := w.core.asked command none
    ∃ r w' later, ((l.op c log).run w).run = (r, w') ∧
      (∀ image, r ≠ .error (.missingId image)) ∧
      (∀ h, r = .ok h → h.image = l.image ∧
        ∃ id : String, h.id = id ∧ id ≠ "" ∧ Text.Trimmed id.toList ∧ created.Creates id) ∧
      (w.closed = true → r = .error (.error .refused) ∧ w' = w) ∧
      (w.closed = false → ∀ e, command.unshown? c.verbose = some e →
        r = .error (.unencodable e) ∧ w'.core = w.core) ∧
      (w.closed = false → command.unshown? c.verbose = none →
        w'.core.asks = w.core.asks ++ created :: later ∧
        (∀ a ∈ later, ∃ id, created.Creates id ∧ a.Names c id) ∧
        ∀ code chunks, created.answer = .exits code chunks →
          (code ≠ 0 ∨ ∀ ch ∈ Text.Utf8.decodeReplacing (Chunk.stdoutOf chunks),
            Text.isBlank ch = true) →
          r = .error (.error (.exited .createContainer code ("from image " ++ l.image))) ∧
            later = [] ∧ w'.core.connections = w.core.connections) := by
  intro command created
  by_cases closed : w.closed = true
  · refine ⟨_, w, [], opRefuses c log l closed, by simp, by simp, fun _ => ⟨rfl, rfl⟩, ?_, ?_⟩ <;>
      exact fun opened => absurd (closed.symm.trans opened) (by simp)
  have opened : w.closed = false := Bool.eq_false_iff.mpr closed
  cases shown : command.unshown? c.verbose with
  | some e =>
    obtain ⟨w', ran, core⟩ := opRejected log opened (Client.attendUnshown shown)
    refine ⟨_, w', [], ran, by simp, by simp, fun shut => absurd shut closed, ?_, by simp⟩
    rintro - e' ⟨⟩
    exact ⟨rfl, core⟩
  | none =>
    have attended : c.attend l.create none w.core =
        (l.create.result ((w.core.answer command).outcome c.binary), w.core.ask command none) :=
      Client.attendShown shown
    cases result : l.create.result ((w.core.answer command).outcome c.binary) with
    | error f =>
      rw [result] at attended
      obtain ⟨w', ran, core⟩ := opRejected log opened attended
      refine ⟨.error f, w', [], ran, ?_, by simp, fun shut => absurd shut closed, by simp,
        fun _ _ => ?_⟩
      · rintro image ⟨⟩
        exact (opOrdinary ran).elim id closed
      · refine ⟨congrArg Core.asks core, by simp, fun code chunks exits bad => ?_⟩
        have exits : w.core.answer command = .exits code chunks := exits
        have rejected := Stage.createRejects l.image l.create.args
          (bad.imp_right (Execution.textEmpty (e := ⟨0, _⟩)).mpr)
        rw [← l.createStage] at rejected
        rw [exits] at result
        cases result.symm.trans rejected
        exact ⟨rfl, rfl, (congrArg Core.connections core).trans rfl⟩
    | ok out =>
      rw [result] at attended
      obtain ⟨r, w', later, ran, asks, names, handle⟩ := opCreated log opened attended
      rw [l.createStage] at result
      obtain ⟨chunks, exits, rfl, named⟩ := Stage.createGives result
      have creates : created.Creates (Execution.mk 0 (Chunk.stdoutOf chunks)).text :=
        ⟨chunks, exits, rfl, named⟩
      refine ⟨r, w', later, ran, ?_, ?_, fun shut => absurd shut closed, by simp,
        fun _ _ => ⟨asks, ?_, ?_⟩⟩
      · rintro image rfl
        exact (opOrdinary ran).elim id closed
      · intro h returned
        obtain ⟨image, same⟩ := handle h returned
        exact ⟨image, _, same, named, Execution.textTrimmed _, creates⟩
      · exact fun a mem => ⟨_, creates, names a mem⟩
      · intro code chunks' exits' bad
        cases exits.symm.trans exits'
        exact bad.elim (absurd rfl) fun blank => absurd (Execution.textEmpty.mpr blank) named

def murky : World :=
  { script := [⟨["create"],
      .exits 0 [.out [0xE3, 0x80], .err [0x21], .out [0x80, 0xFF, 0x63, 0x1C]], none⟩] }

example : ((beside.op {} none).run murky).run.1 = .ok ⟨"database", "\uFFFDc", by decide⟩ := by
  decide +kernel

end Launch
end ContainerDriver
