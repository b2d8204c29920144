import ContainerDriver.Proofs.Engine.Composition
import ContainerDriver.Proofs.Engine.Secrecy

/-! Closing. A client is closed by its caller or by a connector and stays so; a closed one refuses
every operation before anything else is done, and an open one refuses none. -/
namespace ContainerDriver

def Steady (good : Fault → Prop) {α : Type} (p : Op α) : Prop :=
  ∀ w, ∃ r w', (p.run w).run = (r, w') ∧ w'.closed = w.closed ∧
    ∀ f, r = .error f → good f ∨ w.closed = true

theorem Client.checkOpenRefuses {w : World} (closed : w.closed = true) :
    (checkOpen.run w).run = (.error (.error .refused), w) := by
  have current : ((get : Op World).run w).run = (.ok w, w) := rfl
  refine (Op.bindOk current).trans ?_
  rw [if_pos closed]
  rfl

theorem Core.callOrdinary {k : Core} {verbose : Bool} {command : Command} {input : Option Bytes}
    {barred : Option Answer} {f : Fault}
    (failed : (k.call verbose command input barred).1 = .error f) : f.Ordinary := by
  unfold call at failed
  cases shown : command.unshown? verbose with
  | some e =>
    rw [shown] at failed
    cases failed
    trivial
  | none =>
    rw [shown] at failed
    cases answer : k.answer command barred with
    | exits code chunks =>
      rw [answer] at failed
      cases failed
    | fails | refuses =>
      rw [answer] at failed
      cases failed
      trivial

namespace Steady

variable {good : Fault → Prop} {α β : Type} {p : Op α} {q : α → Op β}

theorem weaken {good' : Fault → Prop} (steady : Steady good p) (more : ∀ f, good f → good' f) :
    Steady good' p := by
  intro w
  obtain ⟨r, w', ran, kept, fine⟩ := steady w
  exact ⟨r, w', ran, kept, fun f same => (fine f same).imp_left (more f)⟩

theorem value (a : α) : Steady good (pure a) :=
  fun w => ⟨.ok a, w, rfl, rfl, fun f same => by cases same⟩

theorem failure {f : Fault} (fine : good f) : Steady good (throw f : Op α) := by
  refine fun w => ⟨.error f, w, rfl, rfl, fun g same => ?_⟩
  cases same
  exact .inl fine

theorem silent {f : World → World} (silent : ∀ w, (f w).core = w.core) :
    Steady good (modify f : Op PUnit) :=
  fun w => ⟨.ok ⟨⟩, f w, rfl, congrArg Core.closed (silent w), fun f same => by cases same⟩

theorem step (first : Steady good p) (next : ∀ a, Steady good (q a)) : Steady good (p >>= q) := by
  intro w
  obtain ⟨r, w', ran, kept, fine⟩ := first w
  cases r with
  | error f =>
    refine ⟨.error f, w', Op.bindError ran, kept, fun g same => ?_⟩
    cases same
    exact fine f rfl
  | ok a =>
    obtain ⟨r, w'', ran', kept', fine'⟩ := next a w'
    exact ⟨r, w'', (Op.bindOk ran).trans ran', kept'.trans kept, kept ▸ fine'⟩

theorem look {q : World → Op β} (next : ∀ w, Steady good (q w)) : Steady good (get >>= q) :=
  fun w => next w w

theorem caught {handler : Fault → Op α} (first : Steady good p)
    (next : ∀ good' : Fault → Prop, (∀ f, good f → good' f) →
      ∀ f, good' f → Steady good' (handler f)) : Steady good (tryCatch p handler) := by
  -- The handler gets a fault that need not be good when the client is closed.
  intro w
  obtain ⟨r, w', ran, kept, fine⟩ := first w
  cases r with
  | ok a => exact ⟨.ok a, w', Op.catchOk ran, kept, fun f same => by cases same⟩
  | error f =>
    obtain ⟨r, w'', ran', kept', fine'⟩ :=
      next (fun g => good g ∨ w.closed = true) (fun _ => .inl) f (fine f rfl) w'
    refine ⟨r, w'', (Op.catchError ran).trans ran', kept'.trans kept, fun g same => ?_⟩
    exact (fine' g same).elim id fun closed => .inr (kept ▸ closed)

theorem ofEnds {r : World → Except Fault α} {k : World → Core} (ends : ∀ w, Ends p w (r w) (k w))
    (kept : ∀ w, (k w).closed = w.closed) (fine : ∀ w f, r w = .error f → good f) :
    Steady good p := by
  intro w
  obtain ⟨w', ran, core⟩ := ends w
  exact ⟨r w, w', ran, (congrArg Core.closed core).trans (kept w),
    fun f same => .inl (fine w f same)⟩

theorem command (give : Core → Int × List Chunk → α) {verbose : Bool} {command : Command}
    {input : Option Bytes} (barred : World → Option Answer)
    (ordinary : ∀ f : Fault, f.Ordinary → good f)
    (ends : ∀ w : World, Ends p w
      ((w.core.call verbose command input (barred w)).1.map (give w.core))
      (w.core.call verbose command input (barred w)).2) : Steady good p := by
  refine ofEnds ends (fun w => (w.core.callFrame _ _ _ _).1) fun w f failed => ?_
  cases called : (w.core.call verbose command input (barred w)).1 with
  | ok out => simp [called, Except.map] at failed
  | error g =>
    rw [called] at failed
    cases failed
    exact ordinary _ (Core.callOrdinary called)

theorem lawful (ordinary : ∀ f : Fault, f.Ordinary → good f) (c : Client) (log : Option SinkId) :
    Lawful c c.verbose log log (fun _ p _ => Steady good p) where
  value := value
  failure fine := failure (ordinary _ fine)
  step := step
  onError first handled := caught first fun good' more f fine => by
    cases f with
    | error e => exact step (handled.weaken more) fun _ => failure fine
    | _ => exact failure fine
  pardon remark _ first := caught first fun good' more f fine => by
    cases f with
    | error e => exact silent fun w => w.recordSilent ⟨rfl, rfl⟩
    | _ => exact failure fine
  emit e _ := silent fun w => w.recordSilent ⟨rfl, rfl⟩
  checkOpen := by
    intro w
    cases closed : w.closed with
    | false =>
      obtain ⟨w', ran, core⟩ := Client.checkOpenEnds closed
      exact ⟨.ok (), w', ran, (congrArg Core.closed core).trans closed, fun f same => by cases same⟩
    | true =>
      exact ⟨_, w, Client.checkOpenRefuses closed, closed, fun f same => .inr rfl⟩
  clock next := look fun w => next w w rfl
  connected pid := fun w => ⟨.ok ⟨⟩, _, rfl, rfl, fun f same => by cases same⟩
  sink context next := by
    cases log with
    | some id => exact next id id rfl rfl
    | none =>
      refine step ?_ fun id => next id id rfl rfl
      intro w
      obtain ⟨id, w', ran, core⟩ := Op.sinkOrEnds none context (w := w) rfl
      exact ⟨.ok id, w', ran, congrArg Core.closed core, fun f same => by cases same⟩
  run args input output :=
    command (fun _ out => out.1) (fun _ => none) ordinary fun w =>
      Bridge.runEnds c.verbose _ input output log rfl
  runInto args id id' _ _ :=
    command (fun _ out => out.1) (fun _ => none) ordinary fun w =>
      Bridge.runEnds c.verbose _ none (.sink id) (some id) rfl
  capture args input :=
    command (fun _ out => Execution.mk out.1 (Chunk.stdoutOf out.2)) (fun _ => none) ordinary fun w =>
      Bridge.collectEnds c.verbose _ input log rfl

theorem starting (ordinary : ∀ f : Fault, f.Ordinary → good f) (c : Client)
    (log : Option SinkId) :
    Starting c c.verbose log log (fun _ p _ => Steady good p) := fun _ interactive stdout =>
  command (fun k _ => k.nextPid) (Bridge.startBarred? · interactive stdout) ordinary fun _ =>
    Bridge.startEnds c.verbose _ interactive stdout log rfl

theorem unmapped {g : α → β} (steady : Steady good (g <$> p)) : Steady good p := by
  intro w
  obtain ⟨r, w', ran, kept, fine⟩ := steady w
  rw [Op.mapRan] at ran
  obtain ⟨rfl, rfl⟩ := Prod.mk.inj ran
  exact ⟨_, _, rfl, kept, fun f same => fine f (congrArg (Except.map g) same)⟩

end Steady

theorem Client.launchRemotingCloses (c : Client) (image workdir : Text) (artifact : Bytes)
    (log : Option SinkId) : c.launchRemoting image workdir artifact .closes log = (do
      let handle ← c.launchRemoting image workdir artifact .accepts log
      close
      return handle) := by
  -- The connector runs behind everything else, so what it does to the client stays.
  simp [launchRemoting, Connector.connect]

def Fault.Open (f : Fault) : Prop := ∀ e, f = .error e → e.category ≠ .closed

theorem Fault.Ordinary.opened {f : Fault} (ordinary : f.Ordinary) : f.Open := by
  rintro e rfl
  cases e with
  | closed text => exact ordinary.elim
  | _ => simp [Error.category]

namespace Step

def Closing : Step → Prop
  | close | enclose | remoting _ _ _ .closes => True
  | _ => False

def Closes (s : Step) (r : Except Fault Outcome) : Prop := s.Closing ∧ ∃ o, r = .ok o

def IsOperation : Step → Prop
  | createVolume | hasVolume _ | hasContainer _ | imageExists _ | version | pull _
  | buildDockerfile _ _ _ | remoting _ _ _ _ | exec _ _ _ _ _ | close | enclose => True
  | remove name | build _ name | side _ name => name.id ≠ ""
  | _ => False

def refusal : Step → Except Fault Outcome
  | hasVolume name | hasContainer name =>
    if name = "" then .ok (.flag false) else .error (.error .refused)
  | close => .ok .nothing
  | enclose => .ok (.flag true)
  | _ => .error (.error .refused)

variable {c : Client} {log : Option SinkId} {w : World}

theorem steadyUnlessClosing (c : Client) (log : Option SinkId) {s : Step} (stays : ¬ s.Closing) :
    Steady Fault.Open (s.perform c log) := by
  refine ((Steady.lawful (fun _ ordinary => ordinary.opened) c log).perform s ?_ ?_ fun _ =>
    Steady.starting (fun _ ordinary => ordinary.opened) c log).unmapped
  · exact fun image => Steady.failure fun e same => by cases same
  · intro f changed
    cases s with
    | close => exact absurd trivial stays
    | enclose => exact absurd trivial stays
    | remoting image workdir artifact connector =>
      cases connector with
      | closes => exact absurd trivial stays
      | _ => cases changed
    | sinkWrite sink data =>
      cases changed
      exact Steady.silent fun w => w.writeSilent sink data
    | sinkFlush sink =>
      cases changed
      exact Steady.silent fun w => w.flushSilent sink
    | _ => cases changed

theorem performFlag (c : Client) (log : Option SinkId) (s : Step) (w : World) :
    ∃ r w', ((s.perform c log).run w).run = (r, w') ∧
    (w'.closed = true ↔ w.closed = true ∨ s.Closes r) ∧
    ∀ f, r = .error f → f.Open ∨ w.closed = true := by
  by_cases closing : s.Closing
  · cases s with
    | close => exact ⟨.ok .nothing, _, rfl, by simp [Closes, Closing], fun f same => by cases same⟩
    | enclose =>
      exact ⟨.ok (.flag true), _, rfl, by simp [Closes, Closing], fun f same => by cases same⟩
    | remoting image workdir artifact connector =>
      cases connector with
      | closes =>
        have behind : (remoting image workdir artifact .closes).perform c log = (do
            let o ← (remoting image workdir artifact .accepts).perform c log
            Client.close
            return o) := by
          simp [perform, Client.launchRemotingCloses]
        rw [behind]
        obtain ⟨r, w', ran, kept, fine⟩ := steadyUnlessClosing c log
          (s := .remoting image workdir artifact .accepts) id w
        cases r with
        | error f => exact ⟨.error f, w', Op.bindError ran, by simp [kept, Closes], fine⟩
        | ok o =>
          refine ⟨.ok o, { w' with closed := true }, Op.bindOk ran, ?_, fun f same => by cases same⟩
          simp [Closes, Closing]
      | _ => exact closing.elim
    | _ => exact closing.elim
  · obtain ⟨r, w', ran, kept, fine⟩ := steadyUnlessClosing c log closing w
    exact ⟨r, w', ran, by simp [kept, Closes, closing], fine⟩

end Step

namespace Client

variable (c : Client) (log : Option SinkId) {w : World}

theorem captureArgsRefuses (closed : w.closed = true) (args : List Text) :
    ((c.captureArgs args log).run w).run = (.error (.error .refused), w) :=
  Op.bindError (checkOpenRefuses closed)

theorem runArgsRefuses (closed : w.closed = true) (args : List Text) :
    ((c.runArgs args log).run w).run = (.error (.error .refused), w) :=
  Op.bindError (checkOpenRefuses closed)

theorem runLoggedRefuses (closed : w.closed = true) (args : List Text)
    (context : List (String × Value)) :
    ((c.runLogged args context log).run w).run = (.error (.error .refused), w) :=
  Op.bindError (checkOpenRefuses closed)

theorem createRefuses (closed : w.closed = true) (image : Text) (args : List Text) :
    ((c.create image args log).run w).run = (.error (.error .refused), w) :=
  Op.bindError (c.captureArgsRefuses log closed args)

end Client

namespace Step

variable {c : Client} {log : Option SinkId} {w : World}

theorem withHandleNamed {name : HandleName} {q : Handle → Op Outcome}
    {r : Except Fault Outcome × World} (named : name.id ≠ "")
    (next : ∀ handle, ((q handle).run w).run = r) : ((withHandle name q).run w).run = r := by
  unfold withHandle Handle.of?
  rw [dif_pos named]
  exact next _

theorem performRefuses {s : Step} (operation : s.IsOperation) (closed : w.closed = true) :
    ((s.perform c log).run w).run = (s.refusal, w) := by
  cases s with
  | createVolume => exact Op.bindError (Op.bindError (c.captureArgsRefuses log closed _))
  | hasVolume name =>
    by_cases blank : name = ""
    · simp only [perform, refusal, Client.hasVolume, blank, if_true]
      rfl
    · simp only [perform, refusal, Client.hasVolume, blank, if_false]
      exact Op.bindError (Op.bindError (c.captureArgsRefuses log closed _))
  | hasContainer id =>
    by_cases blank : id = ""
    · simp only [perform, refusal, Client.hasContainer, blank, if_true]
      rfl
    · simp only [perform, refusal, Client.hasContainer, blank, if_false]
      exact Op.bindError (Op.bindError (c.captureArgsRefuses log closed _))
  | imageExists image => exact Op.bindError (Op.bindError (c.captureArgsRefuses log closed _))
  | version => exact Op.bindError (Op.bindError (c.captureArgsRefuses log closed _))
  | pull image => exact Op.bindError (Op.bindError (c.runLoggedRefuses log closed _ _))
  | buildDockerfile path tag fresh => exact Op.bindError (c.runLoggedRefuses log closed _ _)
  | remove name =>
    exact withHandleNamed operation fun _ =>
      Op.bindError (Op.bindError (c.runArgsRefuses log closed _))
  | remoting image workdir artifact connector =>
    exact Op.bindError (Op.bindError (c.createRefuses log closed _ _))
  | build image name =>
    exact withHandleNamed operation fun _ =>
      Op.bindError (Op.bindError (c.createRefuses log closed _ _))
  | side image name =>
    exact withHandleNamed operation fun _ =>
      Op.bindError (Op.bindError (c.createRefuses log closed _ _))
  | exec id cmd workdir env stdout =>
    exact Op.bindError (Op.bindError (Client.checkOpenRefuses closed))
  | close => exact congrArg (Prod.mk _) (congrArg (fun b => { w with closed := b }) closed.symm)
  | enclose => exact congrArg (Prod.mk _) (congrArg (fun b => { w with closed := b }) closed.symm)
  | _ => exact operation.elim

end Step

namespace World

variable {c : Client} {w : World}

theorem settleIdle (idle : w.processes = []) : w.settle = w := by
  unfold settle
  rw [idle]
  cases w
  cases idle
  rfl

theorem stepRefuses (log : Option SinkId) {s : Step} (operation : s.IsOperation)
    (closed : w.closed = true) (idle : w.processes = []) :
    w.step c log s = (⟨s.refusal, [], []⟩, w) := by
  simp only [step, Step.performRefuses operation closed, settleIdle idle, idle, List.drop_length]

theorem sessionRefuses (steps : List (Option SinkId × Step)) (closed : w.closed = true)
    (idle : w.processes = []) (operations : ∀ step ∈ steps, step.2.IsOperation) :
    w.session c steps = (steps.map fun step => ⟨step.2.refusal, [], []⟩, w) := by
  induction steps with
  | nil => rfl
  | cons step rest ih =>
    obtain ⟨log, s⟩ := step
    have first := stepRefuses (c := c) log (operations _ List.mem_cons_self) closed idle
    simp only [session, first, ih fun step later => operations step (List.mem_cons_of_mem _ later),
      List.map_cons]

theorem stepFlag (log : Option SinkId) (s : Step) :
    ((w.step c log s).2.closed = true ↔ w.closed = true ∨ s.Closes (w.step c log s).1.result) ∧
    ∀ f, (w.step c log s).1.result = .error f → f.Open ∨ w.closed = true := by
  obtain ⟨r, w', ran, flag, fine⟩ := s.performFlag c log w
  obtain ⟨result, left⟩ := stepRan ran
  have settled : w'.settle.closed = w'.closed := congrArg Core.closed w'.settleSilent
  rw [result, left, settled]
  exact ⟨flag, fine⟩

theorem sessionAppend (w : World) (first later : List (Option SinkId × Step)) :
    w.session c (first ++ later) =
      ((w.session c first).1 ++ ((w.session c first).2.session c later).1,
        ((w.session c first).2.session c later).2) := by
  induction first generalizing w with
  | nil => rfl
  | cons step rest ih => simp only [List.cons_append, session, ih]

theorem sessionSettles {steps : List (Option SinkId × Step)} (some : steps ≠ []) (w : World) :
    (w.session c steps).2.processes = [] := by
  induction steps generalizing w with
  | nil => exact absurd rfl some
  | cons step rest ih =>
    cases rest with
    | nil => rfl
    | cons next rest => exact ih (by simp) _

theorem sessionFlag (steps : List (Option SinkId × Step)) (w : World) :
    (w.session c steps).2.closed = true ↔ w.closed = true ∨
      ∃ done ∈ steps.zip (w.session c steps).1, done.1.2.Closes done.2.result := by
  induction steps generalizing w with
  | nil => simp [session]
  | cons step rest ih =>
    obtain ⟨log, s⟩ := step
    simp only [session, ih, (w.stepFlag log s).1, List.zip_cons_cons, List.mem_cons,
      exists_eq_or_imp, or_assoc]

theorem sessionOpen {steps : List (Option SinkId × Step)}
    (opened : (w.session c steps).2.closed = false) :
    ∀ report ∈ (w.session c steps).1, ∀ f, report.result = .error f → f.Open := by
  induction steps generalizing w with
  | nil => simp [session]
  | cons step rest ih =>
    obtain ⟨log, s⟩ := step
    intro report shown f failed
    have before : w.closed ≠ true := fun closed => by
      have still := (sessionFlag (c := c) ((log, s) :: rest) w).mpr (.inl closed)
      rw [opened] at still
      cases still
    simp only [session, List.mem_cons] at shown
    cases shown with
    | inl first =>
      subst first
      exact ((w.stepFlag log s).2 f failed).resolve_right before
    | inr later => exact ih opened report later f failed

end World

/-- A session closes the client when one of its steps does. Up to then no step is refused; from then
on every operation is, with nothing tried, written or left running, and the world as it was. -/
theorem closedDriverIdle (c : Client) {w : World} (opened : w.closed = false)
    (steps : List (Option SinkId × Step)) :
    let ran := w.session c steps
    (ran.2.closed = true ↔ ∃ done ∈ steps.zip ran.1, done.1.2.Closes done.2.result) ∧
    (ran.2.closed = false → ∀ report ∈ ran.1, ∀ e, report.result = .error (.error e) →
      e.category ≠ .closed) ∧
    (ran.2.closed = true → ∀ late : List (Option SinkId × Step),
      (∀ step ∈ late, step.2.IsOperation) →
      w.session c (steps ++ late) =
        (ran.1 ++ late.map fun step => ⟨step.2.refusal, [], []⟩, ran.2)) := by
  intro ran
  refine ⟨?_, fun still report shown e failed => ?_, fun closed late operations => ?_⟩
  · exact (World.sessionFlag steps w).trans (by simp [opened, ran])
  · exact World.sessionOpen still report shown (.error e) failed e rfl
  · have some : steps ≠ [] := fun none => by
      subst none
      exact absurd (opened.symm.trans closed) (by simp)
    have idle := World.sessionSettles (c := c) some w
    rw [World.sessionAppend, World.sessionRefuses late closed idle operations]

def shutdown : List (Option SinkId × Step) :=
  [(some (.given "log"), .createVolume), (none, .enclose)]

def late : List (Option SinkId × Step) :=
  [(some (.given "log"), .exec "c1" [.pair []] none [] (.sink (.given "log"))),
   (none, .hasVolume ""), (none, .close), (some (.given "log"), .pull "alpine")]

theorem closedDriverIdleLate :
    let ran := logged.session remote shutdown
    (∀ report ∈ (logged.session remote (shutdown.take 1)).1, ∀ e,
      report.result = .error (.error e) → e.category ≠ .closed) ∧
    ran.2.closed = true ∧
    logged.session remote (shutdown ++ late) =
      (ran.1 ++ [⟨.error (.error .refused), [], []⟩, ⟨.ok (.flag false), [], []⟩,
        ⟨.ok .nothing, [], []⟩, ⟨.error (.error .refused), [], []⟩], ran.2) := by
  have opened : logged.closed = false := rfl
  obtain ⟨-, unrefused, -⟩ := closedDriverIdle remote opened (shutdown.take 1)
  obtain ⟨shut, -, refused⟩ := closedDriverIdle remote opened shutdown
  have closed : (logged.session remote shutdown).2.closed = true :=
    shut.mpr ⟨_, List.mem_cons_of_mem _ List.mem_cons_self, trivial, _, rfl⟩
  refine ⟨unrefused (by decide +kernel), closed, ?_⟩
  exact refused closed late (by simp [late, Step.IsOperation])

end ContainerDriver
