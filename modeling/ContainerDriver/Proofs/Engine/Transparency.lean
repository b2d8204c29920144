import ContainerDriver.Proofs.Engine.Keeping
import ContainerDriver.Proofs.Engine.Muted

/-! Logging changes nothing but logs, as long as what is logged can be. Two sessions of the same steps
go the same way, whatever sinks they are given; if one is verbose and the other is not they part at
the first command whose line is no valid Unicode, because such a line cannot be shown. -/
namespace ContainerDriver

def Entry.announced? : Entry → Option Text
  | event (.running line) => some line
  | _ => none

namespace World

def Legible (w : World) : Prop := ∀ line ∈ w.journal.filterMap Entry.announced?, line.Unicode

instance (w : World) : Decidable w.Legible := List.decidableBAll _ _

theorem legibleMuted {w : World} : w.muted.Legible ↔ w.Legible := by
  have same (e : Entry) : e.muted?.bind Entry.announced? = e.announced? := by
    cases e with
    | event e => cases e <;> rfl
    | _ => rfl
  simp only [Legible, muted, List.filterMap_filterMap, same]

def Spoilt (apart : Prop) (w : World) : Prop := apart ∧ ¬ w.Legible

theorem Spoilt.record {apart : Prop} {w : World} (spoilt : w.Spoilt apart) (e : Entry) :
    (w.record e).Spoilt apart :=
  ⟨spoilt.1, fun legible => spoilt.2 fun line mem => legible line <| by
    rw [World.record, List.filterMap_append]
    exact List.mem_append_left _ mem⟩

theorem Spoilt.settle {apart : Prop} {w : World} (spoilt : w.Spoilt apart) :
    w.settle.Spoilt apart := by
  refine ⟨spoilt.1, fun legible => spoilt.2 ?_⟩
  rw [← legibleMuted, settleMuted] at legible
  exact legibleMuted.mp legible

end World

theorem Alike.spoilt {apart : Prop} {w w' : World} (alike : Alike w w') (spoilt : w.Spoilt apart) :
    w'.Spoilt apart :=
  ⟨spoilt.1, fun legible => spoilt.2 <| World.legibleMuted.mp <|
    (show w.muted = w'.muted from alike) ▸ World.legibleMuted.mpr legible⟩

/-- The two operations come to the same result and leave worlds that differ in logs only, or leave
worlds that show why they do not. -/
structure Faithful (apart : Prop) {α : Type} (p q : Op α) : Prop where
  left : Keeps (World.Spoilt apart) p
  right : Keeps (World.Spoilt apart) q
  agree : ∀ w w', Alike w w' →
    (∃ r v v', (p.run w).run = (r, v) ∧ (q.run w').run = (r, v') ∧ Alike v v') ∨
      ((p.run w).run.2.Spoilt apart ∧ (q.run w').run.2.Spoilt apart)

namespace Faithful

variable {apart : Prop} {α β : Type} {p p' q q' : Op α}

theorem ofTransparent (left : Keeps (World.Spoilt apart) p) (right : Keeps (World.Spoilt apart) q)
    (agreed : Transparent p q) : Faithful apart p q :=
  ⟨left, right, fun w w' alike => .inl (agreed w w' alike)⟩

theorem value (a : α) : Faithful apart (pure a) (pure a) :=
  ofTransparent (.value a) (.value a) (.value a)

theorem failure (f : Fault) : Faithful apart (throw f : Op α) (throw f) :=
  ofTransparent (.failure f) (.failure f) (.failure f)

theorem record (e : Entry) :
    Faithful apart (modify (·.record e) : Op PUnit) (modify (·.record e)) :=
  ofTransparent (.change fun _ spoilt => spoilt.record e) (.change fun _ spoilt => spoilt.record e)
    (.change fun _ _ alike => alike.record rfl)

theorem step {next next' : α → Op β} (first : Faithful apart p p')
    (rest : ∀ a, Faithful apart (next a) (next' a)) :
    Faithful apart (p >>= next) (p' >>= next') where
  left := .step first.left fun a => (rest a).left
  right := .step first.right fun a => (rest a).right
  agree w w' alike := by
    obtain ⟨r, v, v', ran, ran', later⟩ | ⟨spoilt, spoilt'⟩ := first.agree w w' alike
    · cases r with
      | error f => exact .inl ⟨.error f, v, v', Op.bindError ran, Op.bindError ran', later⟩
      | ok a =>
        rw [Op.bindOk ran, Op.bindOk ran']
        exact (rest a).agree v v' later
    · exact .inr ⟨Keeps.onward spoilt fun a => (rest a).left,
        Keeps.onward spoilt' fun a => (rest a).right⟩

theorem caught {handler handler' : Fault → Op α} (first : Faithful apart p p')
    (rest : ∀ f, Faithful apart (handler f) (handler' f)) :
    Faithful apart (tryCatch p handler) (tryCatch p' handler') where
  left := .caught first.left fun f => (rest f).left
  right := .caught first.right fun f => (rest f).right
  agree w w' alike := by
    obtain ⟨r, v, v', ran, ran', later⟩ | ⟨spoilt, spoilt'⟩ := first.agree w w' alike
    · cases r with
      | ok a => exact .inl ⟨.ok a, v, v', Op.catchOk ran, Op.catchOk ran', later⟩
      | error f =>
        rw [Op.catchError ran, Op.catchError ran']
        exact (rest f).agree v v' later
    · exact .inr ⟨Keeps.onwardCaught spoilt fun f => (rest f).left,
        Keeps.onwardCaught spoilt' fun f => (rest f).right⟩

theorem emit (e : Event) : Faithful apart (Op.emit e) (Op.emit e) := record (.event e)

theorem both (one : Transparent p q) (other : Transparent p' q') (between : Faithful apart q q') :
    Faithful apart p p' := by
  have kept {p q : Op α} (agreed : Transparent p q) (keeps : Keeps (World.Spoilt apart) q) :
      Keeps (World.Spoilt apart) p := by
    intro w spoilt
    obtain ⟨r, v, v', ran, ran', alike⟩ := agreed w w rfl
    have later := keeps w spoilt
    rw [ran'] at later
    rw [ran]
    exact Alike.spoilt alike.symm later
  refine ⟨kept one between.left, kept other between.right, fun w w' alike => ?_⟩
  obtain ⟨r, v, u, ran, mute, near⟩ := one w w rfl
  obtain ⟨r', v', u', ran', mute', near'⟩ := other w' w' rfl
  obtain ⟨s, x, x', same, same', later⟩ | ⟨spoilt, spoilt'⟩ := between.agree w w' alike
  · obtain ⟨rfl, rfl⟩ := Prod.mk.inj (mute.symm.trans same)
    obtain ⟨rfl, rfl⟩ := Prod.mk.inj (mute'.symm.trans same')
    exact .inl ⟨_, v, v', ran, ran', near.trans (later.trans near'.symm)⟩
  · rw [mute] at spoilt
    rw [mute'] at spoilt'
    rw [ran, ran']
    exact .inr ⟨Alike.spoilt near.symm spoilt, Alike.spoilt near'.symm spoilt'⟩

end Faithful

namespace Bridge

theorem launchSpoilt {apart : Prop} (command : Command) (stdin stdout stderr : Stream)
    (input : Option Bytes) :
    Keeps (World.Spoilt apart) (launch command stdin stdout stderr input) := by
  intro w spoilt
  rw [launchConcludes]
  unfold conclude
  cases (reply w.script w.parent command (unattachable? w stdout)).1 <;>
    exact World.Spoilt.record (w := w) spoilt _

variable {α : Type} (verbose verbose' : Bool) (command : Command)

theorem declareFaithful {rest : Op α} (follows : Faithful (verbose ≠ verbose') rest rest) :
    Faithful (verbose ≠ verbose') (do declare verbose command; rest)
      (do declare verbose' command; rest) := by
  -- Only a line that is no valid Unicode, shown in one run and not in the other, parts them.
  have permitted (verbose : Bool) {apart : Prop} :
      Keeps (World.Spoilt apart) (permit verbose command) := by
    unfold permit
    split
    · exact .failure _
    · exact .value ()
  have announced (verbose : Bool) {apart : Prop} :
      Keeps (World.Spoilt apart) (declare verbose command) := by
    exact .step (.change fun _ spoilt => spoilt.record _) fun _ => permitted verbose
  by_cases same : command.unshown? verbose = command.unshown? verbose'
  · refine .step (.ofTransparent (announced _) (announced _) ?_) fun _ => follows
    unfold declare permit
    rw [same]
    exact .step (.emit _) fun _ => by split <;> first | exact .failure _ | exact .value ()
  · have broken : verbose ≠ verbose' ∧ ¬ command.render.Unicode := by
      refine ⟨fun equal => same (equal ▸ rfl), fun unicode => same ?_⟩
      rw [Command.unshownNone.mpr fun _ => unicode, Command.unshownNone.mpr fun _ => unicode]
    have spoils (verbose'' : Bool) (w : World) :
        (((do declare verbose'' command; rest).run w).run).2.Spoilt (verbose ≠ verbose') := by
      have shown : (w.record (.event (.running command.render))).Spoilt (verbose ≠ verbose') :=
        ⟨broken.1, fun legible => broken.2 <| legible _ <| by
          simp [World.record, Entry.announced?]⟩
      have emitted : ((Op.emit (.running command.render)).run w).run =
          (.ok (), w.record (.event (.running command.render))) := rfl
      rw [declare, bind_assoc, Op.bindOk emitted]
      exact Keeps.step (permitted verbose'') (fun _ => follows.left) _ shown
    exact ⟨.step (announced _) fun _ => follows.left, .step (announced _) fun _ => follows.left,
      fun w w' _ => .inr ⟨spoils verbose w, spoils verbose' w'⟩⟩

theorem launchFaithful {apart : Prop} (stdin stdout stderr : Stream) (input : Option Bytes) :
    Faithful apart (launch command stdin stdout stderr input)
      (launch command stdin stdout stderr input) :=
  .ofTransparent (launchSpoilt _ _ _ _ _) (launchSpoilt _ _ _ _ _) <|
    .ofFrom fun _ => launchTransparent command stdin input stdout stderr stdout stderr rfl

theorem muteFaithful (input : Option Bytes) (give : Int → List Chunk → α) :
    Faithful (verbose ≠ verbose') (mute verbose command input give)
      (mute verbose' command input give) :=
  declareFaithful verbose verbose' command <|
    .step (launchFaithful command _ _ _ _) fun _ => .step (.emit _) fun _ => .value _

theorem muteStartFaithful (interactive : Bool) (stdout : Stream) :
    Faithful (verbose ≠ verbose') (muteStart verbose command interactive stdout)
      (muteStart verbose' command interactive stdout) := by
  refine declareFaithful verbose verbose' command <|
    .step (launchFaithful command _ _ _ _) fun out => .step ?_ fun _ =>
      .step (.emit _) fun _ => .value out.1
  exact .ofTransparent (.change fun _ spoilt => spoilt) (.change fun _ spoilt => spoilt)
    (.change fun _ _ alike => alike.leave rfl)

end Bridge

theorem faithful (c : Client) (verbose : Bool) (log log' : Option SinkId) :
    Lawful c verbose log log' (fun _ => Faithful (c.verbose ≠ verbose)) where
  value a := .value a
  failure _ := .failure _
  step first next := .step first next
  onError first handled := .caught first fun f => by
    cases f with
    | error e => exact .step handled fun _ => .failure _
    | _ => exact .failure _
  pardon remark _ first := .caught first fun f => by
    cases f with
    | error e => exact .emit _
    | _ => exact .failure _
  emit e _ := .emit e
  checkOpen := by
    have keeps : Keeps (World.Spoilt (c.verbose ≠ verbose)) Client.checkOpen := .look fun w => by
      split
      · exact .failure _
      · exact .value ()
    refine .ofTransparent keeps keeps (.look fun w w' alike => ?_)
    rw [alike.read World.closed fun _ => rfl]
    split
    · exact .failure _
    · exact .value _
  clock next :=
    { left := .look fun w => (next w w rfl).left
      right := .look fun w => (next w w rfl).right
      agree := fun w w' alike => (next w w' (alike.read World.now fun _ => rfl)).agree w w' alike }
  connected pid := .record _
  sink context next := by
    have opened : Keeps (World.Spoilt (c.verbose ≠ verbose)) (Op.ownSink context) :=
      fun _ spoilt => spoilt
    have made {β : Type} {q : SinkId → Op β} (log : Option SinkId)
        (keeps : ∀ id, log.getD id = id → Keeps (World.Spoilt (c.verbose ≠ verbose)) (q id)) :
        Keeps (World.Spoilt (c.verbose ≠ verbose)) (Op.sinkOr log context >>= q) := by
      cases log with
      | some id => exact keeps id rfl
      | none => exact .step opened fun id => keeps id rfl
    refine ⟨made log fun id same => (next id (log'.getD id) same ?_).left,
      made log' fun id same => (next (log.getD id) id ?_ same).right, fun w w' alike => ?_⟩
    · cases log' <;> rfl
    · cases log <;> rfl
    · have first (log : Option SinkId) (w : World) : ∃ id v, log.getD id = id ∧
          ((Op.sinkOr log context).run w).run = (.ok id, v) ∧ Alike v w := by
        cases log with
        | some id => exact ⟨id, w, rfl, rfl, rfl⟩
        | none => exact ⟨_, _, rfl, rfl, w.ownSinkMuted _⟩
      obtain ⟨id, v, same, ran, near⟩ := first log w
      obtain ⟨id', v', same', ran', near'⟩ := first log' w'
      rw [Op.bindOk ran, Op.bindOk ran']
      exact (next id id' same same').agree v v' (near.trans (alike.trans near'.symm))
  run args input output :=
    .both (Bridge.runTransparent _ _ input output log) (Bridge.runTransparent _ _ input output log')
      (Bridge.muteFaithful _ _ _ _ _)
  runInto args id id' _ _ :=
    .both (Bridge.runTransparent _ _ none (.sink id) (some id))
      (Bridge.runTransparent _ _ none (.sink id') (some id')) (Bridge.muteFaithful _ _ _ _ _)
  capture args input :=
    .both (Bridge.captureTransparent _ _ input log) (Bridge.captureTransparent _ _ input log')
      (Bridge.muteFaithful _ _ _ _ _)

theorem faithfulStarting (c : Client) (verbose : Bool) (log log' : Option SinkId) :
    Starting c verbose log log' (fun _ => Faithful (c.verbose ≠ verbose)) :=
  fun _ interactive stdout =>
    .both (Bridge.startTransparent _ _ interactive stdout log)
      (Bridge.startTransparent _ _ interactive stdout log') (Bridge.muteStartFaithful _ _ _ _ _)

theorem Step.changeMuted {s : Step} {f : World → World} (changes : s.change? = some f) :
    (∀ w, (f w).muted = w.muted) ∨ f = ({ · with closed := true }) := by
  cases s with
  | close | enclose =>
    cases changes
    exact .inr rfl
  | remoting image workdir artifact connector =>
    cases connector <;> cases changes
    exact .inr rfl
  | sinkWrite sink data =>
    cases changes
    exact .inl fun w => World.mutedDeaf.write w sink data
  | sinkFlush sink =>
    cases changes
    exact .inl fun w => World.mutedDeaf.flush w sink
  | _ => cases changes

theorem Step.changeFaithful {apart : Prop} {s : Step} {f : World → World}
    (changes : s.change? = some f) : Faithful apart (modify f : Op PUnit) (modify f) := by
  obtain quiet | rfl := changeMuted changes
  · have keeps : Keeps (World.Spoilt apart) (modify f : Op PUnit) :=
      .change fun w spoilt => Alike.spoilt (quiet w).symm spoilt
    exact .ofTransparent keeps keeps
      (.change fun w w' alike => (quiet w).trans (alike.trans (quiet w').symm))
  · have keeps : Keeps (World.Spoilt apart) (modify ({ · with closed := true }) : Op PUnit) :=
      .change fun _ spoilt => spoilt
    refine .ofTransparent keeps keeps (.change fun w w' alike => ?_)
    exact congrArg (fun w : World => { w with closed := true }) (show w.muted = w'.muted from alike)

theorem Step.performFaithful (c : Client) (verbose : Bool) (log log' : Option SinkId) (s : Step) :
    Faithful (c.verbose ≠ verbose) (Outcome.plain <$> s.perform c log)
      (Outcome.plain <$> s.perform { c with verbose } log') :=
  (faithful c verbose log log').perform s (fun _ => .failure _)
    (fun _ changes => changeFaithful changes) fun _ => faithfulStarting c verbose log log'

def StepReport.muted (r : StepReport) : Except Fault Outcome × List Child :=
  (r.result.map Outcome.plain, r.processes.map Child.unrouted)

namespace World

variable {w w' : World}

theorem stepSpoilt {apart : Prop} {c : Client} {log : Option SinkId} {s : Step}
    (keeps : Keeps (Spoilt apart) (Outcome.plain <$> s.perform c log)) (spoilt : w.Spoilt apart) :
    (w.step c log s).2.Spoilt apart := by
  have after := keeps w spoilt
  rw [Op.mapRan] at after
  exact after.settle

theorem stepFaithful (c : Client) (verbose : Bool) (log log' : Option SinkId) (s : Step)
    (alike : Alike w w') :
    ((w.step c log s).1.muted = (w'.step { c with verbose } log' s).1.muted ∧
      Alike (w.step c log s).2 (w'.step { c with verbose } log' s).2) ∨
    ((w.step c log s).2.Spoilt (c.verbose ≠ verbose) ∧
      (w'.step { c with verbose } log' s).2.Spoilt (c.verbose ≠ verbose)) := by
  obtain ⟨r, v, v', ran, ran', later⟩ | ⟨spoilt, spoilt'⟩ :=
    (s.performFaithful c verbose log log').agree w w' alike
  · rw [Op.mapRan] at ran ran'
    obtain ⟨result, rfl⟩ := Prod.mk.inj ran
    obtain ⟨result', rfl⟩ := Prod.mk.inj ran'
    have processes := congrArg World.processes later
    exact .inl ⟨Prod.ext (result.trans result'.symm) processes, later.settle⟩
  · rw [Op.mapRan] at spoilt spoilt'
    exact .inr ⟨spoilt.settle, spoilt'.settle⟩

theorem sessionSpoilt (c : Client) (verbose : Bool)
    (steps : List (Option SinkId × Option SinkId × Step))
    (spoilt : w.Spoilt (c.verbose ≠ verbose)) (spoilt' : w'.Spoilt (c.verbose ≠ verbose)) :
    (w.session c (steps.map fun s => (s.1, s.2.2))).2.Spoilt (c.verbose ≠ verbose) ∧
      (w'.session { c with verbose } (steps.map fun s => (s.2.1, s.2.2))).2.Spoilt
        (c.verbose ≠ verbose) := by
  induction steps generalizing w w' with
  | nil => exact ⟨spoilt, spoilt'⟩
  | cons step rest ih =>
    obtain ⟨log, log', s⟩ := step
    have performed := s.performFaithful c verbose log log'
    exact ih (stepSpoilt performed.left spoilt) (stepSpoilt performed.right spoilt')

theorem sessionFaithful (c : Client) (verbose : Bool)
    (steps : List (Option SinkId × Option SinkId × Step)) (alike : Alike w w') :
    let one := w.session c (steps.map fun s => (s.1, s.2.2))
    let two := w'.session { c with verbose } (steps.map fun s => (s.2.1, s.2.2))
    (one.1.map StepReport.muted = two.1.map StepReport.muted ∧ Alike one.2 two.2) ∨
      (one.2.Spoilt (c.verbose ≠ verbose) ∧ two.2.Spoilt (c.verbose ≠ verbose)) := by
  induction steps generalizing w w' with
  | nil => exact .inl ⟨rfl, alike⟩
  | cons step rest ih =>
    obtain ⟨log, log', s⟩ := step
    obtain ⟨report, after⟩ | ⟨spoilt, spoilt'⟩ := stepFaithful c verbose log log' s alike
    · obtain ⟨reports, last⟩ | ended := ih after
      · exact .inl ⟨congrArg₂ List.cons report reports, last⟩
      · exact .inr ended
    · exact .inr (sessionSpoilt c verbose rest spoilt spoilt')

end World

/-- Verbosity and the choice of sinks change neither what any operation of a session gives, raises
or leaves running, nor what is tried, announced and handed on, nor anything else but logs. Where
verbosity differs, the command lines that are announced have to be valid Unicode. -/
theorem loggingTransparent (c : Client) (verbose : Bool)
    (steps : List (Option SinkId × Option SinkId × Step)) (w : World)
    (legible : c.verbose ≠ verbose →
      (w.session c (steps.map fun s => (s.1, s.2.2))).2.Legible) :
    let one := w.session c (steps.map fun s => (s.1, s.2.2))
    let two := w.session { c with verbose } (steps.map fun s => (s.2.1, s.2.2))
    one.1.map StepReport.muted = two.1.map StepReport.muted ∧ one.2.muted = two.2.muted := by
  obtain same | ⟨spoilt, -⟩ := World.sessionFaithful c verbose steps (w := w) rfl
  · exact same
  · exact absurd (legible spoilt.1) spoilt.2

def undecodedImage : Text := [.surrogate ⟨0x4FF, by decide⟩]

theorem loggingTransparentPull :
    (({} : World).session {} [(none, .pull "ubuntu")]).2.Legible ∧
    (({} : World).session {} [(none, .pull "ubuntu")]).1.map StepReport.muted =
      (({} : World).session { verbose := true } [(none, .pull "ubuntu")]).1.map
        StepReport.muted := by
  have legible : (({} : World).session {} [(none, .pull "ubuntu")]).2.Legible := by
    decide +kernel
  exact ⟨legible, (loggingTransparent {} true [(none, none, .pull "ubuntu")] {}
    fun _ => legible).1⟩

theorem undecodedParts :
    (({} : World).session {} [(none, .pull undecodedImage)]).1.map (·.result) = [.ok .nothing] ∧
    (({} : World).session { verbose := true } [(none, .pull undecodedImage)]).1.map (·.result) =
      [.error (.unencodable ⟨"$ docker pull " ++ undecodedImage ++ "\n", 14, 15⟩)] := by
  decide +kernel

end ContainerDriver
