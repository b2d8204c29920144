import ContainerDriver.Proofs.CommandLine.Requests

/-! From the command line to the driver. Once the arguments are read, the settings loaded, the log
level set and the driver made, the report is what is concluded from the driver's work, unless closing
the driver fails. -/
namespace ContainerDriver

namespace World

def readied (w : World) (i : Installation) (events : List Event) : World :=
  ({ w with parent := i.environment, closed := false } : World).recordEvents events

def start (w : World) (i : Installation) : Core :=
  { w.core with parent := i.environment, closed := false }

/-- The driver that serves a command line, what it is asked, and the world that it starts in. -/
structure Served (i : Installation) (arguments : List Text) (w : World) (inv : Invocation)
    (s : Settings) (driver : Driver) (w' : World) : Prop where
  accepted : Invocation.ofArguments arguments = .ok inv
  loaded : Settings.load [] i.around = .ok s
  levelled : ∃ t, Threshold.ofWord s.logLevel = .ok t
  made : (createDriver (inv.settings s) [] i.plugins).2 = .ok driver
  started : w' = w.readied i (createDriver (inv.settings s) [] i.plugins).1

theorem readiedCore (w : World) (i : Installation) (events : List Event) :
    (w.readied i events).core = w.start i :=
  recordEventsSilent _ events

theorem tellCore (w : World) (text : Text) : (w.tell text).core = w.core := by
  unfold tell
  split
  · rfl
  · rw [flushSilent, writeSilent]

theorem tellShows {w : World} (shows : w.Shows "stderr") (text : Text) :
    Text.Utf8.ofString text.visible <:+ (w.tell text).contentOf errorStream := by
  obtain ⟨s, has, readable⟩ := shows
  unfold tell
  split
  · next empty =>
    rw [empty]
    exact List.nil_suffix
  · rw [contentOf, sinkFlush _ _ (sinkWrite w errorStream _ has)]
    exact Sink.writeFlushShows readable _

variable {w : World} {i : Installation} {arguments : List Text} {drivers : PluginDrivers}
  {inv : Invocation} {s : Settings} {driver : Driver} {r : Request}

theorem commandLineStops {stop : Options.Stop}
    (rejected : Invocation.ofArguments arguments = .error stop) :
    w.commandLine i arguments drivers = ({ ending := .stopped stop.exitCode, stdout := stop.stdout },
      ({ w with parent := i.environment, closed := false } : World).tell stop.stderr) := by
  simp only [commandLine, rejected]

theorem commandLineUnloaded {e : Settings.LoadError}
    (accepted : Invocation.ofArguments arguments = .ok inv)
    (failed : Settings.load [] i.around = .error e) :
    (w.commandLine i arguments drivers).1.ending = .escaped (.load e) := by
  simp only [commandLine, accepted, failed]

theorem commandLineUnlevelled {f : Threshold.Flaw}
    (accepted : Invocation.ofArguments arguments = .ok inv)
    (loaded : Settings.load [] i.around = .ok s) (failed : Threshold.ofWord s.logLevel = .error f) :
    (w.commandLine i arguments drivers).1.ending = .escaped (.logging f) := by
  simp only [commandLine, accepted, loaded, failed]

section

variable (accepted : Invocation.ofArguments arguments = .ok inv)
  (loaded : Settings.load [] i.around = .ok s) (levelled : ∃ t, Threshold.ofWord s.logLevel = .ok t)
include accepted loaded levelled

theorem commandLineLevelled : w.commandLine i arguments drivers =
    ({ w with parent := i.environment, closed := false } : World).serve i inv s drivers := by
  obtain ⟨t, levelled⟩ := levelled
  simp only [commandLine, accepted, loaded, levelled]

theorem commandLineUnserved {t : Trouble}
    (failed : (createDriver (inv.settings s) [] i.plugins).2 = .error t) :
    (w.commandLine i arguments drivers).1.ending = .escaped (.selection t) := by
  rw [commandLineLevelled accepted loaded levelled]
  simp only [serve, failed]

end

theorem commandLineServes {w' : World} (served : Served i arguments w inv s driver w') :
    w.commandLine i arguments drivers =
      let done := w'.perform drivers inv.request driver
      ({ ending := done.1, stdout := done.2.1, logLevel := some s.logLevel }, done.2.2) := by
  obtain ⟨accepted, loaded, levelled, made, rfl⟩ := served
  rw [commandLineLevelled accepted loaded levelled]
  simp only [serve, made]
  rfl

def closing (drivers : PluginDrivers) (r : Request) (driver : Driver) (w : World) : Option Fault :=
  (driver.close drivers).bind fun close =>
    match ((close.run (w.operate drivers r driver).2.2).run).1 with
    | .ok () => none
    | .error f => some f

theorem performCloses {close : Op Unit} {w' : World} (closes : driver.close drivers = some close)
    (ran : ((close.run (w.operate drivers r driver).2.2).run) = (.ok (), w')) :
    w.perform drivers r driver =
      ((w.operate drivers r driver).1, (w.operate drivers r driver).2.1, w') := by
  simp only [perform, closes, ran]

theorem operateConcludes {operation : Op (Text × Int)} {result : Except Fault (Text × Int)}
    {w' : World} (serves : driver.operate drivers r = some operation)
    (ran : (operation.run w).run = (result, w')) :
    w.operate drivers r driver = conclude result w' := by
  simp only [operate, serves, ran]

theorem performBuiltin {c : Client} {result : Except Fault (Text × Int)} {w' : World}
    (ran : ((r.perform c (some errorStream)).run w).run = (result, w')) :
    w.perform drivers r (.cli c) = ((conclude result w').1, (conclude result w').2.1,
      { (conclude result w').2.2 with closed := true }) := by
  have serves : (Driver.cli c).operate drivers r = some (r.perform c (some errorStream)) := rfl
  have closes : (Driver.cli c).close drivers = some Client.close := rfl
  rw [← operateConcludes serves ran]
  exact performCloses closes rfl

end World
end ContainerDriver
