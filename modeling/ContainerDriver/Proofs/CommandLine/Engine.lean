import ContainerDriver.Proofs.CommandLine.Serving
import ContainerDriver.Proofs.Settings.Checks

/-! From the command line to the engine. With the driver of this library a command line that is read
is one engine command; how the program ends, and what it prints, follows from the engine's answer. A
command whose line has to be shown and cannot be is not tried. -/
namespace ContainerDriver

def Invocation.address (inv : Invocation) (s : Settings) : Option Text :=
  (inv.host.filter (· ≠ ("" : Text))).or (s.engine.uri.filter (· ≠ ("" : Text)))

def Invocation.lead (inv : Invocation) (s : Settings) : List Text :=
  s.engine.binary :: (inv.address s).elim [] fun uri => ["-H", uri]

namespace Request

def exitCode (code : Int) : Request → Int
  | build _ _ _ | remove _ => code
  | _ => if code = 0 then 0 else 1

def printed (e : Execution) : Request → Text
  | version | createVolume => if e.ok then e.text ++ "\n" else ""
  | _ => ""

theorem concludeVerdict (r : Request) (e : Execution) (w : World) :
    (World.conclude (r.verdict e) w).1 = .returned (r.exitCode e.exitCode) ∧
    (World.conclude (r.verdict e) w).2.1 = r.printed e := by
  have nothing : Text.unencodable? "" = none := rfl
  have line : Text.unencodable? (e.text ++ "\n") = none :=
    Text.unencodableNone.mpr (Text.unicodeAppend.mpr ⟨Text.unicodeString _, Text.unicodeString _⟩)
  by_cases done : e.exitCode = 0 <;>
    cases r <;>
    simp [verdict, Request.line, exitCode, printed, Execution.demanded, Execution.ok,
      World.conclude, Except.map, done, nothing, line]

end Request

theorem filterOr {α : Type} (p : α → Bool) (x y : Option α) :
    ((x.filter p).or y).filter p = (x.filter p).or (y.filter p) := by
  cases x with
  | none => rfl
  | some a => by_cases held : p a = true <;> simp [Option.filter, held]

namespace Settings

theorem clientHost (s : Settings) (inv : Invocation) (trampoline : Bytes) :
    ((inv.settings s).client trampoline).endpoint.host = inv.address s := by
  have uri : ((inv.settings s).client trampoline).endpoint.uri =
      (inv.host.filter (· ≠ ("" : Text))).or s.engine.uri := by
    simp only [client, endpoint, Invocation.settings]
  rw [Endpoint.host, uri, Invocation.address, filterOr]

theorem clientArgv (s : Settings) (inv : Invocation) (trampoline : Bytes) (args : List Text) :
    (((inv.settings s).client trampoline).commandFor args).argv =
      inv.lead s ++ args := by
  simp only [Invocation.lead, Client.commandFor, Command.build, Command.argv, Command.lead, clientHost]
  cases inv.address s <;>
    simp [ArgumentList.of, client, Invocation.settings, Function.comp_def]

end Settings

namespace World

variable {w w' : World} {i : Installation} {arguments : List Text} {drivers : PluginDrivers}
  {inv : Invocation} {s : Settings} {c : Client}

theorem concludeCore (result : Except Fault (Text × Int)) (w : World) :
    (conclude result w).2.2.core = w.core := by
  unfold conclude
  split
  · split <;> rfl
  · exact tellCore w _
  · rfl

theorem Served.client (served : Served i arguments w inv s (.cli c) w') :
    c = (inv.settings s).client [] :=
  Selection.createDriverBuiltin served.made

theorem Served.core (served : Served i arguments w inv s (.cli c) w') : w'.core = w.start i := by
  rw [served.started, readiedCore]

theorem Served.named (served : Served i arguments w inv s (.cli c) w') {id : Text}
    (asked : inv.request = .remove id) : Text.blank id = false :=
  Invocation.removeNamed served.accepted asked

theorem servedConcludes (drivers : PluginDrivers)
    (served : Served i arguments w inv s (.cli c) w') :
    ∃ last, last.core = c.called (w.start i) inv.request.args ∧
      (w.Shows "stderr" → last.Shows "stderr") ∧
      w.commandLine i arguments drivers =
        let concluded := conclude ((c.executed (w.start i) inv.request.args).bind
          fun e => inv.request.verdict e) last
        ({ ending := concluded.1, stdout := concluded.2.1, logLevel := some s.logLevel },
          { concluded.2.2 with closed := true }) := by
  have named : inv.request.Named := by
    rintro id asked rfl
    exact absurd (served.named asked) (by decide)
  have opened : w'.closed = false := congrArg Core.closed served.core
  obtain ⟨last, ran, core⟩ : Ends (inv.request.perform c (some errorStream)) w' _ _ :=
    Request.performEnds inv.request named opened
  rw [served.core] at ran core
  have keeps := Request.performKeeps inv.request c (some errorStream) "stderr" w'
  rw [ran] at keeps
  refine ⟨last, core, fun shows => keeps (served.started ▸ shows), ?_⟩
  rw [commandLineServes served, performBuiltin ran]

/-- What the program makes of the engine's answer to a request: how it ends, what it prints, and what
stands last on the error stream. -/
def Answered (binary : Text) (r : Request) (w : World) (report : Report) (last : World) :
    Answer → Prop
  | .exits code chunks => report.ending = .returned (r.exitCode code) ∧
    report.stdout = r.printed ⟨code, Chunk.stdoutOf chunks⟩
  | .fails e => report.ending = .returned 1 ∧ report.stdout = "" ∧ (w.Shows "stderr" →
    Text.Utf8.ofString ("dockins: " ++ (Error.launch binary e.reason).message ++ "\n").visible <:+
      last.contentOf errorStream)
  | .refuses refusal => report.ending = .escaped (.fault (.launchRefused refusal)) ∧
    report.stdout = ""

section

variable (served : Served i arguments w inv s (.cli c) w')
include served

theorem commandLineUnshown {e : Text.Unencodable}
    (unshown : (c.commandFor inv.request.args).unshown? c.verbose = some e) :
    (w.commandLine i arguments drivers).1.ending = .escaped (.fault (.unencodable e)) ∧
    (w.commandLine i arguments drivers).1.stdout = "" ∧
    (w.commandLine i arguments drivers).2.core.asks = w.core.asks := by
  obtain ⟨last, core, -, done⟩ := servedConcludes drivers served
  rw [Client.called, Core.call, unshown] at core
  rw [done, Client.executed, Core.call, unshown]
  exact ⟨rfl, rfl, (congrArg Core.asks core).trans rfl⟩

variable (shown : (c.commandFor inv.request.args).unshown? c.verbose = none)
include shown

theorem commandLineAsked : (w.commandLine i arguments drivers).2.core.asks =
    w.core.asks ++ [(w.start i).asked (c.commandFor inv.request.args) none] := by
  obtain ⟨last, core, -, done⟩ := servedConcludes drivers served
  rw [Client.called, Core.call, shown] at core
  rw [done]
  refine (congrArg Core.asks (concludeCore _ last)).trans ?_
  rw [core]
  rfl

theorem commandLineAnswered :
    Answered s.engine.binary inv.request w (w.commandLine i arguments drivers).1
      (w.commandLine i arguments drivers).2
      ((w.start i).answer (c.commandFor inv.request.args)) := by
  obtain ⟨last, -, shows, done⟩ := servedConcludes drivers served
  have binary : c.binary = s.engine.binary := by
    rw [served.client]
    rfl
  rw [done, Client.executed, Core.call, shown]
  dsimp only
  cases (w.start i).answer (c.commandFor inv.request.args) with
  | exits code chunks => exact inv.request.concludeVerdict ⟨code, Chunk.stdoutOf chunks⟩ last
  | fails e =>
    refine ⟨rfl, rfl, fun visible => ?_⟩
    rw [← binary]
    exact tellShows (shows visible) _
  | refuses refusal => exact ⟨rfl, rfl⟩

end

def engineless : World where
  script := [⟨[], .fails (.plain "no such file"), none⟩]
  sinks := [(errorStream, .memory [])]

def zeroed : Installation where
  around := { file := some (Bytes.ofAscii "[engine]\nuri = \"a\\u0000b\"\n") }

theorem addressBlank (served : Served i arguments w inv s (.cli c) w') {uri : Text}
    (has : inv.address s = some uri) :
    Text.blank uri = true ↔ ∃ h, inv.host = some h ∧ h ≠ "" ∧ Text.blank h = true := by
  unfold Invocation.address at has
  cases given : inv.host.filter (· ≠ ("" : Text)) with
  | none =>
    rw [given, Option.none_or] at has
    obtain ⟨a, rfl, filled⟩ :=
      Settings.loadUriFilled served.loaded (Option.filter_eq_some_iff.mp has).1
    rw [filled]
    refine ⟨(by cases ·), ?_⟩
    rintro ⟨h, host, some', -⟩
    exact absurd some' (by simpa [host] using given)
  | some h =>
    rw [given, Option.some_or] at has
    cases has
    obtain ⟨host, filled⟩ := Option.filter_eq_some_iff.mp given
    constructor
    · exact fun blank => ⟨uri, host, by simpa using filled, blank⟩
    · rintro ⟨h, host', -, blank⟩
      rw [host] at host'
      cases host'
      exact blank

theorem Request.argsPlain (r : Request) (uri : Text) (rest : List Text) :
    r.args ≠ ("-H" : Text) :: uri :: rest := by
  cases r <;> simp [Request.args]

/-- An address that is passed to the engine is blank just when the command line gives one of white
space: settings are checked for that, the command line is not. -/
theorem blankAddress (served : Served i arguments w inv s (.cli c) w') (drivers : PluginDrivers) :
    ∃ new, (w.commandLine i arguments drivers).2.core.asks = w.core.asks ++ new ∧
      ∀ ask ∈ new, ∀ binary uri rest, ask.command.argv = binary :: ("-H" : Text) :: uri :: rest →
        (Text.blank uri = true ↔ ∃ h, inv.host = some h ∧ h ≠ "" ∧ Text.blank h = true) := by
  cases shown : (c.commandFor inv.request.args).unshown? c.verbose with
  | some e =>
    have same : (w.commandLine i arguments drivers).2.core.asks = w.core.asks :=
      (commandLineUnshown served shown).2.2
    exact ⟨[], same.trans (List.append_nil _).symm, by simp⟩
  | none =>
    refine ⟨_, commandLineAsked served shown, List.forall_mem_singleton.mpr ?_⟩
    intro binary uri rest argv
    have asked := s.clientArgv inv [] inv.request.args
    rw [← served.client] at asked
    have same := (List.cons.inj (asked.symm.trans argv)).2
    cases address : inv.address s with
    | none =>
      rw [address] at same
      exact absurd same (Request.argsPlain inv.request uri rest)
    | some u =>
      rw [address] at same
      cases (List.cons.inj (List.cons.inj same).2).1
      exact addressBlank served address

theorem blankAddressNamed :
    ∃ ask, (({} : World).commandLine {} ["-H", "h", "version"]).2.core.asks = [ask] ∧
      ∀ binary uri rest, ask.command.argv = binary :: ("-H" : Text) :: uri :: rest →
        Text.blank uri = false := by
  have served : Served {} ["-H", "h", "version"] {} ⟨some "h", false, .version⟩ {}
      (.cli (Settings.client { engine := { uri := some ("h" : Text) } } [])) _ :=
    ⟨rfl, rfl, ⟨_, rfl⟩, rfl, rfl⟩
  obtain ⟨new, asks, blank⟩ := blankAddress served {}
  have one : new.length = 1 := by
    rw [← List.nil_append new, ← show (({} : World).core.asks) = [] from rfl, ← asks]
    decide +kernel
  obtain ⟨ask, rfl⟩ := List.length_eq_one_iff.mp one
  refine ⟨ask, asks, fun binary uri rest argv => Bool.eq_false_iff.mpr fun filled => ?_⟩
  obtain ⟨h, host, -, empty⟩ :=
    (blank ask (List.mem_singleton_self ask) binary uri rest argv).mp filled
  cases host
  revert empty
  decide

theorem blankAddressAsked :
    (({} : World).commandLine {} ["-H", " ", "version"]).2.core.asks.map (·.command.argv)
      = [(["docker", "-H", " ", "version", "-f", "\x7b\x7b.Server.Version\x7d\x7d"] : List Text)] ∧
    Text.blank " " = true := by
  decide +kernel

end World
end ContainerDriver
