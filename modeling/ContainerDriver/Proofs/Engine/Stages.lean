import ContainerDriver.Engine.Launch
import ContainerDriver.Proofs.Engine.Core

/-! Plans of engine commands. A stage is one command with the file that is sent along and the
verdict on what comes back; a course goes through stages until one of them fails. -/
namespace ContainerDriver

structure Parcel where
  name : Text
  content : Bytes → Bytes
  mode : Option Int := none

def Parcel.archive (p : Parcel) (now : Int) (prev : Bytes) : Except Archive.EncodingFlaw Bytes :=
  Archive.encode { name := p.name, size := (p.content prev).length, mode := p.mode }
    (p.content prev) now

structure Stage where
  args : List Text
  parcel : Option Parcel := none
  verdict : Execution → Except Fault Bytes

namespace Stage

def input (s : Stage) (now : Int) (prev : Bytes) : Except Archive.EncodingFlaw (Option Bytes) :=
  match s.parcel with
  | none => .ok none
  | some p => (p.archive now prev).map some

def result (s : Stage) : Except Fault (Int × List Chunk) → Except Fault Bytes
  | .error f => .error f
  | .ok out => s.verdict ⟨out.1, Chunk.stdoutOf out.2⟩

def create (image : Text) (args : List Text) : Stage where
  args := args
  verdict e :=
    if e.ok = true ∧ e.text ≠ "" then .ok e.stdout
    else .error (.error (.exited .createContainer e.exitCode ("from image " ++ image)))

def retrieve (container path : Text) : Stage where
  args := ["cp", Client.place container path, "-"]
  verdict e :=
    if e.ok = true then
      match Archive.decode e.stdout with
      | .ok content => .ok content
      | .error (.flaw f) =>
        .error (.error (.fileDecoding (path ++ " from " ++ container ++ ": " ++ f.message)))
      | .error (.mishap m) => .error (.mishap m)
    else .error (.error (.exited .getFile e.exitCode (path ++ " from " ++ container)))

def send (container directory : Text) (p : Parcel) : Stage where
  args := ["cp", "-", Client.place container directory]
  parcel := some p
  verdict e :=
    if e.exitCode = 0 then .ok []
    else .error (.error (.exited .putFile e.exitCode
      (p.name ++ " into " ++ Client.place container directory)))

def start (container : Text) : Stage where
  args := ["start", container]
  verdict e :=
    if e.exitCode = 0 then .ok []
    else .error (.error (.exited .startContainer e.exitCode container))

def detach (args : List Text) : Stage where
  args := args
  verdict _ := .ok []

end Stage

namespace Client

def commandFor (c : Client) (args : List Text) : Command :=
  .build c.endpoint c.binary (ArgumentList.of args).toList

theorem shownIff {c : Client} {args : List Text} :
    (c.commandFor args).unshown? c.verbose = none ↔ (c.verbose = true →
      (∀ a ∈ Command.lead c.endpoint c.binary, a.shown.Unicode) ∧ ∀ a ∈ args, a.Unicode) := by
  rw [Command.unshownNone]
  refine imp_congr_right fun _ => ?_
  rw [Command.render, Text.unicodeIntercalate, commandFor, Command.build, List.forall_mem_map,
    List.forall_mem_append]
  refine and_congr_right fun _ => ?_
  simp [ArgumentList.of, Argument.shown]

def attend (c : Client) (s : Stage) (input : Option Bytes) (k : Core) :
    Except Fault Bytes × Core :=
  (s.result (k.call c.verbose (c.commandFor s.args) input).1,
    (k.call c.verbose (c.commandFor s.args) input).2)

section

variable {c : Client} {s : Stage} {input : Option Bytes} {k : Core}

theorem attendUnshown {e : Text.Unencodable}
    (unshown : (c.commandFor s.args).unshown? c.verbose = some e) :
    c.attend s input k = (.error (.unencodable e), k) := by
  rw [attend, Core.call, unshown]
  rfl

theorem attendShown (shown : (c.commandFor s.args).unshown? c.verbose = none) :
    c.attend s input k = (s.result ((k.answer (c.commandFor s.args)).outcome c.binary),
      k.ask (c.commandFor s.args) input) := by
  rw [attend, Core.call, shown]
  rfl

end

def course (c : Client) : List Stage → Bytes → Core → Except Fault Bytes × Core
  | [], prev, k => (.ok prev, k)
  | s :: rest, prev, k =>
    match s.input k.now prev with
    | .error f => (.error (.error (.encoding f.message)), k)
    | .ok input =>
      match c.attend s input k with
      | (.error f, k) => (.error f, k)
      | (.ok out, k) => c.course rest out k

theorem courseOne (c : Client) (s : Stage) (prev : Bytes) (k : Core) : c.course [s] prev k =
    match s.input k.now prev with
    | .error f => (.error (.error (.encoding f.message)), k)
    | .ok input => c.attend s input k := by
  simp only [course]
  cases s.input k.now prev with
  | error f => rfl
  | ok input =>
    dsimp only
    rcases c.attend s input k with ⟨f | out, k'⟩ <;> rfl

theorem courseAppend (c : Client) (first second : List Stage) (prev : Bytes) (k : Core) :
    c.course (first ++ second) prev k =
      match c.course first prev k with
      | (.error f, k) => (.error f, k)
      | (.ok out, k) => c.course second out k := by
  induction first generalizing prev k with
  | nil => rfl
  | cons s rest ih =>
    simp only [List.cons_append, course]
    cases s.input k.now prev with
    | error f => rfl
    | ok input =>
      dsimp only
      rcases c.attend s input k with ⟨f | out, k'⟩
      · rfl
      · exact ih out k'

theorem courseFrame (c : Client) (stages : List Stage) (prev : Bytes) (k : Core) :
    (c.course stages prev k).2.closed = k.closed ∧
      (c.course stages prev k).2.connections = k.connections := by
  induction stages generalizing prev k with
  | nil => exact ⟨rfl, rfl⟩
  | cons s rest ih =>
    simp only [course]
    cases s.input k.now prev with
    | error f => exact ⟨rfl, rfl⟩
    | ok input =>
      have frame : (c.attend s input k).2.closed = k.closed ∧
          (c.attend s input k).2.connections = k.connections := k.callFrame _ _ input
      dsimp only
      rcases attended : c.attend s input k with ⟨f | out, k'⟩
      · rwa [attended] at frame
      · rw [attended] at frame
        have later := ih out k'
        exact ⟨later.1.trans frame.1, later.2.trans frame.2⟩

end Client

def Follows {α β : Type} (p : Op α) (w : World) (shows : β → Core → α → Prop) :
    Except Fault β × Core → Prop
  | (.ok b, k) => ∃ a, Ends p w (.ok a) k ∧ shows b k a
  | (.error f, k) => Ends p w (.error f) k

namespace Follows

variable {α β γ : Type} {w : World} {p : Op α} {q : α → Op β}

theorem after {shows : γ → Core → β → Prop} {o : Except Fault γ × Core} {a : α} {w' : World}
    (ran : (p.run w).run = (.ok a, w')) (next : Follows (q a) w' shows o) :
    Follows (p >>= q) w shows o := by
  cases o with
  | mk r k =>
    cases r with
    | error f => exact Ends.after ran next
    | ok c =>
      obtain ⟨b, later, shown⟩ := next
      exact ⟨b, Ends.after ran later, shown⟩

theorem step {shows : γ → Core → β → Prop} {o : Except Fault γ × Core} {a : α} {k : Core}
    (first : Ends p w (.ok a) k) (next : ∀ w', w'.core = k → Follows (q a) w' shows o) :
    Follows (p >>= q) w shows o := by
  obtain ⟨w', ran, core⟩ := first
  exact .after ran (next w' core)

theorem ran {shows : γ → Core → α → Prop} {o : Except Fault γ × Core}
    (follows : Follows p w shows o) :
    ∃ r w', (p.run w).run = (r, w') ∧ w'.core = o.2 ∧ ((∃ a, r = .ok a) ↔ ∃ b, o.1 = .ok b) ∧
      ∀ f, r = .error f ↔ o.1 = .error f := by
  match o, follows with
  | (.ok b, k), ⟨a, ⟨w', ran, core⟩, _⟩ => exact ⟨.ok a, w', ran, core, by simp, by simp⟩
  | (.error f, k), ⟨w', ran, core⟩ => exact ⟨.error f, w', ran, core, by simp, by simp⟩

theorem command {c : Client} {s : Stage} {prev : Bytes} {shows : Bytes → Core → β → Prop}
    {give : Int × List Chunk → α} {input : Option Bytes}
    (written : s.input w.core.now prev = .ok input)
    (ran : Ends p w ((w.core.call c.verbose (c.commandFor s.args) input).1.map give)
      (w.core.call c.verbose (c.commandFor s.args) input).2)
    (judged : ∀ out w', Follows (q (give out)) w' shows
      (s.verdict ⟨out.1, Chunk.stdoutOf out.2⟩, w'.core)) :
    Follows (p >>= q) w shows (c.course [s] prev w.core) := by
  rw [c.courseOne, written]
  dsimp only [Client.attend]
  rcases call : w.core.call c.verbose (c.commandFor s.args) input with ⟨f | out, k⟩
  · rw [call] at ran
    exact .stop ran
  · rw [call] at ran
    refine step ran fun w' core => ?_
    rw [← core]
    exact judged out w'

end Follows

def Performs {α : Type} (c : Client) (p : Op α) (stages : List Stage) (prev : Bytes)
    (shows : Bytes → Core → α → Prop) : Prop :=
  ∀ w : World, w.closed = false → Follows p w shows (c.course stages prev w.core)

namespace Performs

variable {α β : Type} {c : Client} {prev : Bytes} {p : Op α} {q : α → Op β}

theorem bind {first second : List Stage} {shows : Bytes → Core → α → Prop}
    {shows' : Bytes → Core → β → Prop} (one : Performs c p first prev shows)
    (two : ∀ a out k, shows out k a → Performs c (q a) second out shows') :
    Performs c (p >>= q) (first ++ second) prev shows' := by
  intro w opened
  have done := one w opened
  have frame := (c.courseFrame first prev w.core).1
  rw [c.courseAppend]
  cases course : c.course first prev w.core with
  | mk r k =>
    rw [course] at done frame
    cases r with
    | error f => exact .stop done
    | ok out =>
      obtain ⟨a, ⟨w', ran, rfl⟩, shown⟩ := done
      exact .after ran (two a out w'.core shown w' (frame.trans opened))

end Performs
end ContainerDriver
