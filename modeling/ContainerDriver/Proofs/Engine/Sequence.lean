import ContainerDriver.Proofs.Archive.RoundTrip
import ContainerDriver.Proofs.Engine.Plan

/-! The commands of a launch in their order: all of them when every stage succeeds, else those up to
the first stage that fails and the removal of the container. -/
namespace ContainerDriver

namespace Client

def reply (c : Client) (parent : Environment) (script : Script) (s : Stage) :
    Except Fault Bytes × Script :=
  match (c.commandFor s.args).unshown? c.verbose with
  | some e => (.error (.unencodable e), script)
  | none =>
    let (answer, script) := Bridge.reply script parent (c.commandFor s.args) none
    (s.result (answer.outcome c.binary), script)

theorem attendReplied (c : Client) (s : Stage) (input : Option Bytes) (k : Core) :
    (c.attend s input k).1 = (c.reply k.parent k.script s).1 ∧
      (c.attend s input k).2.script = (c.reply k.parent k.script s).2 ∧
      (c.attend s input k).2.parent = k.parent ∧ (c.attend s input k).2.now = k.now := by
  unfold attend reply Core.call
  cases (c.commandFor s.args).unshown? c.verbose <;> exact ⟨rfl, rfl, rfl, rfl⟩

def results (c : Client) (parent : Environment) : List Stage → Script → List (Except Fault Bytes)
  | [], _ => []
  | s :: rest, script =>
    (c.reply parent script s).1 :: c.results parent rest (c.reply parent script s).2

def fits (c : Client) (parent : Environment) : List Stage → Bytes → Script → Prop
  | [], _, _ => True
  | s :: rest, prev, script =>
    (∀ p, s.parcel = some p → (p.content prev).length ≤ Archive.maxEntrySize) ∧
    ∀ out, (c.reply parent script s).1 = .ok out →
      c.fits parent rest out (c.reply parent script s).2

end Client

def Succeeds (results : List (Except Fault Bytes)) : Prop := ∀ r ∈ results, ∃ out, r = .ok out

def FailsAt (results : List (Except Fault Bytes)) (n : Nat) (f : Fault) : Prop :=
  results[n]? = some (.error f) ∧ ∀ i < n, ∃ out, results[i]? = some (.ok out)

theorem failsAtCons {r : Except Fault Bytes} {rest : List (Except Fault Bytes)} {n : Nat}
    {f : Fault} : FailsAt (r :: rest) n f ↔
      (n = 0 ∧ r = .error f) ∨ ∃ m out, n = m + 1 ∧ r = .ok out ∧ FailsAt rest m f := by
  constructor
  · rintro ⟨here, before⟩
    match n with
    | 0 => exact .inl ⟨rfl, by simpa using here⟩
    | m + 1 =>
      obtain ⟨out, first⟩ := before 0 (by omega)
      refine .inr ⟨m, out, rfl, by simpa using first, by simpa using here, fun i less => ?_⟩
      simpa using before (i + 1) (by omega)
  · rintro (⟨rfl, rfl⟩ | ⟨m, out, rfl, rfl, here, before⟩)
    · exact ⟨rfl, fun i less => absurd less (Nat.not_lt_zero i)⟩
    · refine ⟨by simpa using here, fun i less => ?_⟩
      match i with
      | 0 => exact ⟨out, rfl⟩
      | i + 1 => simpa using before i (by omega)

theorem succeedsCons {r : Except Fault Bytes} {rest : List (Except Fault Bytes)} :
    Succeeds (r :: rest) ↔ (∃ out, r = .ok out) ∧ Succeeds rest := by
  simp [Succeeds]

theorem succeedsOrFails (results : List (Except Fault Bytes)) :
    Succeeds results ∨ ∃ n f, FailsAt results n f := by
  induction results with
  | nil => exact .inl (by simp [Succeeds])
  | cons r rest ih =>
    cases r with
    | error f => exact .inr ⟨0, f, failsAtCons.mpr (.inl ⟨rfl, rfl⟩)⟩
    | ok out =>
      rcases ih with all | ⟨n, f, failed⟩
      · exact .inl (succeedsCons.mpr ⟨⟨out, rfl⟩, all⟩)
      · exact .inr ⟨n + 1, f, failsAtCons.mpr (.inr ⟨n, out, rfl, rfl, failed⟩)⟩

theorem notSucceeds {results : List (Except Fault Bytes)} {n : Nat} {f : Fault}
    (failed : FailsAt results n f) : ¬ Succeeds results := by
  intro all
  obtain ⟨out, good⟩ := all _ (List.mem_of_getElem? failed.1)
  cases good

theorem failsAtOnce {results : List (Except Fault Bytes)} {n m : Nat} {f g : Fault}
    (one : FailsAt results n f) (other : FailsAt results m g) : n = m ∧ f = g := by
  have place : n = m := by
    rcases Nat.lt_trichotomy n m with less | same | more
    · obtain ⟨out, good⟩ := other.2 n less
      cases one.1.symm.trans good
    · exact same
    · obtain ⟨out, good⟩ := one.2 m more
      cases other.1.symm.trans good
  subst place
  cases one.1.symm.trans other.1
  exact ⟨rfl, rfl⟩

namespace Stage

def PlainParcel (s : Stage) : Prop :=
  ∀ p, s.parcel = some p → Archive.Entry.needsPath p.name = false

theorem inputWritten {s : Stage} {now : Int} {prev : Bytes} (plain : s.PlainParcel)
    (small : ∀ p, s.parcel = some p → (p.content prev).length ≤ Archive.maxEntrySize)
    (clock : Archive.writable now = true) : ∃ input, s.input now prev = .ok input := by
  unfold input
  cases parcel : s.parcel with
  | none => exact ⟨none, rfl⟩
  | some p =>
    obtain ⟨archive, written⟩ :=
      Archive.encodePlain p.mode (plain p parcel) (small p parcel) clock
    exact ⟨some archive, by simp [Parcel.archive, written, Except.map]⟩

end Stage

namespace Client

variable {c : Client}

theorem attendDone {s : Stage} {input : Option Bytes} {k k' : Core} {out : Bytes}
    (done : c.attend s input k = (.ok out, k')) :
    (c.commandFor s.args).unshown? c.verbose = none ∧ k'.nextPid = k.nextPid + 1 ∧
      k' = k.ask (c.commandFor s.args) input := by
  obtain ⟨good, rfl⟩ := Prod.mk.inj done
  cases called : (k.call c.verbose (c.commandFor s.args) input).1 with
  | error f =>
    rw [called] at good
    cases good
  | ok given =>
    obtain ⟨shown, -, asked⟩ := Core.callDone called
    exact ⟨shown, Core.callNextPid called, asked⟩

theorem attendTyped {s : Stage} {input : Option Bytes} {k k' : Core} {e : Error}
    (failed : c.attend s input k = (.error (.error e), k')) :
    k' = k.ask (c.commandFor s.args) input := by
  obtain ⟨bad, rfl⟩ := Prod.mk.inj failed
  unfold Core.call at bad ⊢
  cases shown : (c.commandFor s.args).unshown? c.verbose with
  | none => rfl
  | some flaw =>
    rw [shown] at bad
    cases bad

theorem courseSucceeds {stages : List Stage} {prev : Bytes} {k : Core}
    (plain : ∀ s ∈ stages, s.PlainParcel) (clock : Archive.writable k.now = true)
    (small : c.fits k.parent stages prev k.script)
    (all : Succeeds (c.results k.parent stages k.script)) :
    ∃ out k' new, c.course stages prev k = (.ok out, k') ∧
      k'.nextPid = k.nextPid + stages.length ∧ k'.asks = k.asks ++ new ∧
      new.map Ask.command = stages.map (c.commandFor ·.args) := by
  induction stages generalizing prev k with
  | nil => exact ⟨prev, k, [], rfl, rfl, by simp, rfl⟩
  | cons s rest ih =>
    obtain ⟨⟨out, good⟩, later⟩ := succeedsCons.mp all
    obtain ⟨input, written⟩ := Stage.inputWritten (plain s (by simp)) small.1 clock
    have onward := small.2 out good
    obtain ⟨here, script, parent, now⟩ := c.attendReplied s input k
    cases attended : c.attend s input k with
    | mk r k' =>
      rw [attended] at here script parent now
      obtain rfl : r = .ok out := here.trans good
      obtain ⟨-, pid, asked⟩ := attendDone attended
      dsimp only at script parent now
      rw [← script, ← parent] at later onward
      obtain ⟨out', k'', new, course, last, asks, commands⟩ :=
        ih (fun s mem => plain s (List.mem_cons_of_mem _ mem)) (now ▸ clock) onward later
      refine ⟨out', k'', k.asked (c.commandFor s.args) input :: new, ?_, ?_, ?_, ?_⟩
      · simp only [Client.course, written, attended, course]
      · rw [last, pid, List.length_cons]
        omega
      · rw [asks, asked]
        exact List.append_assoc _ _ _
      · rw [List.map_cons, List.map_cons, commands, Core.asked]

theorem courseFails {stages : List Stage} {prev : Bytes} {k : Core} {n : Nat} {f : Fault}
    (plain : ∀ s ∈ stages, s.PlainParcel) (clock : Archive.writable k.now = true)
    (small : c.fits k.parent stages prev k.script)
    (failed : FailsAt (c.results k.parent stages k.script) n f) :
    ∃ k' new, c.course stages prev k = (.error f, k') ∧ k'.asks = k.asks ++ new ∧
      ((∃ e, f = .error e) →
        new.map Ask.command = (stages.take (n + 1)).map (c.commandFor ·.args)) := by
  -- Another fault may come in front of the ask of its stage.
  induction stages generalizing prev k n with
  | nil => simp [FailsAt, results] at failed
  | cons s rest ih =>
    obtain ⟨input, written⟩ := Stage.inputWritten (plain s (by simp)) small.1 clock
    obtain ⟨here, script, parent, now⟩ := c.attendReplied s input k
    cases attended : c.attend s input k with
    | mk r k' =>
      rw [attended] at here script parent now
      rcases failsAtCons.mp failed with ⟨rfl, bad⟩ | ⟨m, out, rfl, good, later⟩
      · obtain rfl : r = .error f := here.trans bad
        have asks := k.callAsks c.verbose (c.commandFor s.args) input
        rw [show (k.call c.verbose (c.commandFor s.args) input).2 = k' from
          congrArg Prod.snd attended] at asks
        refine ⟨k', _, by simp only [Client.course, written, attended], asks, ?_⟩
        rintro ⟨e, rfl⟩
        rw [attendTyped attended] at asks
        rw [← List.append_cancel_left asks]
        rfl
      · obtain rfl : r = .ok out := here.trans good
        obtain ⟨-, -, asked⟩ := attendDone attended
        have onward := small.2 out good
        dsimp only at script parent now
        rw [← script, ← parent] at later onward
        obtain ⟨k'', new, course, asks, commands⟩ :=
          ih (fun s mem => plain s (List.mem_cons_of_mem _ mem)) (now ▸ clock) onward later
        refine ⟨k'', k.asked (c.commandFor s.args) input :: new, ?_, ?_, fun typed => ?_⟩
        · simp only [Client.course, written, attended, course]
        · rw [asks, asked]
          exact List.append_assoc _ _ _
        · rw [List.map_cons, commands typed, List.take_succ_cons, List.map_cons, Core.asked]

end Client

namespace Launch

variable {c : Client} {l : Launch} {k : Core}

def Accepts (l : Launch) : Prop := ∀ k, l.connector? = some k → k = .accepts ∨ k = .closes

def handed (l : Launch) (pid : Nat) : List Nat :=
  match l.connector? with
  | none => []
  | some _ => [pid]

theorem handOverEffect (l : Launch) (id : Text) (k : Core) :
    ((∃ id', (l.handOver id k).1 = .ok id') ↔ l.Accepts) ∧ (l.handOver id k).2.asks = k.asks ∧
      (l.handOver id k).2.connections = k.connections ++ l.handed (k.nextPid - 1) := by
  unfold handOver Accepts handed
  cases l.connector? with
  | none => simp
  | some connector => cases connector <;> simp [Core.connect]

theorem settleAsks (c : Client) (l : Launch) (id : Text) (out : Bytes) (k : Core) :
    ∃ last, (l.settle c id out k).2.asks = (c.course (l.provision c id) out k).2.asks ++ last ∧
      ∀ a ∈ last, a.command = c.removal id := by
  cases course : c.course (l.provision c id) out k with
  | mk r k' =>
    cases r with
    | ok out' =>
      have handed := (l.handOverEffect id k').2.1
      exact ⟨[], by rw [settleDone course, handed, List.append_nil], by simp⟩
    | error f =>
      by_cases typed : ∃ e, f = .error e
      · obtain ⟨e, rfl⟩ := typed
        refine ⟨_, by rw [settleTyped course]; exact k'.callAsks _ _ _, fun a mem => ?_⟩
        split at mem
        · exact congrArg Ask.command (List.mem_singleton.mp mem)
        · cases mem
      · have untyped : ∀ e, f ≠ .error e := fun e same => typed ⟨e, same⟩
        exact ⟨[], by rw [settleUntyped untyped course, List.append_nil], by simp⟩

theorem shownLater (shown : (c.commandFor l.create.args).unshown? c.verbose = none) (id : String) :
    (∀ s ∈ l.provision c id, (c.commandFor s.args).unshown? c.verbose = none) ∧
      (c.removal id).unshown? c.verbose = none := by
  -- The other lines name nothing new but the id of the container, which is valid Unicode.
  have lead (verbose : c.verbose = true) := (Client.shownIff.mp shown verbose).1
  have later {args : List Text} (plain : ∀ a ∈ args, a.Unicode) :
      (c.commandFor args).unshown? c.verbose = none :=
    Client.shownIff.mpr fun verbose => ⟨lead verbose, plain⟩
  have word := Text.unicodeString
  have place (path : String) : (Client.place id path).Unicode := by
    simp only [Client.place, Text.unicodeAppend]
    exact ⟨⟨word _, word _⟩, word _⟩
  have retrieve (path : String) : (c.commandFor ["cp", Client.place id path, "-"]).unshown?
      c.verbose = none := later (by simp [word, place])
  have send (path : String) : (c.commandFor ["cp", "-", Client.place id path]).unshown?
      c.verbose = none := later (by simp [word, place])
  refine ⟨fun s mem => ?_, later (by simp [word])⟩
  cases l with
  | remoting image workdir artifact connector =>
    simp only [provision, List.mem_cons, List.not_mem_nil, or_false] at mem
    rcases mem with rfl | rfl
    · exact send _
    · exact later (by simp [Stage.detach, word])
  | build image host =>
    simp only [provision, List.mem_cons, List.not_mem_nil, or_false] at mem
    rcases mem with rfl | rfl | rfl | rfl | rfl | rfl
    · exact retrieve _
    · exact send _
    · exact retrieve _
    · exact send _
    · exact send _
    · exact later (by simp [Stage.start, word])
  | side image host =>
    simp only [provision, List.mem_cons, List.not_mem_nil, or_false] at mem
    subst mem
    exact later (by simp [Stage.detach, word])

theorem planPlain (c : Client) (l : Launch) (k : Core) : ∀ s ∈ l.plan c k, s.PlainParcel := by
  have none' : ∀ s : Stage, s.parcel = none → s.PlainParcel := by
    intro s absent p present
    simp [absent] at present
  have named : ∀ (s : Stage) (p : Parcel), s.parcel = some p →
      Archive.Entry.needsPath p.name = false → s.PlainParcel := by
    intro s p given plain p' given'
    cases given.symm.trans given'
    exact plain
  cases l with
  | remoting image workdir artifact connector =>
    intro s mem
    simp only [plan, provision, List.mem_cons, List.not_mem_nil, or_false] at mem
    rcases mem with rfl | rfl | rfl
    · exact none' _ rfl
    · exact named _ _ rfl (show Archive.Entry.needsPath Agent.artifact = false by decide)
    · exact none' _ rfl
  | build image host =>
    intro s mem
    simp only [plan, provision, List.mem_cons, List.not_mem_nil, or_false] at mem
    rcases mem with rfl | rfl | rfl | rfl | rfl | rfl | rfl
    · exact none' _ rfl
    · exact none' _ rfl
    · exact named _ _ rfl (by decide)
    · exact none' _ rfl
    · exact named _ _ rfl (by decide)
    · exact named _ _ rfl (show Archive.Entry.needsPath "trampoline" = false by decide)
    · exact none' _ rfl
  | side image host =>
    intro s mem
    simp only [plan, provision, List.mem_cons, List.not_mem_nil, or_false] at mem
    rcases mem with rfl | rfl
    · exact none' _ rfl
    · exact none' _ rfl

theorem playSucceeds (clock : Archive.writable k.now = true)
    (small : c.fits k.parent (l.plan c k) [] k.script)
    (all : Succeeds (c.results k.parent (l.plan c k) k.script)) :
    ∃ r k' new, l.play c k = (r, k') ∧ ((∃ id, r = .ok id) ↔ l.Accepts) ∧
      k'.asks = k.asks ++ new ∧
      new.map Ask.command = (l.plan c k).map (c.commandFor ·.args) ∧
      k'.connections =
        k.connections ++ l.handed (k.nextPid + (l.plan c k).length - 1) := by
  obtain ⟨out, k', new, course, pid, asks, commands⟩ :=
    Client.courseSucceeds (l.planPlain c k) clock small all
  have frame := (c.courseFrame (l.plan c k) [] k).2
  obtain ⟨first, good⟩ := (succeedsCons.mp all).1
  rw [← (c.attendReplied l.create none k).1] at good
  obtain ⟨played, resumed⟩ := playCreated (Prod.ext good rfl)
  obtain ⟨returned, asked, handed⟩ := l.handOverEffect (l.container c k) k'
  rw [course] at frame
  rw [resumed] at course
  have ended := played.trans (settleDone course)
  cases passed : l.handOver (l.container c k) k' with
  | mk r k'' =>
    rw [passed] at ended returned asked handed
    refine ⟨r, k'', new, ended, returned, asked.trans asks, commands, ?_⟩
    rw [handed, frame, pid]

theorem playFails {n : Nat} {f : Fault} (clock : Archive.writable k.now = true)
    (small : c.fits k.parent (l.plan c k) [] k.script)
    (failed : FailsAt (c.results k.parent (l.plan c k) k.script) n f) :
    ∃ r k' new, l.play c k = (.error r, k') ∧ k'.asks = k.asks ++ new ∧
      k'.connections = k.connections ∧
      ∀ e, f = .error e →
        new.map Ask.command = ((l.plan c k).take (n + 1)).map (c.commandFor ·.args)
          ++ (if n = 0 then [] else [c.removal (l.container c k)]) ∧
        ((∀ a ∈ new, a.command = c.removal (l.container c k) → ∀ r, a.answer ≠ .refuses r) →
          r = .error e) := by
  obtain ⟨k', new, course, asks, commands⟩ :=
    Client.courseFails (l.planPlain c k) clock small failed
  have frame := (c.courseFrame (l.plan c k) [] k).2
  rw [course] at frame
  have first := (c.attendReplied l.create none k).1
  -- When the creation itself fails there is nothing to remove.
  rcases failsAtCons.mp failed with ⟨rfl, bad⟩ | ⟨m, out, rfl, good, -⟩
  · obtain ⟨played, stopped⟩ := playRefused (Prod.ext (first.trans bad) rfl)
    cases course.symm.trans stopped
    refine ⟨f, _, new, played, asks, frame, fun e typed => ⟨?_, fun _ => typed⟩⟩
    rw [commands ⟨e, typed⟩, if_pos rfl, List.append_nil]
  · have created : c.attend l.create none k = (.ok out, _) := Prod.ext (first.trans good) rfl
    obtain ⟨played, resumed⟩ := playCreated created
    rw [resumed] at course
    by_cases typed : ∃ e, f = .error e
    · obtain ⟨e, rfl⟩ := typed
      have shown := (shownLater (Client.attendDone created).1 (l.container c k)).2
      have removed : k'.call c.verbose (c.removal (l.container c k)) none =
          ((k'.answer (c.removal (l.container c k))).outcome c.binary,
            k'.ask (c.removal (l.container c k)) none) := by
        rw [Core.call, shown]
        rfl
      refine ⟨_, _, new ++ [k'.asked (c.removal (l.container c k)) none],
        played.trans (settleTyped course), ?_, ?_, fun e' same => ⟨?_, ?_⟩⟩
      · rw [removed]
        simp only [Core.ask, asks, List.append_assoc]
      · rw [removed]
        exact frame
      · rw [List.map_append, commands ⟨e, rfl⟩, if_neg (Nat.succ_ne_zero m)]
        rfl
      · intro taken
        cases same
        have answered := taken _ (List.mem_append_right new List.mem_cons_self) rfl
        rw [removed]
        rw [Core.asked] at answered
        cases answer : k'.answer (c.removal (l.container c k)) with
        | exits code chunks => rfl
        | fails e' => rfl
        | refuses r => exact absurd answer (answered r)
    · have untyped : ∀ e, f ≠ .error e := fun e same => typed ⟨e, same⟩
      exact ⟨f, k', new, played.trans (settleUntyped untyped course), asks, frame,
        fun e same => absurd same (untyped e)⟩

/-- A launch gives a handle exactly if all its stages succeed and the process is not refused, and
then it has given all their commands and no other. If a stage fails with an error of the driver, the
commands are those up to it and the removal of the container, if there is one; the error is that of
the stage unless the very command line of the removal is refused. -/
theorem launchSequence (c : Client) (log : Option SinkId) (l : Launch) (w : World)
    (opened : w.closed = false) (clock : Archive.writable w.now = true)
    (small : c.fits w.parent (l.plan c w.core) [] w.script) :
    ∃ r w' new handed, ((l.op c log).run w).run = (r, w') ∧
      w'.core.asks = w.core.asks ++ new ∧ w'.core.connections = w.core.connections ++ handed ∧
      ((∃ h, r = .ok h) ↔
        Succeeds (c.results w.parent (l.plan c w.core) w.script) ∧ l.Accepts) ∧
      (Succeeds (c.results w.parent (l.plan c w.core) w.script) →
        new.map Ask.command = (l.plan c w.core).map (c.commandFor ·.args) ∧
        handed = l.handed (w.nextPid + (l.plan c w.core).length - 1)) ∧
      ∀ n e, FailsAt (c.results w.parent (l.plan c w.core) w.script) n (.error e) →
        new.map Ask.command =
          ((l.plan c w.core).take (n + 1)).map (c.commandFor ·.args)
            ++ (if n = 0 then [] else [c.removal (l.container c w.core)]) ∧
        handed = [] ∧
        ((∀ a ∈ new, a.command = c.removal (l.container c w.core) → ∀ r, a.answer ≠ .refuses r) →
          r = .error (.error e)) := by
  obtain ⟨r, w', ran, core, returned, failure⟩ := (opFollows c log l opened).ran
  rcases succeedsOrFails (c.results w.parent (l.plan c w.core) w.script) with
    all | ⟨n, f, failed⟩
  · obtain ⟨r', k', new, played, accepted, asks, commands, connections⟩ :=
      playSucceeds (k := w.core) clock small all
    rw [played] at core returned
    dsimp only at core
    rw [← core] at asks connections
    refine ⟨r, w', new, _, ran, asks, connections, ?_, fun _ => ⟨commands, rfl⟩, ?_⟩
    · rw [returned, accepted]
      exact ⟨fun accepts => ⟨all, accepts⟩, And.right⟩
    · exact fun m e failed => absurd all (notSucceeds failed)
  · obtain ⟨g, k', new, played, asks, connections, typed⟩ :=
      playFails (k := w.core) clock small failed
    rw [played] at core returned failure
    dsimp only at core
    rw [← core] at asks connections
    refine ⟨r, w', new, [], ran, asks, by rw [connections, List.append_nil], ?_, ?_, ?_⟩
    · rw [returned]
      exact ⟨by simp, fun all => absurd all.1 (notSucceeds failed)⟩
    · exact fun all => absurd all (notSucceeds failed)
    · intro m e failed'
      obtain ⟨rfl, rfl⟩ := failsAtOnce failed failed'
      obtain ⟨commands, kept⟩ := typed e rfl
      refine ⟨commands, rfl, fun taken => ?_⟩
      rw [failure, kept taken]

def willing : World :=
  { script := [⟨["create"], .exits 0 [.out (Bytes.ofAscii "c1")], none⟩] }

def stubborn : World :=
  { script := [⟨["create"], .exits 0 [.out (Bytes.ofAscii "c1")], none⟩,
      ⟨["start"], .fails (.plain "gone"), none⟩] }

def attached (connector : Connector) : Launch := .remoting "agent" "/work" [0x50, 0x4B] connector

def host : Handle := ⟨"agent", "c0", by decide⟩

def beside : Launch := .side "database" host

theorem launchSequenceWilling :
    willing.closed = false ∧ Archive.writable willing.now = true ∧
    Client.fits {} [] ((attached .closes).plan {} willing.core) [] willing.script ∧
    ∃ r w' new, (((attached .closes).op {} none).run willing).run = (r, w') ∧
      w'.core.asks = new ∧ (∃ h, r = .ok h) ∧ w'.core.connections = [1003] ∧
      new.map Ask.command =
        ((attached .closes).plan {} willing.core).map (Client.commandFor {} ·.args) := by
  have clock : Archive.writable willing.now = true := by decide +kernel
  have small : Client.fits {} [] ((attached .closes).plan {} willing.core) [] willing.script := by
    refine ⟨?_, fun out _ => ⟨?_, fun out _ => ⟨?_, ?_⟩⟩⟩
    · rintro p ⟨⟩
    · rintro p ⟨⟩
      exact (by decide : 2 ≤ Archive.maxEntrySize)
    · simp [Stage.detach]
    · simp [Client.fits]
  have results : Client.results {} [] ((attached .closes).plan {} willing.core) willing.script =
      [.ok (Bytes.ofAscii "c1"), .ok [], .ok []] := by
    decide +kernel
  have all : Succeeds
      (Client.results {} [] ((attached .closes).plan {} willing.core) willing.script) := by
    simp [results, Succeeds]
  obtain ⟨r, w', new, handed, ran, asks, connections, returned, commands, -⟩ :=
    launchSequence {} none (attached .closes) willing rfl clock small
  obtain ⟨given, rfl⟩ := commands all
  refine ⟨rfl, clock, small, r, w', new, ran, asks, returned.mpr ⟨all, ?_⟩, connections, given⟩
  rintro k ⟨⟩
  exact .inr rfl

theorem successWithoutHandle :
    Succeeds (Client.results {} [] ((attached .refuses).plan {} willing.core) willing.script) ∧
    (((attached .refuses).op {} none).run willing).run.1 = .error .connectorRefused := by
  have good : Client.results {} [] ((attached .refuses).plan {} willing.core) willing.script =
      [.ok (Bytes.ofAscii "c1"), .ok [], .ok []] := by
    decide +kernel
  exact ⟨by simp [good, Succeeds], by decide +kernel⟩

end Launch
end ContainerDriver
