import ContainerDriver.Proofs.Archive.Metadata
import ContainerDriver.Proofs.Engine.Handles
import ContainerDriver.Proofs.Engine.Lines

/-! The identity of the agent in a build container. The files of groups and users go back as they
came, with one more line at the end, and the trampoline goes in as the driver has it. -/
namespace ContainerDriver

open LineSink (newline)

def Ask.Delivers (a : Ask) (file : String) (mode : Int) (content : Bytes) : Prop :=
  ∃ archive m, a.input = some archive ∧ Archive.decode archive = .ok content ∧
    Archive.firstMember archive = .ok m ∧ m.IsFile file mode

def Agent.entries : List (String × String) :=
  [("group", "jenkins:x:10000:"), ("passwd", "jenkins:x:10000:10000::/home/jenkins:/bin/false")]

structure Agent.Plain (file line : String) : Prop where
  short : Archive.Entry.needsPath file = false
  clean : '\x00' ∉ file.toList
  path : .char ':' ∉ ("/etc/" ++ file : Text)
  line : newline ∉ Bytes.ofAscii line

theorem Agent.entriesPlain {file line : String} (entry : (file, line) ∈ entries) :
    Plain file line := by
  simp only [entries, List.mem_cons, Prod.mk.injEq, List.not_mem_nil, or_false] at entry
  rcases entry with ⟨rfl, rfl⟩ | ⟨rfl, rfl⟩
  · exact ⟨by decide, by decide, by decide, by decide +kernel⟩
  · exact ⟨by decide, by decide, by decide, by decide +kernel⟩

theorem Client.placeInjective {container container' path path' : Text}
    (plain : .char ':' ∉ path) (plain' : .char ':' ∉ path')
    (same : place container path = place container' path') :
    container = container' ∧ path = path' := by
  have named := congrArg placed same
  rw [placedPlace container plain, placedPlace container' plain'] at named
  subst named
  exact ⟨rfl, List.append_cancel_left same⟩

namespace Stage

variable {id directory : Text} {p : Parcel} {now : Int} {given : Bytes}

theorem sendNotRetrieve (id directory : Text) (p : Parcel) (id' path : Text) :
    (send id directory p).args ≠ (retrieve id' path).args := by
  simp only [send, retrieve, ne_eq, List.cons.injEq, true_and, not_and]
  exact fun same => absurd same.symm (Client.placeNe id' path)

theorem sendWritten {archive : Bytes} (written : p.archive now given = .ok archive) :
    (send id directory p).input now given = .ok (some archive) := by
  change (p.archive now given).map some = _
  rw [written]
  rfl

theorem sendDelivers {a : Ask} {file : String} (named : p.name = file)
    (plain : Archive.Entry.needsPath file = false) (clean : '\x00' ∉ file.toList)
    (sent : (send id directory p).input now given = .ok a.input) :
    a.Delivers file (p.mode.getD Archive.defaultMode % 0o10000) (p.content given) := by
  cases written : p.archive now given with
  | error flaw =>
    change (p.archive now given).map some = _ at sent
    rw [written] at sent
    cases sent
  | ok archive =>
    have input := Except.ok.inj ((sendWritten written).symm.trans sent)
    rw [Parcel.archive, named] at written
    obtain ⟨m, found, member⟩ := Archive.firstMemberPlain plain clean written
    exact ⟨archive, m, input.symm, Archive.decodeWritten written, found, member⟩

theorem sendShown {c : Client} {path : Text} {directory : String} (p : Parcel)
    (shown : (c.commandFor (retrieve id path).args).unshown? c.verbose = none) :
    (c.commandFor (send id directory p).args).unshown? c.verbose = none := by
  refine Client.shownIff.mpr fun verbose => ?_
  obtain ⟨lead, args⟩ := Client.shownIff.mp shown verbose
  have place : (Client.place id path).Unicode := args _ (by simp [retrieve])
  rw [Client.place, Text.unicodeAppend, Text.unicodeAppend] at place
  have place' : (Client.place id directory).Unicode := by
    rw [Client.place, Text.unicodeAppend]
    exact ⟨Text.unicodeAppend.mpr place.1, Text.unicodeString _⟩
  refine ⟨lead, ?_⟩
  simp only [send, List.forall_mem_cons]
  exact ⟨Text.unicodeString _, Text.unicodeString _, place', by simp⟩

end Stage

namespace Launch

variable {c : Client} {k : Core} {image : Text} {host : Handle} {i : Nat} {s : Stage} {id : Text}
  {file line : String}

theorem retrievedStage (entry : (file, line) ∈ Agent.entries)
    (stage : ((build image host).plan c k)[i]? = some s)
    (args : s.args = (Stage.retrieve id ("/etc/" ++ file)).args) :
    s = .retrieve id ("/etc/" ++ file) ∧ ((build image host).plan c k)[i + 1]? =
      some (.send id "/etc" (Client.lineParcel file (Bytes.ofAscii line ++ [newline]))) := by
  have group : Agent.groupLine = Bytes.ofAscii "jenkins:x:10000:" ++ [newline] := by decide +kernel
  have user : Agent.userLine =
      Bytes.ofAscii "jenkins:x:10000:10000::/home/jenkins:/bin/false" ++ [newline] := by
    decide +kernel
  have named {id' path : Text} (plain : .char ':' ∉ path)
      (same : (Stage.retrieve id' path).args = (Stage.retrieve id ("/etc/" ++ file)).args) :
      id' = id ∧ path = ("/etc/" ++ file : Text) :=
    Client.placeInjective plain (Agent.entriesPlain entry).path
      (List.cons.inj (List.cons.inj same).2).1
  have files : (file = "group" ∧ line = "jenkins:x:10000:") ∨
      (file = "passwd" ∧ line = "jenkins:x:10000:10000::/home/jenkins:/bin/false") := by
    simpa [Agent.entries] using entry
  match i, stage with
  | 0, rfl => exact absurd (List.cons.inj args).1 (by decide)
  | 1, rfl =>
    obtain ⟨rfl, path⟩ := named (by decide) args
    rcases files with ⟨rfl, rfl⟩ | ⟨rfl, -⟩
    · exact ⟨rfl, by rw [← group]; rfl⟩
    · exact absurd path (by decide)
  | 2, rfl => exact (Stage.sendNotRetrieve _ _ _ _ _ args).elim
  | 3, rfl =>
    obtain ⟨rfl, path⟩ := named (by decide) args
    rcases files with ⟨rfl, -⟩ | ⟨rfl, rfl⟩
    · exact absurd path (by decide)
    · exact ⟨rfl, by rw [← user]; rfl⟩
  | 4, rfl => exact (Stage.sendNotRetrieve _ _ _ _ _ args).elim
  | 5, rfl => exact (Stage.sendNotRetrieve _ _ _ _ _ args).elim
  | 6, rfl => exact absurd (List.cons.inj args).1 (by decide)

theorem trampolineStage (planned : s ∈ (build image host).plan c k) {p : Parcel}
    (args : s.args = (Stage.send id "/" p).args) : s = .send id "/" c.trampolineParcel := by
  have named {id' directory : Text} {p' : Parcel} (plain : .char ':' ∉ directory)
      (same : (Stage.send id' directory p').args = (Stage.send id "/" p).args) :
      id' = id ∧ directory = "/" :=
    Client.placeInjective plain (by decide)
      (List.cons.inj (List.cons.inj (List.cons.inj same).2).2).1
  simp only [plan, provision, List.mem_cons, List.not_mem_nil, or_false] at planned
  rcases planned with rfl | rfl | rfl | rfl | rfl | rfl | rfl
  · exact absurd (List.cons.inj args).1 (by decide)
  · exact (Stage.sendNotRetrieve _ _ _ _ _ args.symm).elim
  · exact absurd (named (by decide) args).2 (by decide)
  · exact (Stage.sendNotRetrieve _ _ _ _ _ args.symm).elim
  · exact absurd (named (by decide) args).2 (by decide)
  · rw [(named (by decide) args).1]
  · exact absurd (List.cons.inj args).1 (by decide)

variable {new : List Ask} {now : Int} {a : Ask}

theorem lineReturned (traced : Traced c now ((build image host).plan c k) [] new)
    (clock : Archive.writable now = true) (entry : (file, line) ∈ Agent.entries)
    (here : new[i]? = some a)
    (command : a.command = c.commandFor ["cp", Client.place id ("/etc/" ++ file), "-"])
    {chunks : List Chunk} {content : Bytes} (answer : a.answer = .exits 0 chunks)
    (decoded : Archive.decode (Chunk.stdoutOf chunks) = .ok content)
    (small : (appendLine content (Bytes.ofAscii line ++ [newline])).length ≤
      Archive.maxEntrySize) :
    ∃ b, new[i + 1]? = some b ∧
      b.command = c.commandFor ["cp", "-", Client.place id "/etc"] ∧
      b.Delivers file 0o644 (appendLine content (Bytes.ofAscii line ++ [newline])) := by
  obtain ⟨s, given, stage, asked, shown, -⟩ := traced.source here
  obtain ⟨rfl, next⟩ :=
    retrievedStage entry stage (Client.commandForInjective (asked.symm.trans command))
  have good : (Stage.retrieve id ("/etc/" ++ file)).result (a.answer.outcome c.binary) =
      .ok content := by
    rw [answer]
    simp [Stage.result, Answer.outcome, Stage.retrieve, Execution.ok, decoded]
  have plain := Agent.entriesPlain entry
  obtain ⟨archive, written⟩ := Archive.encodePlain none plain.short small clock
  let parcel := Client.lineParcel file (Bytes.ofAscii line ++ [newline])
  have sent : (Stage.send id "/etc" parcel).input now content = .ok (some archive) :=
    Stage.sendWritten written
  obtain ⟨b, behind, put, input⟩ :=
    traced.next here stage next good sent (Stage.sendShown parcel shown)
  rw [← input] at sent
  exact ⟨b, behind, put, Stage.sendDelivers rfl plain.short plain.clean sent⟩

theorem trampolineSent (traced : Traced c now ((build image host).plan c k) [] new)
    (mem : a ∈ new) (command : a.command = c.commandFor ["cp", "-", Client.place id "/"]) :
    a.Delivers "trampoline" 0o555 c.trampoline := by
  obtain ⟨i, here⟩ := List.getElem?_of_mem mem
  obtain ⟨s, given, stage, asked, -, sent⟩ := traced.source here
  have args := Client.commandForInjective (asked.symm.trans command)
  have known := trampolineStage (p := c.trampolineParcel) (List.mem_of_getElem? stage) args
  subst known
  have short : Archive.Entry.needsPath "trampoline" = false := by decide
  have clean : '\x00' ∉ "trampoline".toList := by decide
  exact Stage.sendDelivers rfl short clean sent

/-- A build container gets its file of groups, and its file of users, back at once: all that the
file held, and behind it the line of the agent. The trampoline that it gets is the driver's. -/
theorem identityInjected (c : Client) (log : Option SinkId) (image : Text) (host : Handle)
    (w : World) (clock : Archive.writable w.now = true) :
    ∃ r w' new, (((build image host).op c log).run w).run = (r, w') ∧
      w'.core.asks = w.core.asks ++ new ∧
      (∀ (i : Nat) (id : Text) (file line : String) (a : Ask) (chunks : List Chunk) (content : Bytes),
        (file, line) ∈ Agent.entries → new[i]? = some a →
        a.command = c.commandFor ["cp", Client.place id ("/etc/" ++ file), "-"] →
        a.answer = .exits 0 chunks → Archive.decode (Chunk.stdoutOf chunks) = .ok content →
        (Bytes.ofLines (content.lines ++ [Bytes.ofAscii line])).length ≤ Archive.maxEntrySize →
        ∃ b result, new[i + 1]? = some b ∧
          b.command = c.commandFor ["cp", "-", Client.place id "/etc"] ∧
          b.Delivers file 0o644 result ∧ content <+: result ∧ result.getLast? = some newline ∧
          result.lines = content.lines ++ [Bytes.ofAscii line]) ∧
      ∀ (id : Text) (a : Ask), a ∈ new →
        a.command = c.commandFor ["cp", "-", Client.place id "/"] →
        a.Delivers "trampoline" 0o555 c.trampoline := by
  by_cases opened : w.closed = false
  · obtain ⟨r, w', new, last, ran, asks, traced, removals⟩ :=
      opTraced c log (build image host) opened
    -- What copies a file is no removal, so it was asked in the course of the launch.
    have copied {i : Nat} {a : Ask} {rest : List Text} (here : (new ++ last)[i]? = some a)
        (command : a.command = c.commandFor ("cp" :: rest)) : new[i]? = some a := by
      rw [List.getElem?_append] at here
      split at here
      · exact here
      · have same := command.symm.trans (removals a (List.mem_of_getElem? here))
        exact absurd (List.cons.inj (Client.commandForInjective same)).1 (by decide)
    refine ⟨r, w', new ++ last, ran, asks, ?_, ?_⟩
    · intro i id file line a chunks content entry here command answer decoded small
      rw [← appendLineJoins] at small
      obtain ⟨b, behind, put, delivers⟩ :=
        lineReturned traced clock entry (copied here command) command answer decoded small
      have inside := (List.getElem?_eq_some_iff.mp behind).1
      exact ⟨b, _, (List.getElem?_append_left inside).trans behind, put, delivers,
        appendLinePrefix content _, appendLineEnds content _,
        appendLineLines content (Agent.entriesPlain entry).line⟩
    · intro id a mem command
      obtain ⟨i, here⟩ := List.getElem?_of_mem mem
      exact trampolineSent traced (List.mem_of_getElem? (copied here command)) command
  · have closed : w.closed = true := by simpa using opened
    exact ⟨_, _, [], opRefuses c log (build image host) closed, by simp, by simp, by simp⟩

def groups : Bytes := Archive.Entry.lead ⟨"group", 9, 0, 0, none⟩ 0 ++ Bytes.ofAscii "root:x:0:"

def furnished : World :=
  { script := [⟨["create"], .exits 0 [.out (Bytes.ofAscii "c1")], none⟩,
      ⟨["cp", "c1:/etc/group"], .exits 0 [.out groups], none⟩] }

theorem identityInjectedFurnished :
    Archive.writable furnished.now = true ∧
    ∃ b result, ((builder.op {} none).run furnished).run.2.core.asks[2]? = some b ∧
      b.command = Client.commandFor {} ["cp", "-", Client.place "c1" "/etc"] ∧
      b.Delivers "group" 0o644 result ∧
      result.lines = [Bytes.ofAscii "root:x:0:", Bytes.ofAscii "jenkins:x:10000:"] := by
  have clock : Archive.writable furnished.now = true := by decide +kernel
  obtain ⟨r, w', new, ran, asks, injected, -⟩ :=
    identityInjected {} none "builder" host furnished clock
  have all : ((builder.op {} none).run furnished).run.2.core.asks = new := by
    change ((((build "builder" host).op {} none).run furnished).run).2.core.asks = new
    rw [ran, asks]
    rfl
  have archive : Archive.decode (Chunk.stdoutOf [.out groups]) =
      .ok (Bytes.ofAscii "root:x:0:") := by
    decide +kernel
  have here : (((builder.op {} none).run furnished).run.2.core.asks[1]?).map
      (fun a => (a.command, a.answer)) =
        some (Client.commandFor {} ["cp", Client.place "c1" "/etc/group", "-"],
          .exits 0 [.out groups]) := by
    decide +kernel
  rw [all] at here ⊢
  obtain ⟨a, second, told⟩ := Option.map_eq_some_iff.mp here
  obtain ⟨command, answer⟩ := Prod.mk.inj told
  have small : (Bytes.ofLines ((Bytes.ofAscii "root:x:0:").lines ++
      [Bytes.ofAscii "jenkins:x:10000:"])).length ≤ Archive.maxEntrySize := by
    decide +kernel
  obtain ⟨b, result, third, put, delivers, -, -, lines⟩ := injected 1 "c1" "group" _ a _ _
    List.mem_cons_self second command answer archive small
  refine ⟨clock, b, result, third, put, delivers, lines.trans ?_⟩
  decide +kernel

end Launch
end ContainerDriver
