import ContainerDriver.Proofs.Archive.Unguarded
import ContainerDriver.Proofs.Engine.Sequence

/-! Containers that are left behind. After a failure the container is removed unless the engine
strays from what the driver guards against: it refuses a command line, or it delivers an archive of
an unguarded shape. -/
namespace ContainerDriver

/-- An answer that no error of the driver stands for. -/
def Ask.Strays (c : Client) (id : Text) (a : Ask) : Prop :=
  (∃ r, a.answer = .refuses r) ∨ ∃ path chunks, a.command = c.commandFor (Stage.retrieve id path).args ∧
    a.answer = .exits 0 chunks ∧ Archive.Unguarded (Chunk.stdoutOf chunks)

theorem Client.commandForInjective {c : Client} {args args' : List Text}
    (same : c.commandFor args = c.commandFor args') : args = args' := by
  have arguments := List.append_cancel_left (congrArg Command.arguments same)
  have values := congrArg (List.map Argument.value) arguments
  simpa [ArgumentList.of, Function.comp_def] using values

theorem Client.placeNe (container path : Text) : Client.place container path ≠ "-" := by
  intro same
  have colon : .char ':' ∈ Client.place container path := by simp [Client.place, Text.ofString]
  rw [same] at colon
  revert colon
  decide

namespace Stage

def Honest (c : Client) (id : Text) (s : Stage) : Prop :=
  ∀ env input answer, (∃ f, s.result (answer.outcome c.binary) = .error f ∧ ∀ e, f ≠ .error e) ↔
    (Ask.mk (c.commandFor s.args) env input answer).Strays c id

theorem honestRetrieve (c : Client) (id path : Text) : (retrieve id path).Honest c id := by
  intro env input answer
  unfold Ask.Strays
  cases answer with
  | fails e => simp [result, Answer.outcome]
  | refuses r => simp [result, Answer.outcome]
  | exits code chunks =>
    by_cases done : code = 0
    · subst done
      have asked : (∃ path' chunks', c.commandFor (retrieve id path).args =
          c.commandFor (retrieve id path').args ∧ Answer.exits 0 chunks = .exits 0 chunks' ∧
          Archive.Unguarded (Chunk.stdoutOf chunks')) ↔
          Archive.Unguarded (Chunk.stdoutOf chunks) := by
        constructor
        · rintro ⟨path', chunks', -, ⟨⟩, unguarded⟩
          exact unguarded
        · exact fun unguarded => ⟨path, chunks, rfl, rfl, unguarded⟩
      rw [asked, ← Archive.decodeFails]
      simp only [result, Answer.outcome, retrieve, Execution.ok, decide_true, if_true, reduceCtorEq,
        exists_false, false_or]
      cases Archive.decode (Chunk.stdoutOf chunks) with
      | ok content => simp
      | error f => cases f <;> simp
    · simp [result, Answer.outcome, retrieve, Execution.ok, done]

theorem honestOther {c : Client} {id : Text} {s : Stage}
    (other : ∀ path, s.args ≠ (retrieve id path).args)
    (typed : ∀ e f, s.verdict e = .error f → ∃ e', f = .error e') : s.Honest c id := by
  intro env input answer
  have command : ∀ path, c.commandFor s.args ≠ c.commandFor (retrieve id path).args :=
    fun path same => other path (Client.commandForInjective same)
  unfold Ask.Strays
  cases answer with
  | fails e => simp [result, Answer.outcome]
  | refuses r => simp [result, Answer.outcome]
  | exits code chunks =>
    simp only [result, Answer.outcome, command, false_and, exists_false, reduceCtorEq, or_self,
      iff_false]
    rintro ⟨f, bad, untyped⟩
    obtain ⟨e, rfl⟩ := typed _ f bad
    exact untyped e rfl

theorem honestCreate (c : Client) (id image : Text) {args rest : List Text}
    (verb : args = ("create" : Text) :: rest) : (create image args).Honest c id := by
  subst verb
  refine honestOther (fun path => by simp [create, retrieve]) fun e f bad => ?_
  simp only [create] at bad
  split at bad <;> cases bad
  exact ⟨_, rfl⟩

theorem honestSend (c : Client) (id directory : Text) (p : Parcel) :
    (send id directory p).Honest c id := by
  refine honestOther (fun path => ?_) fun e f bad => ?_
  · simp only [send, retrieve, ne_eq, List.cons.injEq, true_and, not_and]
    exact fun same => absurd same.symm (Client.placeNe id path)
  · simp only [send] at bad
    split at bad <;> cases bad
    exact ⟨_, rfl⟩

theorem honestStart (c : Client) (id : Text) : (start id).Honest c id := by
  refine honestOther (fun path => by simp [start, retrieve]) fun e f bad => ?_
  simp only [start] at bad
  split at bad <;> cases bad
  exact ⟨_, rfl⟩

theorem honestDetach (c : Client) (id : Text) (rest : List Text) :
    (detach (("start" : Text) :: rest)).Honest c id :=
  honestOther (fun path => by simp [detach, retrieve]) fun e f bad => by cases bad

end Stage

namespace Client

variable {c : Client}

theorem courseStrays {stages : List Stage} {id : Text} {prev : Bytes} {k k' : Core} {f : Fault}
    (honest : ∀ s ∈ stages, s.Honest c id)
    (shown : ∀ s ∈ stages, (c.commandFor s.args).unshown? c.verbose = none)
    (course : c.course stages prev k = (.error f, k')) :
    ∃ new, k'.asks = k.asks ++ new ∧ (∀ a ∈ new, ∃ s ∈ stages, a.command = c.commandFor s.args) ∧
      ((∃ e, f = .error e) ↔ ∀ a ∈ new, ¬ a.Strays c id) := by
  induction stages generalizing prev k with
  | nil => cases course
  | cons s rest ih =>
    simp only [Client.course] at course
    cases written : s.input k.now prev with
    | error flaw =>
      rw [written] at course
      cases course
      exact ⟨[], by simp, by simp, by simp⟩
    | ok input =>
      rw [written] at course
      have own := honest s (by simp) (Bridge.childEnv k.parent (c.commandFor s.args)) input
        (k.answer (c.commandFor s.args))
      have attended : c.attend s input k =
          (s.result ((k.answer (c.commandFor s.args)).outcome c.binary),
            k.ask (c.commandFor s.args) input) := attendShown (shown s (by simp))
      dsimp only at course
      rw [attended] at course
      cases result : s.result ((k.answer (c.commandFor s.args)).outcome c.binary) with
      | error g =>
        rw [result] at course own
        cases course
        refine ⟨[k.asked (c.commandFor s.args) input], rfl, by simp [Core.asked], ?_⟩
        simp only [List.mem_singleton, forall_eq, Core.asked, ← own, Except.error.injEq,
          exists_eq_left']
        simp
      | ok out =>
        rw [result] at course own
        obtain ⟨new, asks, commands, strays⟩ :=
          ih (fun s mem => honest s (List.mem_cons_of_mem _ mem))
            (fun s mem => shown s (List.mem_cons_of_mem _ mem)) course
        refine ⟨k.asked (c.commandFor s.args) input :: new, asks.trans (List.append_assoc _ _ _),
          ?_, ?_⟩
        · rintro a (_ | ⟨_, mem⟩)
          · exact ⟨s, by simp, rfl⟩
          · obtain ⟨s', mem', command⟩ := commands a mem
            exact ⟨s', List.mem_cons_of_mem _ mem', command⟩
        · have obeyed : ¬ (k.asked (c.commandFor s.args) input).Strays c id := by
            rw [Core.asked, ← own]
            simp
          rw [strays, List.forall_mem_cons]
          exact ⟨fun rest => ⟨obeyed, rest⟩, And.right⟩

end Client

namespace Launch

variable {c : Client} {l : Launch} {k : Core}

theorem createHonest (c : Client) (l : Launch) (id : Text) : l.create.Honest c id := by
  cases l with
  | remoting image workdir artifact connector => exact Stage.honestCreate c id image rfl
  | build image host => exact Stage.honestCreate c id image rfl
  | side image host => exact Stage.honestCreate c id image rfl

theorem provisionHonest (c : Client) (l : Launch) (id : Text) :
    ∀ s ∈ l.provision c id, s.Honest c id := by
  intro s mem
  cases l with
  | remoting image workdir artifact connector =>
    simp only [provision, List.mem_cons, List.not_mem_nil, or_false] at mem
    rcases mem with rfl | rfl
    · exact Stage.honestSend c id _ _
    · exact Stage.honestDetach c id _
  | build image host =>
    simp only [provision, List.mem_cons, List.not_mem_nil, or_false] at mem
    rcases mem with rfl | rfl | rfl | rfl | rfl | rfl
    · exact Stage.honestRetrieve c id _
    · exact Stage.honestSend c id _ _
    · exact Stage.honestRetrieve c id _
    · exact Stage.honestSend c id _ _
    · exact Stage.honestSend c id _ _
    · exact Stage.honestStart c id
  | side image host =>
    simp only [provision, List.mem_cons, List.not_mem_nil, or_false] at mem
    subst mem
    exact Stage.honestDetach c id _

theorem createVerb (l : Launch) : l.create.args.head? = some "create" := by
  cases l <;> rfl

theorem provisionVerbs (c : Client) (l : Launch) (id : Text) : ∀ s ∈ l.provision c id,
    s.args.head? = some "cp" ∨ s.args.head? = some "start" := by
  intro s mem
  cases l with
  | remoting image workdir artifact connector =>
    simp only [provision, List.mem_cons, List.not_mem_nil, or_false] at mem
    rcases mem with rfl | rfl
    · exact .inl rfl
    · exact .inr rfl
  | build image host =>
    simp only [provision, List.mem_cons, List.not_mem_nil, or_false] at mem
    rcases mem with rfl | rfl | rfl | rfl | rfl | rfl
    · exact .inl rfl
    · exact .inl rfl
    · exact .inl rfl
    · exact .inl rfl
    · exact .inl rfl
    · exact .inr rfl
  | side image host =>
    simp only [provision, List.mem_cons, List.not_mem_nil, or_false] at mem
    subst mem
    exact .inr rfl

theorem provisionCommand {id : Text} {s : Stage} (mem : s ∈ l.provision c id) (id' : Text) :
    c.commandFor s.args ≠ c.removal id' := by
  intro same
  have verb := l.provisionVerbs c id s mem
  rw [Client.commandForInjective same] at verb
  revert verb
  simp

theorem createCommand (c : Client) (l : Launch) (id : Text) :
    c.commandFor l.create.args ≠ c.removal id := by
  intro same
  have verb := l.createVerb
  rw [Client.commandForInjective same] at verb
  revert verb
  simp

theorem settleStrays {id : Text} {out : Bytes} {k k' : Core} {f : Fault}
    (shown : (∀ s ∈ l.provision c id, (c.commandFor s.args).unshown? c.verbose = none) ∧
      (c.removal id).unshown? c.verbose = none)
    (course : c.course (l.provision c id) out k = (.error f, k')) :
    ∃ new, (l.settle c id out k).2.asks = k.asks ++ new ∧
      ((∃ a ∈ new, a.command = c.removal id) ↔
        ∀ a ∈ new, a.command ≠ c.removal id → ¬ a.Strays c id) := by
  obtain ⟨new, asks, commands, strays⟩ :=
    Client.courseStrays (l.provisionHonest c id) shown.1 course
  have others : ∀ a ∈ new, a.command ≠ c.removal id := by
    intro a mem
    obtain ⟨s, planned, command⟩ := commands a mem
    rw [command]
    exact provisionCommand planned id
  by_cases typed : ∃ e, f = .error e
  · have obeyed := strays.mp typed
    obtain ⟨e, rfl⟩ := typed
    refine ⟨new ++ [k'.asked (c.removal id) none], ?_, ?_, ?_⟩
    · rw [settleTyped course, k'.callAsks, if_pos shown.2, asks, List.append_assoc]
    · intro _ a mem other
      rcases List.mem_append.mp mem with asked | last
      · exact obeyed a asked
      · exact absurd (congrArg Ask.command (List.mem_singleton.mp last)) other
    · exact fun _ => ⟨_, List.mem_append_right _ List.mem_cons_self, rfl⟩
  · have untyped : ∀ e, f ≠ .error e := fun e same => typed ⟨e, same⟩
    refine ⟨new, by rw [settleUntyped untyped course, asks], ?_, ?_⟩
    · rintro ⟨a, mem, removed⟩
      exact absurd removed (others a mem)
    · exact fun obeyed => absurd (strays.mpr fun a mem => obeyed a mem (others a mem)) typed

/-- When the engine has created a container and the launch fails, the removal of the container has
been attempted exactly if the engine did not stray in the commands before. -/
theorem removedUnlessStrayed {log : Option SinkId} {w w' : World} {chunks : List Chunk} {f : Fault}
    (opened : w.closed = false)
    (created : (w.core.call c.verbose (c.commandFor l.create.args) none).1 = .ok (0, chunks))
    (named : (Execution.mk 0 (Chunk.stdoutOf chunks)).text ≠ "") (accepts : l.Accepts)
    (failed : ((l.op c log).run w).run = (.error f, w')) :
    ∃ new, w'.core.asks = w.core.asks ++ new ∧
      ((∃ a ∈ new, a.command = c.removal (Execution.mk 0 (Chunk.stdoutOf chunks)).text) ↔
        ∀ a ∈ new, a.command ≠ c.removal (Execution.mk 0 (Chunk.stdoutOf chunks)).text →
          ¬ a.Strays c (Execution.mk 0 (Chunk.stdoutOf chunks)).text) := by
  obtain ⟨shown, answer, asked⟩ := Core.callDone created
  have verdict : l.create.verdict ⟨0, Chunk.stdoutOf chunks⟩ = .ok (Chunk.stdoutOf chunks) := by
    cases l <;> exact if_pos ⟨rfl, named⟩
  have good : c.attend l.create none w.core =
      (.ok (Chunk.stdoutOf chunks), w.core.ask (c.commandFor l.create.args) none) := by
    rw [Client.attend, created, asked, Stage.result, verdict]
  have id : l.container c w.core = (Execution.mk 0 (Chunk.stdoutOf chunks)).text := by
    rw [container, good]
  rw [← id]
  obtain ⟨r, w'', ran, core, returned, failure⟩ := (opFollows c log l opened).ran
  cases failed.symm.trans ran
  have played := (playCreated good).1
  cases course : c.course (l.provision c (l.container c w.core)) (Chunk.stdoutOf chunks)
      (w.core.ask (c.commandFor l.create.args) none) with
  | mk r k =>
    cases r with
    | ok out =>
      -- Only a connector fails behind a course that went well.
      obtain ⟨id', handed⟩ := (l.handOverEffect (l.container c w.core) k).1.mpr accepts
      rw [played, settleDone course] at failure
      cases ((failure f).mp rfl).symm.trans handed
    | error g =>
      obtain ⟨new, asks, removed⟩ := settleStrays (shownLater shown _) course
      rw [← played, ← core] at asks
      have obeyed : ¬ (w.core.asked (c.commandFor l.create.args) none).Strays c
          (l.container c w.core) := by
        rw [Core.asked, ← l.createHonest c (l.container c w.core), answer]
        simp [Answer.outcome, Stage.result, verdict]
      have first := l.createCommand c (l.container c w.core)
      refine ⟨w.core.asked (c.commandFor l.create.args) none :: new,
        asks.trans (List.append_assoc _ _ _), ?_⟩
      rw [List.exists_mem_cons_iff, List.forall_mem_cons, removed]
      exact ⟨fun h => ⟨fun _ => obeyed, h.resolve_left first⟩, fun h => .inr h.2⟩

theorem removedUnlessStrayedStubborn :
    stubborn.closed = false ∧
    (stubborn.core.call false (Client.commandFor {} beside.create.args) none).1 =
      .ok (0, [.out (Bytes.ofAscii "c1")]) ∧
    (Execution.mk 0 (Chunk.stdoutOf [.out (Bytes.ofAscii "c1")])).text ≠ "" ∧ beside.Accepts ∧
    ((beside.op {} none).run stubborn).run.1 = .error (.error (.launch "docker" "gone")) ∧
    ∃ new, ((beside.op {} none).run stubborn).run.2.core.asks = stubborn.core.asks ++ new ∧
      ((∃ a ∈ new, a.command = Client.removal {}
          (Execution.mk 0 (Chunk.stdoutOf [.out (Bytes.ofAscii "c1")])).text) ↔
        ∀ a ∈ new, a.command ≠ Client.removal {}
            (Execution.mk 0 (Chunk.stdoutOf [.out (Bytes.ofAscii "c1")])).text →
          ¬ a.Strays {} (Execution.mk 0 (Chunk.stdoutOf [.out (Bytes.ofAscii "c1")])).text) := by
  have created : (stubborn.core.call false (Client.commandFor {} beside.create.args) none).1 =
      .ok (0, [.out (Bytes.ofAscii "c1")]) := by
    decide +kernel
  have named : (Execution.mk 0 (Chunk.stdoutOf [.out (Bytes.ofAscii "c1")])).text ≠ "" := by
    decide +kernel
  have accepts : beside.Accepts := by
    rintro k ⟨⟩
  have failed : ((beside.op {} none).run stubborn).run.1 =
      .error (.error (.launch "docker" "gone")) := by
    decide +kernel
  exact ⟨rfl, created, named, accepts, failed,
    removedUnlessStrayed rfl created named accepts (Prod.ext failed rfl)⟩

def lavish : World :=
  { script := [⟨["create"], .exits 0 [.out (Bytes.ofAscii "c1")], none⟩,
      ⟨["cp", "c1:/etc/group"], .exits 0 [.out Archive.oversized], none⟩] }

def builder : Launch := .build "builder" host

theorem lavishLeaks :
    ((builder.op {} none).run lavish).run.1 = .error (.mishap .outOfRange) ∧
    ((builder.op {} none).run lavish).run.2.core.asks.map (·.command.argv) =
      [["docker", "create", "--env", "TMPDIR=/home/jenkins/.tmp", "--workdir", "/home/jenkins",
        "--volumes-from", "c0", "--net=container:c0", "--ipc=container:c0", "--user",
        "10000:10000", "builder", "/trampoline", "wait"],
       ["docker", "cp", "c1:/etc/group", "-"]].map (·.map Text.ofString) := by
  decide +kernel

end Launch
end ContainerDriver
