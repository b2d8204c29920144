import ContainerDriver.Proofs.Engine.Sequence

/-! What a course leaves on record. Each command was sent with the file that its stage makes from
what the stage before gave, and a stage that went well is followed by the next one at once. -/
namespace ContainerDriver

inductive Traced (c : Client) (now : Int) : List Stage → Bytes → List Ask → Prop where
  | done (prev : Bytes) : Traced c now [] prev []
  | unwritten {s : Stage} {rest : List Stage} {prev : Bytes} {flaw : Archive.EncodingFlaw}
      (bad : s.input now prev = .error flaw) : Traced c now (s :: rest) prev []
  | unshown {s : Stage} {rest : List Stage} {prev : Bytes} {e : Text.Unencodable}
      (bad : (c.commandFor s.args).unshown? c.verbose = some e) : Traced c now (s :: rest) prev []
  | failed {s : Stage} {rest : List Stage} {prev : Bytes} {a : Ask} {f : Fault}
      (written : s.input now prev = .ok a.input) (command : a.command = c.commandFor s.args)
      (shown : (c.commandFor s.args).unshown? c.verbose = none)
      (bad : s.result (a.answer.outcome c.binary) = .error f) : Traced c now (s :: rest) prev [a]
  | passed {s : Stage} {rest : List Stage} {prev out : Bytes} {a : Ask} {later : List Ask}
      (written : s.input now prev = .ok a.input) (command : a.command = c.commandFor s.args)
      (shown : (c.commandFor s.args).unshown? c.verbose = none)
      (good : s.result (a.answer.outcome c.binary) = .ok out) (behind : Traced c now rest out later) :
      Traced c now (s :: rest) prev (a :: later)

theorem Client.courseTraced (c : Client) (stages : List Stage) (prev : Bytes) (k : Core) :
    ∃ new, (c.course stages prev k).2.asks = k.asks ++ new ∧ Traced c k.now stages prev new := by
  induction stages generalizing prev k with
  | nil => exact ⟨[], by simp [Client.course], .done prev⟩
  | cons s rest ih =>
    simp only [Client.course]
    cases written : s.input k.now prev with
    | error flaw => exact ⟨[], by simp, .unwritten written⟩
    | ok input =>
      dsimp only
      cases shown : (c.commandFor s.args).unshown? c.verbose with
      | some e =>
        rw [attendUnshown shown]
        exact ⟨[], (List.append_nil _).symm, .unshown shown⟩
      | none =>
        rw [attendShown shown]
        cases result : s.result ((k.answer (c.commandFor s.args)).outcome c.binary) with
        | error f =>
          exact ⟨[k.asked (c.commandFor s.args) input], rfl, .failed written rfl shown result⟩
        | ok out =>
          obtain ⟨new, asks, traced⟩ := ih out (k.ask (c.commandFor s.args) input)
          exact ⟨k.asked (c.commandFor s.args) input :: new, asks.trans (List.append_assoc _ _ _),
            .passed written rfl shown result traced⟩

namespace Traced

variable {c : Client} {now : Int} {stages : List Stage} {prev : Bytes} {asks : List Ask} {i : Nat}
  {a : Ask}

theorem source (traced : Traced c now stages prev asks) (here : asks[i]? = some a) :
    ∃ s given, stages[i]? = some s ∧ a.command = c.commandFor s.args ∧
      (c.commandFor s.args).unshown? c.verbose = none ∧ s.input now given = .ok a.input := by
  induction traced generalizing i with
  | done => simp at here
  | unwritten => simp at here
  | unshown => simp at here
  | failed written command shown bad =>
    match i, here with
    | 0, rfl => exact ⟨_, _, rfl, command, shown, written⟩
  | passed written command shown good behind ih =>
    match i, here with
    | 0, rfl => exact ⟨_, _, rfl, command, shown, written⟩
    | i + 1, here => exact ih here

theorem next (traced : Traced c now stages prev asks) (here : asks[i]? = some a) {s s' : Stage}
    (stage : stages[i]? = some s) (stage' : stages[i + 1]? = some s') {out : Bytes}
    {input : Option Bytes} (good : s.result (a.answer.outcome c.binary) = .ok out)
    (written : s'.input now out = .ok input)
    (shown' : (c.commandFor s'.args).unshown? c.verbose = none) :
    ∃ b, asks[i + 1]? = some b ∧ b.command = c.commandFor s'.args ∧ b.input = input := by
  induction traced generalizing i with
  | done => simp at here
  | unwritten => simp at here
  | unshown => simp at here
  | failed _ _ _ bad =>
    match i, here, stage with
    | 0, rfl, rfl => cases good.symm.trans bad
  | passed _ _ _ passed behind ih =>
    match i, here, stage with
    | 0, rfl, rfl =>
      cases good.symm.trans passed
      -- The next stage was asked, whatever came of it.
      cases behind with
      | done => simp at stage'
      | unwritten bad =>
        cases stage'
        cases written.symm.trans bad
      | unshown bad =>
        cases stage'
        cases shown'.symm.trans bad
      | failed sent command _ bad =>
        cases stage'
        cases written.symm.trans sent
        exact ⟨_, rfl, command, rfl⟩
      | passed sent command _ good behind =>
        cases stage'
        cases written.symm.trans sent
        exact ⟨_, rfl, command, rfl⟩
    | i + 1, here, stage => exact ih here stage stage'

end Traced

namespace Launch

theorem playTraced (c : Client) (l : Launch) (k : Core) :
    ∃ new last, (l.play c k).2.asks = k.asks ++ (new ++ last) ∧
      Traced c k.now (l.plan c k) [] new ∧ ∀ a ∈ last, a.command = c.removal (l.container c k) := by
  obtain ⟨new, asks, traced⟩ := c.courseTraced (l.plan c k) [] k
  cases attended : c.attend l.create none k with
  | mk r k' =>
    cases r with
    | error f =>
      obtain ⟨played, course⟩ := playRefused attended
      rw [course] at asks
      exact ⟨new, [], by rw [played, asks, List.append_nil], traced, by simp⟩
    | ok out =>
      obtain ⟨played, course⟩ := playCreated attended
      obtain ⟨last, settled, removals⟩ := l.settleAsks c (l.container c k) out k'
      rw [course] at asks
      exact ⟨new, last, by rw [played, settled, asks, List.append_assoc], traced, removals⟩

theorem opTraced (c : Client) (log : Option SinkId) (l : Launch) {w : World}
    (opened : w.closed = false) :
    ∃ r w' new last, ((l.op c log).run w).run = (r, w') ∧
      w'.core.asks = w.core.asks ++ (new ++ last) ∧
      Traced c w.now (l.plan c w.core) [] new ∧
      ∀ a ∈ last, a.command = c.removal (l.container c w.core) := by
  obtain ⟨r, w', ran, core, -⟩ := (opFollows c log l opened).ran
  obtain ⟨new, last, asks, traced, removals⟩ := l.playTraced c w.core
  rw [← core] at asks
  exact ⟨r, w', new, last, ran, asks, traced, removals⟩

end Launch
end ContainerDriver
