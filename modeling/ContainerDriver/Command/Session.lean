import ContainerDriver.Command.ArgumentList

/-! Composing a command, step by step. A step adds to an argument list, or builds a command of its
own and leaves the list alone. -/
namespace ContainerDriver

def Session.run {σ α β : Type} (step : σ → α → β × σ) (s : σ) : List α → List β × σ
  | [] => ([], s)
  | a :: rest =>
    let (answer, s) := step s a
    let (answers, s) := run step s rest
    (answer :: answers, s)

namespace ArgumentList

inductive Step where
  | add (values : List Text) (secret : Bool)
  | addMasked (value : Text)
  | addEnv (env : List (Text × Value))
  | extend (items : List Item)
  | build (items : List Item)

inductive Reply where
  | list
  | command (c : Command)
  | malformed
  deriving DecidableEq, Repr

def reply (grown : ArgumentList × Bool) : Reply × ArgumentList :=
  (if grown.2 then .malformed else .list, grown.1)

def step (endpoint : Endpoint) (binary : Text) (l : ArgumentList) : Step → Reply × ArgumentList
  | .add values secret => (.list, l.add values secret)
  | .addMasked value => (.list, l.addMasked value)
  | .addEnv env => reply (l.addEnv env)
  | .extend items => reply (l.extend items)
  | .build items => (((Command.ofItems? endpoint binary items).map .command).getD .malformed, l)

def session (endpoint : Endpoint) (binary : Text) (steps : List Step) (l : ArgumentList) :
    List Reply × ArgumentList :=
  Session.run (step endpoint binary) l steps

end ArgumentList
end ContainerDriver
