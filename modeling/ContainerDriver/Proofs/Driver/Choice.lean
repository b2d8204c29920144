import ContainerDriver.Driver.Selection
import ContainerDriver.Proofs.Except
import ContainerDriver.Proofs.Table

/-! Which driver is made. The first factory of the name asked for makes it, in the order in which
plugins are asked; where there is none the driver of this library serves. -/
namespace ContainerDriver

def Settings.client (s : Settings) (trampoline : Bytes) : Client :=
  ⟨s.endpoint, s.engine.binary, s.engine.verbose, trampoline⟩

namespace Selection

def named? (name : String) (c : Candidate) : Option Factory :=
  c.factory?.filter fun f => normalized f.name = name

def firstNamed (name : String) (candidates : List Candidate) : Option Factory :=
  candidates.findSome? (named? name)

def chosen (s : Settings) (plugins : List EntryPoint) : Except Trouble (Option Factory) :=
  match discover plugins (builtins s).2 with
  | .error t => .error t
  | .ok registry =>
    match registry.answers with
    | .error t => .error t
    | .ok answers => .ok (firstNamed (wanted s) (answers.filterMap id))

theorem getJoined (name key : String) (f : Factory) (known : List (String × Factory)) :
    Table.get? name (if Table.has key known then known else known ++ [(key, f)]) =
      (Table.get? name known).or (if key = name then some f else none) := by
  by_cases late : Table.has key known = true
  · rw [if_pos late]
    by_cases same : key = name
    · obtain ⟨g, has⟩ := Option.isSome_iff_exists.mp late
      rw [same] at has
      rw [has, Option.some_or]
    · rw [if_neg same, Option.or_none]
  · rw [if_neg late, Table.getAppended]

theorem siftFactory {c : Candidate} {f : Factory} (factory : c.factory? = some f)
    (rest : List Candidate) (known : List (String × Factory)) :
    (sift (c :: rest) known).2 =
      (sift rest (if Table.has (normalized f.name) known then known
        else known ++ [(normalized f.name, f)])).2 := by
  rw [sift, factory]
  dsimp only
  split <;> rfl

theorem siftKnown (name : String) (candidates : List Candidate) (known : List (String × Factory)) :
    Table.get? name (sift candidates known).2 =
      (Table.get? name known).or (firstNamed name candidates) := by
  induction candidates generalizing known with
  | nil => simp [sift, firstNamed]
  | cons c rest ih =>
    cases factory : c.factory? with
    | none =>
      have same : (sift (c :: rest) known).2 = (sift rest known).2 := by rw [sift, factory]
      rw [same, ih, firstNamed, firstNamed, List.findSome?_cons, named?, factory]
      rfl
    | some f =>
      have first : firstNamed name (c :: rest) =
          (if normalized f.name = name then some f else none).or (firstNamed name rest) := by
        rw [firstNamed, List.findSome?_cons, named?, factory]
        by_cases same : normalized f.name = name <;> simp [Option.filter, same, firstNamed]
      rw [siftFactory factory, ih, getJoined, first, Option.or_assoc]

theorem chooseMakes (s : Settings) (trampoline : Bytes) (candidates : List Candidate) :
    (choose s trampoline candidates).2 =
      ((firstNamed (wanted s) candidates).getD .builtin).make s trampoline := by
  have found := siftKnown (wanted s) candidates []
  unfold choose
  cases first : firstNamed (wanted s) candidates with
  | none =>
    rw [first] at found
    simp only [found, Table.get?, Option.or_none]
    rfl
  | some f =>
    rw [first] at found
    simp only [found, Table.get?, Option.none_or, Option.getD_some]
    cases f.make s trampoline <;> rfl

theorem createDriverMakes (s : Settings) (trampoline : Bytes) (plugins : List EntryPoint) :
    (createDriver s trampoline plugins).2 =
      chosen s plugins >>= fun factory => (factory.getD .builtin).make s trampoline := by
  unfold createDriver chosen
  cases known : builtins s with
  | mk before builtin =>
    dsimp only
    cases discover plugins builtin with
    | error t => rfl
    | ok registry =>
      dsimp only
      cases registry.answers with
      | error t => rfl
      | ok answers => exact chooseMakes s trampoline (answers.filterMap id)

theorem createDriverRefuses {s : Settings} {trampoline : Bytes} {plugins : List EntryPoint}
    {t : Trouble} : (createDriver s trampoline plugins).2 = .error t ↔
      chosen s plugins = .error t ∨
      ∃ name plugin, chosen s plugins = .ok (some ⟨name, .plugin plugin (some t)⟩) := by
  rw [createDriverMakes]
  cases chosen s plugins with
  | error u => simp [bind, Except.bind]
  | ok factory =>
    simp only [bind, Except.bind, reduceCtorEq, Except.ok.injEq, false_or]
    cases factory with
    | none => simp [Factory.builtin, Factory.make]
    | some f =>
      obtain ⟨name, maker⟩ := f
      rcases maker with - | ⟨plugin, - | u⟩ <;> simp [Factory.make]

theorem createDriverBuiltin {s : Settings} {trampoline : Bytes} {plugins : List EntryPoint}
    {c : Client} (made : (createDriver s trampoline plugins).2 = .ok (.cli c)) :
    c = s.client trampoline := by
  rw [createDriverMakes] at made
  obtain ⟨factory, -, made⟩ := Except.bindOk.mp made
  cases maker : (factory.getD .builtin).maker with
  | builtin =>
    simp only [Factory.make, maker] at made
    cases made
    rfl
  | plugin plugin failure =>
    simp only [Factory.make, maker] at made
    cases failure <;> cases made

end Selection
end ContainerDriver
