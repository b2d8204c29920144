import ContainerDriver.Command.Session
import ContainerDriver.Proofs.Session

/-! How argument lists grow. A step puts its own arguments behind those that are there, each with its
secrecy, and a command shows its arguments behind binary and address in the same order. -/
namespace ContainerDriver

inductive Reads {α : Type} (Means : α → Argument → Prop) (Malformed : α → Prop) :
    List α → List Argument → Bool → Prop where
  | nil : Reads Means Malformed [] [] false
  | cons {x : α} {a : Argument} {rest : List α} {as : List Argument} {malformed : Bool}
      (means : Means x a) (later : Reads Means Malformed rest as malformed) :
      Reads Means Malformed (x :: rest) (a :: as) malformed
  | stop {x : α} (rest : List α) (malformed : Malformed x) :
      Reads Means Malformed (x :: rest) [] true

theorem readsUntil {α : Type} {Means : α → Argument → Prop} {Malformed : α → Prop}
    {read? : α → Option Argument} (known : ∀ {x a}, read? x = some a → Means x a)
    (unknown : ∀ {x}, read? x = none → Malformed x) (xs : List α) :
    Reads Means Malformed xs (readUntil read? xs).1 (readUntil read? xs).2 := by
  induction xs with
  | nil => exact .nil
  | cons x rest ih =>
    rw [readUntil]
    cases first : read? x with
    | none => exact .stop rest (unknown first)
    | some a => exact .cons (known first) ih

theorem mapMReadUntil {α β : Type} (read? : α → Option β) (xs : List α) : xs.mapM read? =
    if (readUntil read? xs).2 then none else some (readUntil read? xs).1 := by
  -- A command needs all of its items; arguments are taken as far as they can be read.
  induction xs with
  | nil => rfl
  | cons x rest ih =>
    rw [List.mapM_cons, ih, readUntil]
    cases read? x with
    | none => rfl
    | some b => cases (readUntil read? rest).2 <;> rfl

theorem readUntilWhole {α β : Type} {read? : α → Option β} {xs : List α} {bs : List β}
    (whole : xs.mapM read? = some bs) : readUntil read? xs = (bs, false) := by
  rw [mapMReadUntil] at whole
  split at whole
  · cases whole
  · next part => exact Prod.ext (Option.some.inj whole) (by simpa using part)

namespace Item

inductive Means : Item → Argument → Prop where
  | argument (a : Argument) : Means (.argument a) a
  | pair {v : Value} {shown : Text} (secret : Value) (text : v.display? = some shown) :
      Means (.pair [v, secret]) ⟨shown, secret.truthy⟩
  | value {v : Value} {shown : Text} (text : v.display? = some shown) :
      Means (.value v) ⟨shown, false⟩

inductive Malformed : Item → Prop where
  | length {parts : List Value} (length : parts.length ≠ 2) : Malformed (.pair parts)
  | pair {v : Value} (secret : Value) (text : v.display? = none) : Malformed (.pair [v, secret])
  | value {v : Value} (text : v.display? = none) : Malformed (.value v)

theorem argumentMeans {i : Item} {a : Argument} (known : i.argument? = some a) : Means i a := by
  unfold argument? at known
  split at known
  · cases known
    exact .argument _
  · obtain ⟨shown, text, rfl⟩ := Option.map_eq_some_iff.mp known
    exact .pair _ text
  · cases known
  · obtain ⟨shown, text, rfl⟩ := Option.map_eq_some_iff.mp known
    exact .value text

theorem argumentMalformed {i : Item} (unknown : i.argument? = none) : Malformed i := by
  unfold argument? at unknown
  split at unknown
  · cases unknown
  · exact .pair _ (Option.map_eq_none_iff.mp unknown)
  · next parts other =>
    refine .length fun two => ?_
    obtain ⟨v, secret, rfl⟩ := List.length_eq_two.mp two
    exact other v secret rfl
  · exact .value (Option.map_eq_none_iff.mp unknown)

theorem mapMKnown (as : List Argument) : (as.map Item.argument).mapM argument? = some as := by
  induction as with
  | nil => rfl
  | cons a rest ih =>
    rw [List.map_cons, List.mapM_cons, ih]
    rfl

end Item

def Assigns (kv : Text × Value) (a : Argument) : Prop :=
  ∃ value, kv.2.display? = some value ∧ a = ⟨kv.1 ++ "=" ++ value, false⟩

theorem assignmentAssigns {kv : Text × Value} {a : Argument} (known : assignment? kv = some a) :
    Assigns kv a := by
  obtain ⟨value, text, rfl⟩ := Option.map_eq_some_iff.mp known
  exact ⟨value, text, rfl⟩

def Endpoint.flags (e : Endpoint) : List Text :=
  match e.uri with
  | some uri => if uri = "" then [] else ["-H", uri]
  | none => []

namespace Command

theorem leadFlags (endpoint : Endpoint) (binary : Text) :
    lead endpoint binary = (binary :: endpoint.flags).map (⟨·, false⟩) := by
  unfold lead Endpoint.flags Endpoint.host
  cases endpoint.uri with
  | none => rfl
  | some uri => by_cases empty : uri = "" <;> simp [Option.filter, empty]

theorem buildShows (endpoint : Endpoint) (binary : Text) (as : List Argument) :
    let c := build endpoint binary as
    c.argv = binary :: endpoint.flags ++ as.map (·.value) ∧
    c.masks = (binary :: endpoint.flags).map (fun _ => false) ++ as.map (·.secret) := by
  simp only [build, argv, masks, leadFlags, List.map_append, List.map_map]
  exact ⟨congrArg (· ++ _) (List.map_id _), rfl⟩

end Command

namespace ArgumentList

variable {endpoint : Endpoint} {binary : Text}

theorem ofValues (args : List Text) : (of args).toList.map (·.value) = args := by
  simp [of, Function.comp_def]

inductive Step.Adds (endpoint : Endpoint) (binary : Text) :
    Step → List Argument → Reply → Prop where
  | add (values : List Text) (secret : Bool) :
      Adds endpoint binary (.add values secret) (values.map (⟨·, secret⟩)) .list
  | addMasked (value : Text) : Adds endpoint binary (.addMasked value) [⟨value, true⟩] .list
  | addEnv {env : List (Text × Value)} {as : List Argument} {part : Bool}
      (read : Reads Assigns (·.2.display? = none) env as part) :
      Adds endpoint binary (.addEnv env) as (if part then .malformed else .list)
  | extend {items : List Item} {as : List Argument} {part : Bool}
      (read : Reads Item.Means Item.Malformed items as part) :
      Adds endpoint binary (.extend items) as (if part then .malformed else .list)
  | build {items : List Item} {as : List Argument}
      (read : Reads Item.Means Item.Malformed items as false) :
      Adds endpoint binary (.build items) [] (.command (.build endpoint binary as))
  | buildPart {items : List Item} {as : List Argument}
      (read : Reads Item.Means Item.Malformed items as true) :
      Adds endpoint binary (.build items) [] .malformed

theorem stepAdds (endpoint : Endpoint) (binary : Text) (l : ArgumentList) (step : Step) :
    ∃ as, step.Adds endpoint binary as (l.step endpoint binary step).1 ∧
      (l.step endpoint binary step).2.toList = l.toList ++ as := by
  have items (list : List Item) : Reads Item.Means Item.Malformed list
      (readUntil Item.argument? list).1 (readUntil Item.argument? list).2 :=
    readsUntil Item.argumentMeans Item.argumentMalformed list
  cases step with
  | add values secret => exact ⟨_, .add values secret, rfl⟩
  | addMasked value => exact ⟨_, .addMasked value, rfl⟩
  | addEnv env =>
    exact ⟨_, .addEnv (readsUntil assignmentAssigns Option.map_eq_none_iff.mp env), rfl⟩
  | extend list => exact ⟨_, .extend (items list), rfl⟩
  | build list =>
    have read := items list
    refine ⟨[], ?_, (List.append_nil _).symm⟩
    simp only [ArgumentList.step, Command.ofItems?, mapMReadUntil]
    generalize readUntil Item.argument? list = found at read ⊢
    obtain ⟨as, malformed⟩ := found
    cases malformed with
    | false => exact .build read
    | true => exact .buildPart read

def before (l : ArgumentList) (endpoint : Endpoint) (binary : Text) (steps : List Step) (n : Nat) :
    ArgumentList :=
  (l.session endpoint binary (steps.take n)).2

variable {l : ArgumentList} {steps : List Step} {n : Nat}

theorem sessionAt {step : Step} (here : steps[n]? = some step) :
    (l.session endpoint binary steps).1[n]? =
      some ((l.before endpoint binary steps n).step endpoint binary step).1 ∧
    l.before endpoint binary steps (n + 1) =
      ((l.before endpoint binary steps n).step endpoint binary step).2 :=
  Session.runAt here

theorem beforeGrows {m : Nat} (order : m ≤ n) :
    (l.before endpoint binary steps m).toList <+: (l.before endpoint binary steps n).toList := by
  refine Session.beforeKeeps (R := fun l l' : ArgumentList => l.toList <+: l'.toList)
    (fun l => List.prefix_refl l.toList) (fun _ _ _ first later => first.trans later)
    (fun l step => ?_) order
  obtain ⟨as, -, grown⟩ := stepAdds endpoint binary l step
  exact ⟨as, grown.symm⟩

/-- Each step of a session puts behind the list what it contributes, so what is there stays in its
order and as secret as it was. A command built from items, or from the list, has their values and
their secrecy behind an opening that is not secret, and the variables of the endpoint. -/
theorem argumentsGrow (endpoint : Endpoint) (binary : Text) (l : ArgumentList)
    (steps : List Step) :
    (∀ n step, steps[n]? = some step → ∃ as reply, step.Adds endpoint binary as reply ∧
      (l.session endpoint binary steps).1[n]? = some reply ∧
      (l.before endpoint binary steps (n + 1)).toList =
        (l.before endpoint binary steps n).toList ++ as) ∧
    (∀ m n, m ≤ n → (l.before endpoint binary steps m).toList <+:
      (l.before endpoint binary steps n).toList) ∧
    (∀ n, let now := (l.before endpoint binary steps n).toList
      Command.ofItems? endpoint binary (now.map .argument) = some (.build endpoint binary now)) ∧
    ∀ as, let c := Command.build endpoint binary as
      c.argv = binary :: endpoint.flags ++ as.map (·.value) ∧
      c.masks = (binary :: endpoint.flags).map (fun _ => false) ++ as.map (·.secret) ∧
      c.argv.length = c.masks.length ∧ c.env = endpoint.env := by
  refine ⟨fun n step here => ?_, fun m n order => beforeGrows order, fun n => ?_, fun as => ?_⟩
  · obtain ⟨as, adds, grown⟩ := stepAdds endpoint binary (l.before endpoint binary steps n) step
    obtain ⟨reply, after⟩ := sessionAt (l := l) here
    exact ⟨as, _, adds, reply, after ▸ grown⟩
  · exact congrArg (Option.map _) (Item.mapMKnown _)
  · obtain ⟨argv, masks⟩ := Command.buildShows endpoint binary as
    refine ⟨argv, masks, ?_, rfl⟩
    rw [Command.argv, Command.masks, List.length_map, List.length_map]

def mixed : List Step :=
  [.addMasked ("s" : Text), .extend [.pair [.text "v", .int 1], .pair [], .value .null], .build []]

theorem argumentsGrowMixed : ∃ as,
    Step.Adds {} ("docker" : Text) (.extend [.pair [.text "v", .int 1], .pair [], .value .null]) as
      .malformed ∧
    (before {} {} ("docker" : Text) mixed 2).toList =
      (before {} {} ("docker" : Text) mixed 1).toList ++ as ∧
    (before {} {} ("docker" : Text) mixed 1).toList <+:
      (before {} {} ("docker" : Text) mixed 3).toList := by
  obtain ⟨each, grows, -⟩ := argumentsGrow {} "docker" {} mixed
  obtain ⟨as, reply, adds, shown, grown⟩ := each 1 _ rfl
  have malformed : (session {} "docker" mixed {}).1[1]? = some .malformed := rfl
  cases malformed.symm.trans shown
  exact ⟨as, adds, grown, grows 1 3 (by decide)⟩

end ArgumentList
end ContainerDriver
