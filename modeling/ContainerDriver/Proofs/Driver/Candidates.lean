import ContainerDriver.Proofs.Driver.Choice

/-! The candidates for the driver, in the order in which plugins are asked. One constructor is called,
that of the first candidate of the name asked for; every candidate that cannot count has one warning
of its own. -/
namespace ContainerDriver

def Candidate.Offers (c : Candidate) (f : Factory) : Prop :=
  c.name = some f.name ∧ c.create = some f.maker

theorem Candidate.offersIff {c : Candidate} {f : Factory} : c.Offers f ↔ c.factory? = some f := by
  obtain ⟨type, name, create⟩ := c
  obtain ⟨own, maker⟩ := f
  cases name <;> cases create <;> simp [Offers, factory?]

namespace Selection

def Named (name : String) (c : Option Candidate) : Prop :=
  ∃ own f, c = some own ∧ own.Offers f ∧ normalized f.name = name

variable {name : String} {c : Option Candidate} {own : Candidate} {f : Factory}

theorem namedFactory (factory : own.factory? = some f) :
    Named name (some own) ↔ normalized f.name = name := by
  constructor
  · rintro ⟨_, g, ⟨⟩, offers, named⟩
    cases factory.symm.trans (Candidate.offersIff.mp offers)
    exact named
  · exact fun named => ⟨own, f, rfl, Candidate.offersIff.mpr factory, named⟩

theorem namedInvalid (invalid : own.factory? = none) : ¬ Named name (some own) := by
  rintro ⟨_, g, ⟨⟩, offers, -⟩
  cases invalid.symm.trans (Candidate.offersIff.mp offers)

theorem namedNone : ¬ Named name none := by
  rintro ⟨_, _, ⟨⟩, -⟩

instance (name : String) : DecidablePred (Named name)
  | none => .isFalse namedNone
  | some own =>
    match factory : own.factory? with
    | none => .isFalse (namedInvalid factory)
    | some f => decidable_of_iff (normalized f.name = name) (namedFactory factory).symm

inductive First (name : String) (candidates : List (Option Candidate)) : Option Factory → Prop where
  | found {before after : List (Option Candidate)} {own : Candidate} {f : Factory}
      (split : candidates = before ++ some own :: after) (offers : own.Offers f)
      (named : normalized f.name = name) (earlier : ∀ c ∈ before, ¬ Named name c) :
      First name candidates (some f)
  | missing (nowhere : ∀ c ∈ candidates, ¬ Named name c) : First name candidates none

/-- Candidates with others put among them: such as have not the name, anywhere, and any behind the
first that has it, which is before them where `won` holds. -/
inductive Widened (name : String) :
    (won : Prop) → (candidates wider : List (Option Candidate)) → Prop where
  | done {won : Prop} : Widened name won [] []
  | kept {won : Prop} {c : Option Candidate} {candidates wider : List (Option Candidate)}
      (rest : Widened name (won ∨ Named name c) candidates wider) :
      Widened name won (c :: candidates) (c :: wider)
  | put {won : Prop} {c : Option Candidate} {candidates wider : List (Option Candidate)}
      (harmless : Named name c → won) (rest : Widened name won candidates wider) :
      Widened name won candidates (c :: wider)

def remark (earlier : List (Option Candidate)) : Option Candidate → List Event
  | none => []
  | some own =>
    match own.factory? with
    | none => [.factoryIgnored own.type]
    | some f =>
      if ∃ c ∈ earlier, Named (normalized f.name) c then [.duplicateFactory (normalized f.name)]
      else []

def remarks (earlier : List (Option Candidate)) : List (Option Candidate) → List Event
  | [] => []
  | c :: rest => remark earlier c ++ remarks (earlier ++ [c]) rest

def opening (s : Settings) (registry : Registry) (classes : List String) : List Event :=
  let count := registry.length - (builtins s).2.length
  (builtins s).1 ++ (if count = 0 then [] else [.discovered count]) ++
    classes.map .classUnregistered

def closing (s : Settings) : Option Factory → Except Trouble Driver → List Event
  | none, _ => [.unknownDriver (wanted s)]
  | some f, .ok _ => [.driverCreated f.name]
  | some _, .error _ => []

section

variable {m : Type → Type} [Monad m] (make : Factory → m (Except Trouble Driver))

def chooseBy (s : Settings) (candidates : List Candidate) :
    m (List Event × Except Trouble Driver) :=
  let (events, known) := sift candidates []
  match Table.get? (wanted s) known with
  | none => do return (events ++ [.unknownDriver (wanted s)], ← make .builtin)
  | some f => do
    match ← make f with
    | .ok driver => return (events ++ [.driverCreated f.name], .ok driver)
    | .error t => return (events, .error t)

def createDriverBy (s : Settings) (plugins : List EntryPoint) :
    m (List Event × Except Trouble Driver) :=
  match discover plugins (builtins s).2 with
  | .error t => return ((builtins s).1, .error t)
  | .ok registry =>
    match registry.answers with
    | .error t => return (opening s registry registry.classes, .error t)
    | .ok answers => do
      let (events, driver) ← chooseBy make s (answers.filterMap id)
      return (opening s registry registry.classes ++ events, driver)

end

theorem chooseAlike (s : Settings) (trampoline : Bytes) (candidates : List Candidate) :
    choose s trampoline candidates =
      Id.run (chooseBy (fun f => pure (f.make s trampoline)) s candidates) := by
  unfold choose chooseBy
  dsimp only
  cases Table.get? (wanted s) (sift candidates []).2 with
  | none => rfl
  | some f =>
    dsimp only
    cases f.make s trampoline <;> rfl

theorem createDriverAlike (s : Settings) (trampoline : Bytes) (plugins : List EntryPoint) :
    createDriver s trampoline plugins =
      Id.run (createDriverBy (fun f => pure (f.make s trampoline)) s plugins) := by
  unfold createDriver createDriverBy opening
  cases builtins s with
  | mk before builtin =>
    dsimp only
    cases discover plugins builtin with
    | error t => rfl
    | ok registry =>
      dsimp only
      cases registry.answers with
      | error t => rfl
      | ok answers =>
        dsimp only
        rw [chooseAlike]
        rfl

def answer? : String × Plugin → Option (Except Trouble (Option Candidate))
  | (_, .object _ answer) => some answer
  | _ => none

inductive Precedes (Older : String × Plugin → String × Plugin → Prop) :
    String × Plugin → String × Plugin → Prop where
  | first {n n' : String} {a a' : Except Trouble (Option Candidate)} {turn : Turn}
      (later : turn ≠ .first) : Precedes Older (n, .object .first a) (n', .object turn a')
  | last {n n' : String} {a a' : Except Trouble (Option Candidate)} {turn : Turn}
      (earlier : turn ≠ .last) : Precedes Older (n, .object turn a) (n', .object .last a')
  | newer {n n' : String} {a a' : Except Trouble (Option Candidate)} {turn : Turn}
      (early : turn ≠ .last) (older : Older (n', .object turn a') (n, .object turn a)) :
      Precedes Older (n, .object turn a) (n', .object turn a')
  | older {n n' : String} {a a' : Except Trouble (Option Candidate)}
      (older : Older (n, .object .last a) (n', .object .last a')) :
      Precedes Older (n, .object .last a) (n', .object .last a')

theorem inTurnObject {turn : Turn} {r : Registry} {e : String × Plugin} (mem : e ∈ r.inTurn turn) :
    ∃ n a, e = (n, .object turn a) := by
  have kept := (List.mem_filter.mp mem).2
  split at kept
  · next n t a =>
    cases of_decide_eq_true kept
    exact ⟨n, a, rfl⟩
  · cases kept

theorem callOrderAsked (r : Registry) :
    r.callOrder.Perm (r.filter fun e => (answer? e).isSome) := by
  unfold Registry.callOrder
  refine (((List.reverse_perm _).append (List.reverse_perm _)).append_right _).trans ?_
  induction r with
  | nil => rfl
  | cons e rest ih =>
    obtain ⟨name, plugin⟩ := e
    cases plugin with
    | object turn answer =>
      refine List.Perm.trans ?_ (ih.cons (name, .object turn answer))
      cases turn with
      | first => exact .refl _
      | normal => exact List.perm_middle.append_right _
      | last => exact List.perm_middle
    | _ => exact ih

theorem callOrderPrecedes {Older : String × Plugin → String × Plugin → Prop} {r : Registry}
    (older : r.Pairwise Older) : r.callOrder.Pairwise (Precedes Older) := by
  have newest {turn : Turn} (early : turn ≠ .last) :
      (r.inTurn turn).reverse.Pairwise (Precedes Older) := by
    rw [List.pairwise_reverse]
    refine (older.filter _).imp_of_mem fun {e e'} mem mem' before => ?_
    obtain ⟨n, a, rfl⟩ := inTurnObject mem
    obtain ⟨n', a', rfl⟩ := inTurnObject mem'
    exact .newer early before
  have oldest : (r.inTurn .last).Pairwise (Precedes Older) := by
    refine (older.filter _).imp_of_mem fun {e e'} mem mem' before => ?_
    obtain ⟨n, a, rfl⟩ := inTurnObject mem
    obtain ⟨n', a', rfl⟩ := inTurnObject mem'
    exact .older before
  refine List.pairwise_append.mpr ⟨List.pairwise_append.mpr
    ⟨newest Turn.noConfusion, newest Turn.noConfusion, ?_⟩, oldest, ?_⟩
  · intro e mem e' mem'
    obtain ⟨n, a, rfl⟩ := inTurnObject (List.mem_reverse.mp mem)
    obtain ⟨n', a', rfl⟩ := inTurnObject (List.mem_reverse.mp mem')
    exact .first Turn.noConfusion
  · intro e mem e' mem'
    obtain ⟨n', a', rfl⟩ := inTurnObject mem'
    obtain front | normal := List.mem_append.mp mem
    · obtain ⟨n, a, rfl⟩ := inTurnObject (List.mem_reverse.mp front)
      exact .last Turn.noConfusion
    · obtain ⟨n, a, rfl⟩ := inTurnObject (List.mem_reverse.mp normal)
      exact .last Turn.noConfusion

theorem answersHeard {r : Registry} {candidates : List (Option Candidate)}
    (answered : r.answers = .ok candidates) :
    r.callOrder.filterMap answer? = candidates.map .ok := by
  have objects : ∀ e ∈ r.callOrder, (answer? e).isSome = true := fun e mem =>
    (List.mem_filter.mp ((callOrderAsked r).mem_iff.mp mem)).2
  unfold Registry.answers at answered
  generalize r.callOrder = order at answered objects
  induction order generalizing candidates with
  | nil =>
    cases answered
    rfl
  | cons e rest ih =>
    obtain ⟨here, later⟩ := List.forall_mem_cons.mp objects
    rw [List.mapM_cons] at answered
    obtain ⟨c, first, answered⟩ := Except.bindOk.mp answered
    obtain ⟨cs, rest', answered⟩ := Except.bindOk.mp answered
    cases answered
    obtain ⟨n, turn, answer, rfl⟩ : ∃ n turn answer, e = (n, .object turn answer) := by
      obtain ⟨n, plugin⟩ := e
      cases plugin with
      | object turn answer => exact ⟨n, turn, answer, rfl⟩
      | _ => cases here
    rw [List.filterMap_cons, ih rest' later]
    exact congrArg (· :: cs.map _) first

section

variable {candidates wider : List (Option Candidate)}

def winner (name : String) (candidates : List (Option Candidate)) : Option Factory :=
  firstNamed name (candidates.filterMap id)

theorem winnerHit (factory : own.factory? = some f) (named : normalized f.name = name)
    (rest : List (Option Candidate)) : winner name (some own :: rest) = some f := by
  simp [winner, firstNamed, named?, factory, named, Option.filter]

theorem winnerSkip (other : ¬ Named name c) (rest : List (Option Candidate)) :
    winner name (c :: rest) = winner name rest := by
  cases c with
  | none => rfl
  | some own =>
    cases factory : own.factory? with
    | none => simp [winner, firstNamed, named?, factory]
    | some f =>
      have differs : normalized f.name ≠ name := fun same => other ((namedFactory factory).mpr same)
      simp [winner, firstNamed, named?, factory, differs, Option.filter]

theorem winnerFirst (name : String) (candidates : List (Option Candidate)) :
    First name candidates (winner name candidates) := by
  induction candidates with
  | nil => exact .missing fun c mem => by cases mem
  | cons c rest ih =>
    by_cases named : Named name c
    · obtain ⟨own, f, rfl, offers, same⟩ := named
      rw [winnerHit (Candidate.offersIff.mp offers) same]
      have front : some own :: rest = [] ++ some own :: rest := rfl
      exact .found front offers same fun c mem => by cases mem
    · rw [winnerSkip named]
      generalize winner name rest = w at ih
      cases ih with
      | found split offers same earlier =>
        exact .found (congrArg (c :: ·) split) offers same
          (List.forall_mem_cons.mpr ⟨named, earlier⟩)
      | missing nowhere => exact .missing (List.forall_mem_cons.mpr ⟨named, nowhere⟩)

theorem winnerWidened {won : Prop} (widened : Widened name won candidates wider) (lost : ¬ won) :
    winner name wider = winner name candidates := by
  induction widened with
  | done => rfl
  | @kept won c candidates wider rest ih =>
    -- A kept candidate of the name wins on both sides, whatever stands behind it.
    by_cases named : Named name c
    · obtain ⟨own, f, rfl, offers, same⟩ := named
      rw [winnerHit (Candidate.offersIff.mp offers) same,
        winnerHit (Candidate.offersIff.mp offers) same]
    · rw [winnerSkip named, winnerSkip named]
      exact ih fun before => before.elim lost named
  | put harmless rest ih =>
    rw [winnerSkip fun named => lost (harmless named)]
    exact ih lost

def Knows (known : List (String × Factory)) (earlier : List (Option Candidate)) : Prop :=
  ∀ name, Table.has name known = true ↔ ∃ c ∈ earlier, Named name c

variable {known : List (String × Factory)} {earlier : List (Option Candidate)}

theorem Knows.passed (knows : Knows known earlier) (other : ∀ name, ¬ Named name c) :
    Knows known (earlier ++ [c]) := by
  intro name
  rw [knows name]
  simp [or_and_right, exists_or, other name]

theorem Knows.joined (knows : Knows known earlier) (factory : own.factory? = some f) :
    Knows (if Table.has (normalized f.name) known then known else known ++ [(normalized f.name, f)])
      (earlier ++ [some own]) := by
  intro name
  have before := knows name
  rw [Table.has] at before ⊢
  rw [getJoined, Option.isSome_or, Bool.or_eq_true, before]
  have here : (if normalized f.name = name then some f else none).isSome = true ↔
      Named name (some own) := by
    rw [namedFactory factory]
    simp
  rw [here]
  simp [or_and_right, exists_or]

theorem siftRemarks (knows : Knows known earlier) (candidates : List (Option Candidate)) :
    (sift (candidates.filterMap id) known).1 = remarks earlier candidates := by
  -- What is known are the names of the candidates passed so far.
  induction candidates generalizing known earlier with
  | nil => rfl
  | cons c rest ih =>
    cases c with
    | none => exact ih (knows.passed fun name => namedNone)
    | some own =>
      have front : (some own :: rest).filterMap id = own :: rest.filterMap id := rfl
      rw [front, sift, remarks, remark]
      cases factory : own.factory? with
      | none =>
        exact congrArg (Event.factoryIgnored own.type :: ·)
          (ih (knows.passed fun name => namedInvalid factory))
      | some f =>
        have later := ih (knows.joined factory)
        dsimp only
        by_cases late : Table.has (normalized f.name) known = true
        · rw [if_pos late] at later
          rw [if_pos late, if_pos ((knows _).mp late)]
          exact congrArg (Event.duplicateFactory (normalized f.name) :: ·) later
        · rw [if_neg late] at later
          rw [if_neg late, if_neg fun before => late ((knows _).mpr before)]
          exact later

end

theorem chooseByOne {m : Type → Type} [Monad m] [LawfulMonad m]
    (make : Factory → m (Except Trouble Driver)) (s : Settings)
    (candidates : List (Option Candidate)) :
    chooseBy make s (candidates.filterMap id) =
      (fun outcome => (remarks [] candidates ++ closing s (winner (wanted s) candidates) outcome,
        outcome)) <$> make ((winner (wanted s) candidates).getD .builtin) := by
  have known : Knows [] [] := fun name => by simp [Table.has, Table.get?]
  have found := siftKnown (wanted s) (candidates.filterMap id) []
  unfold chooseBy
  rw [← siftRemarks known candidates]
  dsimp only
  rw [found]
  have first : (Table.get? (wanted s) []).or (firstNamed (wanted s) (candidates.filterMap id)) =
    winner (wanted s) candidates := rfl
  rw [first]
  cases winner (wanted s) candidates with
  | none =>
    rw [map_eq_pure_bind]
    rfl
  | some f =>
    rw [map_eq_pure_bind]
    refine bind_congr fun outcome => ?_
    cases outcome with
    | ok driver => rfl
    | error t => simp [closing]

def Loads (plugins : List EntryPoint) : Prop :=
  ∀ e ∈ plugins, e.group = "dockins" → ∀ t, e.plugin ≠ .broken t

theorem discoverLoads {plugins : List EntryPoint} (loads : Loads plugins) (r : Registry) :
    ∃ registry, discover plugins r = .ok registry := by
  induction plugins generalizing r with
  | nil => exact ⟨r, rfl⟩
  | cons e rest ih =>
    obtain ⟨here, later⟩ := List.forall_mem_cons.mp loads
    rw [discover]
    split
    · exact ih later r
    · next taken =>
      have sound := here (not_not.mp fun other => taken (.inl other))
      split
      · next t broken => exact absurd broken (sound t)
      · exact ih later _

/-- A choice of the driver, with the registry of plugins and the factory that was chosen, if one
was. The classes among the plugins come in no order. -/
structure Choice (s : Settings) (trampoline : Bytes) (plugins : List EntryPoint)
    (registry : Registry) (candidates : List (Option Candidate)) (classes : List String)
    (chosen : Option Factory) : Prop where
  everyone : registry.callOrder.Perm (registry.filter fun e => (answer? e).isSome)
  order : ∀ Older, registry.Pairwise Older → registry.callOrder.Pairwise (Precedes Older)
  heard : registry.callOrder.filterMap answer? = candidates.map .ok
  unregistered : classes.Perm registry.classes
  first : First (wanted s) candidates chosen
  called : ∀ {m : Type → Type} [Monad m] [LawfulMonad m]
    (make : Factory → m (Except Trouble Driver)),
    createDriverBy make s plugins = (fun outcome =>
      (opening s registry classes ++ (remarks [] candidates ++ closing s chosen outcome),
        outcome)) <$> make (chosen.getD .builtin)
  made : (createDriver s trampoline plugins).2 = (chosen.getD .builtin).make s trampoline
  fallback : chosen = none → (createDriver s trampoline plugins).2 = .ok (.cli (s.client trampoline))
  warned : (createDriver s trampoline plugins).1 = opening s registry classes ++
    (remarks [] candidates ++ closing s chosen ((chosen.getD .builtin).make s trampoline))
  stable : ∀ plugins' registry' candidates', discover plugins' (builtins s).2 = .ok registry' →
    registry'.answers = .ok candidates' → Widened (wanted s) False candidates candidates' →
      (createDriver s trampoline plugins').2 = (createDriver s trampoline plugins).2

section

variable {s : Settings} {plugins : List EntryPoint} {registry : Registry}
  (registered : discover plugins (builtins s).2 = .ok registry)
include registered

theorem createDriverByOne {candidates : List (Option Candidate)}
    (answered : registry.answers = .ok candidates) {m : Type → Type} [Monad m] [LawfulMonad m]
    (make : Factory → m (Except Trouble Driver)) :
    createDriverBy make s plugins = (fun outcome =>
      (opening s registry registry.classes ++ (remarks [] candidates ++
        closing s (winner (wanted s) candidates) outcome), outcome)) <$>
      make ((winner (wanted s) candidates).getD .builtin) := by
  unfold createDriverBy
  rw [registered]
  dsimp only
  rw [answered]
  dsimp only
  rw [chooseByOne, map_eq_pure_bind, map_eq_pure_bind, bind_assoc]
  simp only [pure_bind]

theorem createDriverByNone {t : Trouble} (raised : registry.answers = .error t)
    {m : Type → Type} [Monad m] (make : Factory → m (Except Trouble Driver)) :
    createDriverBy make s plugins = pure (opening s registry registry.classes, .error t) := by
  unfold createDriverBy
  rw [registered]
  dsimp only
  rw [raised]

theorem createDriverOne {candidates : List (Option Candidate)}
    (answered : registry.answers = .ok candidates) (trampoline : Bytes) :
    createDriver s trampoline plugins =
    (opening s registry registry.classes ++ (remarks [] candidates ++
      closing s (winner (wanted s) candidates)
        (((winner (wanted s) candidates).getD .builtin).make s trampoline)),
      ((winner (wanted s) candidates).getD .builtin).make s trampoline) := by
  rw [createDriverAlike, createDriverByOne registered answered]
  rfl

end

def crowded : List EntryPoint :=
  [{ name := "a", plugin := .object .normal (.ok (some (.ofFactory ⟨"API", .plugin "a" none⟩))) },
   { name := "b", plugin := .object .first (.ok (some (.ofFactory ⟨" api ", .plugin "b" none⟩))) },
   { name := "c", plugin := .classObject "C" },
   { name := "d", plugin := .object .last (.ok (some ⟨"str", none, none⟩)) }]

end Selection
end ContainerDriver
