import ContainerDriver.Proofs.Settings.Places
import ContainerDriver.Proofs.Settings.Precedence

/-! Variables for engine processes, as the sources list them. Names of variables are read in lower
case, keys of tables as they are: a variable decides the key that is its own in lower case, and
leaves one with a capital letter to other sources. -/
namespace ContainerDriver.Settings

open Table (Distinct)

def Single (cs : List Char) : Prop := cs.IsChain fun c d => c = '_' → d ≠ '_'

structure Named (k : String) : Prop where
  plain : ∀ c ∈ k.toList, c.isAlphanum = true ∨ c = '_'
  single : Single k.toList

theorem splitPathSingle {cs : List Char} (single : Single cs) : splitPath cs = [cs] := by
  fun_induction splitPath cs with
  | case1 rest => exact absurd rfl ((List.isChain_cons_cons.mp single).1 rfl)
  | case2 c rest _ none _ => exact absurd none (splitPathNeNil rest)
  | case3 c rest _ part parts some' ih =>
    have same := ih single.tail
    rw [some'] at same
    cases same
    rfl
  | case4 => rfl

namespace Named

theorem ofAscii {P : Char → Prop} (all : ∀ n < 0x80, P (Char.ofNat n)) (c : Char)
    (low : c.toNat < 0x80) : P c := by
  rw [← Char.ofNat_toNat c]
  exact all _ low

theorem lowerFromAscii {cs : List Char} (ascii : ∀ c ∈ cs, c.toNat < 0x80) (before : List Char) :
    Text.Casing.lowerFrom before cs = cs.map Char.toLower := by
  induction cs generalizing before with
  | nil => rfl
  | cons c after ih =>
    obtain ⟨here, later⟩ := List.forall_mem_cons.mp ascii
    rw [Text.Casing.lowerFrom, Text.Casing.lowerCharLow here, ih later]
    rfl

theorem lowerAscii {s : String} (ascii : ∀ c ∈ s.toList, c.toNat < 0x80) :
    (Text.lower s).toList = s.toList.map Char.toLower := by
  rw [Text.lower, String.toList_ofList, lowerFromAscii ascii]

theorem plainAscii {c : Char} (plain : c.isAlphanum = true ∨ c = '_') : c.toNat < 0x80 := by
  rcases plain with plain | rfl
  · simp only [Char.isAlphanum, Char.isAlpha, Char.isUpper, Char.isLower, Char.isDigit,
      Bool.or_eq_true, Bool.and_eq_true, decide_eq_true_eq, UInt32.le_iff_toNat_le, ge_iff_le]
      at plain
    have code : c.toNat = c.val.toNat := rfl
    have capital : 'Z'.val.toNat = 90 := rfl
    have small : 'z'.val.toNat = 122 := rfl
    have digit : '9'.val.toNat = 57 := rfl
    omega
  · decide

theorem underscore {c : Char} (low : c.toNat < 0x80) (same : c.toLower = '_') : c = '_' :=
  @ofAscii (fun c => c.toLower = '_' → c = '_') (by decide) c low same

variable {k : String} (named : Named k)
include named

theorem ascii : ∀ c ∈ k.toList, c.toNat < 0x80 := fun c mem => plainAscii (named.plain c mem)

theorem lower : Named (Text.lower k) := by
  have letter := @ofAscii (fun c => c.isAlphanum = true ∨ c = '_' →
    c.toLower.isAlphanum = true ∨ c.toLower = '_') (by decide)
  constructor
  · rw [lowerAscii named.ascii, List.forall_mem_map]
    exact fun c mem => letter c (named.ascii c mem) (named.plain c mem)
  · rw [Single, lowerAscii named.ascii, List.isChain_map]
    refine named.single.imp_of_mem_imp fun c d first second single here next => ?_
    exact single (underscore (named.ascii c first) here) (underscore (named.ascii d second) next)

theorem capital (differs : Text.lower k ≠ k) : ∃ c ∈ k.toList, ¬ Text.Casing.Small c := by
  by_contra none
  have small (c : Char) (mem : c ∈ k.toList) : Text.Casing.Small c :=
    not_not.mp fun capital => none ⟨c, mem, capital⟩
  refine differs (String.toList_injective ?_)
  rw [lowerAscii named.ascii]
  exact (List.map_congr_left fun c mem => small c mem (named.ascii c mem)).trans (List.map_id _)

theorem lowerVariable : Text.lower ("DOCKINS_ENGINE__ENV__" ++ k) =
    "dockins_engine__env__" ++ Text.lower k := by
  have ascii : ∀ c ∈ ("DOCKINS_ENGINE__ENV__" ++ k).toList, c.toNat < 0x80 := by
    rw [String.toList_append]
    exact List.forall_mem_append.mpr ⟨by simp, named.ascii⟩
  apply String.toList_injective
  rw [lowerAscii ascii, String.toList_append, String.toList_append, List.map_append,
    lowerAscii named.ascii]
  rfl

end Named

theorem Section.pathSpelled {s : Section} {name : String} {path : List String}
    (has : s.path? name = some path) : path ≠ [] ∧
      name.toList = (s.variableName ++ "__").toList ++
        ['_', '_'].intercalate (path.map String.toList) := by
  obtain ⟨rest, after, rfl⟩ := Option.map_eq_some_iff.mp has
  refine ⟨fun none => splitPathNeNil rest (List.map_eq_nil_iff.mp none), ?_⟩
  have parts : ((splitPath rest).map String.ofList).map String.toList = splitPath rest := by
    rw [List.map_map]
    exact (List.map_congr_left fun part _ => String.toList_ofList).trans (List.map_id _)
  rw [parts, splitPathJoins]
  exact afterSome.mp after

theorem memIntercalate {sep : List Char} {parts : List (List Char)} {part : List Char} {c : Char}
    (has : part ∈ parts) (mem : c ∈ part) : c ∈ sep.intercalate parts := by
  induction parts with
  | nil => cases has
  | cons first rest ih =>
    cases rest with
    | nil =>
      rw [List.intercalate_singleton]
      exact List.mem_singleton.mp has ▸ mem
    | cons next rest =>
      rw [List.intercalate_cons_cons]
      rcases List.mem_cons.mp has with rfl | later
      · exact List.mem_append_left _ (List.mem_append_left _ mem)
      · exact List.mem_append_right _ (ih later)

theorem pathOwn {k : String} (single : Single k.toList) :
    Section.engine.path? ("dockins_engine__env__" ++ k) = some ["env", k] := by
  have start : "dockins_engine__env__" = "dockins_engine__" ++ "env__" := rfl
  have after : after? (Section.engine.variableName ++ "__") ("dockins_engine__env__" ++ k) =
      some ("env__".toList ++ k.toList) := by
    rw [afterSome, start, String.toList_append, String.toList_append, List.append_assoc]
    rfl
  have spelled : "env__".toList ++ k.toList = 'e' :: 'n' :: 'v' :: '_' :: '_' :: k.toList := rfl
  rw [Section.path?, after, Option.map_some, spelled]
  simp [splitPath, splitPathSingle single]

theorem pathInto {k name : String} {path : List String} (has : Section.engine.path? name = some path)
    (into : path <+: ["env", k]) : name = "dockins_engine__env" ∨
      path = ["env", k] ∧ name = "dockins_engine__env__" ++ k := by
  obtain ⟨nonempty, spelled⟩ := Section.pathSpelled has
  obtain none | ⟨more, rfl, rest⟩ := List.prefix_cons_iff.mp into
  · exact absurd none nonempty
  · obtain rfl | ⟨last, rfl, done⟩ := List.prefix_cons_iff.mp rest
    · exact .inl (String.toList_injective spelled)
    · cases List.prefix_nil.mp done
      have start : "dockins_engine__env__" = "dockins_engine__" ++ "env__" := rfl
      have joined : ['_', '_'].intercalate (["env", k].map String.toList) =
        "env__".toList ++ k.toList := by
        rw [List.map_cons, List.map_singleton, List.intercalate_cons_cons, List.intercalate_singleton]
        rfl
      refine .inr ⟨rfl, String.toList_injective (spelled.trans ?_)⟩
      rw [joined, start, String.toList_append, String.toList_append, List.append_assoc]
      rfl

theorem Section.putSource {s : Section} {t u : Entries} {b : String × Option String}
    (made : s.put t b = .ok u) : u = t ∨
      ∃ path v, s.path? b.1 = some path ∧ (s.decoding path).read b.2 = .ok v ∧ u = place v path t := by
  unfold put at made
  cases has : s.path? b.1 with
  | none =>
    rw [has] at made
    exact .inl (Except.ok.inj made).symm
  | some path =>
    rw [has] at made
    dsimp only at made
    cases read : (s.decoding path).read b.2 with
    | error e =>
      rw [read] at made
      cases made
    | ok v =>
      rw [read] at made
      exact .inr ⟨path, v, rfl, read, (Except.ok.inj made).symm⟩

section

/-! One variable after the other, with one entry of the mapping in view. -/

variable {k : String} {t u : Entries} {v : Value}

theorem textOfLeaf (text : Option String) (t : Entries) : Scalar.textOf text ≠ .table t := by
  cases text <;> exact Value.noConfusion

section

variable {b : String × Option String} (made : Section.engine.put t b = .ok u)
  (within : b.1 ≠ "dockins_engine__env")
include made within

theorem putClear (clear : Clear ["env", k] (.table t)) : Clear ["env", k] (.table u) := by
  obtain rfl | ⟨path, v, has, -, rfl⟩ := Section.putSource made
  · exact clear
  · exact placeClear (fun into => ((pathInto has into).resolve_left within).1) clear v

theorem putKeeps (other : b.1 ≠ "dockins_engine__env__" ++ k)
    (has : atPath ["env", k] (.table t) = some v) (leaf : ∀ t, v ≠ .table t) :
    atPath ["env", k] (.table u) = some v := by
  obtain rfl | ⟨path, w, named, -, rfl⟩ := Section.putSource made
  · exact has
  · exact placeKeeps (fun into => other ((pathInto named into).resolve_left within).2) has leaf w

theorem putAside (small : ∀ c ∈ b.1.toList, Text.Casing.Small c)
    (capital : ∃ c ∈ k.toList, ¬ Text.Casing.Small c) :
    atPath ["env", k] (.table u) = atPath ["env", k] (.table t) := by
  -- A name in lower case leads past a key with a capital letter.
  obtain ⟨c, mem, capital⟩ := capital
  obtain rfl | ⟨path, w, named, -, rfl⟩ := Section.putSource made
  · rfl
  have spelled := (Section.pathSpelled named).2
  have absent : k ∉ path := fun has => capital <| small c <| by
    rw [spelled]
    exact List.mem_append_right _ (memIntercalate (List.mem_map_of_mem has) mem)
  refine placeAside (fun into => ?_) (fun through => ?_) w t
  · obtain ⟨rfl, -⟩ := (pathInto named into).resolve_left within
    exact absent (List.mem_cons_of_mem _ List.mem_cons_self)
  · exact absent (through.mem (List.mem_cons_of_mem _ List.mem_cons_self))

end

theorem putOwn {text : Option String} (single : Single k.toList)
    (made : Section.engine.put t ("dockins_engine__env__" ++ k, text) = .ok u)
    (clear : Clear ["env", k] (.table t)) :
    atPath ["env", k] (.table u) = some (Scalar.textOf text) := by
  have plain : Section.engine.decoding ["env", k] = .plain := rfl
  have put := pathOwn single
  unfold Section.put at made
  dsimp only at made
  rw [put] at made
  dsimp only at made
  rw [plain, Scalar.plainRead] at made
  cases made
  exact placeOwn _ (List.cons_ne_nil _ _) clear

theorem restWhole {b : String × Option String} {rest : Variables}
    (whole : Table.get? "dockins_engine__env" (b :: rest) = none) :
    b.1 ≠ "dockins_engine__env" ∧ Table.get? "dockins_engine__env" rest = none := by
  rw [Table.get?] at whole
  split at whole
  · cases whole
  · next within => exact ⟨within, whole⟩

section

variable {vars : Variables} (whole : Table.get? "dockins_engine__env" vars = none)
  (made : vars.foldlM Section.engine.put t = .ok u)
include whole made

theorem foldClear (clear : Clear ["env", k] (.table t)) : Clear ["env", k] (.table u) := by
  induction vars generalizing t with
  | nil =>
    cases made
    exact clear
  | cons b rest ih =>
    obtain ⟨within, whole⟩ := restWhole whole
    obtain ⟨t', first, made⟩ := Except.bindOk.mp made
    exact ih whole made (putClear first within clear)

theorem foldDecides (distinct : Distinct vars) (single : Single k.toList)
    (clear : Clear ["env", k] (.table t))
    (has : ((Table.get? ("dockins_engine__env__" ++ k) vars).map Scalar.textOf).or
      (atPath ["env", k] (.table t)) = some v) (leaf : ∀ t, v ≠ .table t) :
    atPath ["env", k] (.table u) = some v := by
  induction vars generalizing t with
  | nil =>
    cases made
    exact has
  | cons b rest ih =>
    obtain ⟨within, whole⟩ := restWhole whole
    obtain ⟨fresh, distinct⟩ := List.nodup_cons.mp distinct
    obtain ⟨t', first, made⟩ := Except.bindOk.mp made
    refine ih whole made distinct (putClear first within clear) ?_
    rw [Table.get?] at has
    by_cases own : b.1 = "dockins_engine__env__" ++ k
    · rw [if_pos own] at has
      rw [own] at fresh
      rw [Table.getFresh fresh]
      obtain ⟨name, text⟩ := b
      cases own
      exact (putOwn single first clear).trans has
    · rw [if_neg own] at has
      cases later : Table.get? ("dockins_engine__env__" ++ k) rest with
      | some text => rwa [later] at has
      | none =>
        rw [later] at has
        exact putKeeps first within own has leaf

theorem foldAside (small : SmallKeys vars) (capital : ∃ c ∈ k.toList, ¬ Text.Casing.Small c) :
    atPath ["env", k] (.table u) = atPath ["env", k] (.table t) := by
  induction vars generalizing t with
  | nil =>
    cases made
    rfl
  | cons b rest ih =>
    obtain ⟨within, whole⟩ := restWhole whole
    obtain ⟨here, later⟩ := List.forall_mem_cons.mp small
    obtain ⟨t', first, made⟩ := Except.bindOk.mp made
    exact (ih whole made later).trans (putAside first within here capital)

end

end

/-- Variables of which none stands for the whole section or for the whole mapping. -/
structure Itemized (vars : Variables) : Prop where
  opened : Table.get? "dockins_engine" vars = none
  whole : Table.get? "dockins_engine__env" vars = none

section

variable {k : String} {vars : Variables} {t : Entries} (lowered : Lowered vars)
  (itemized : Itemized vars) (made : vars.layer = .ok t)
include lowered itemized made

theorem layerMapping : ∃ u, vars.foldlM Section.engine.put [] = .ok u ∧
    (Clear ["env", k] (.table u) → Clear ["engine", "env", k] (.table t)) ∧
    atPath ["engine", "env", k] (.table t) = atPath ["env", k] (.table u) := by
  obtain ⟨f, reads, rfl⟩ := layerSource.mp made
  have home := reads .engine
  rw [Section.ofVariablesOpen (s := .engine) lowered itemized.opened, nestedFolds] at home
  cases folded : vars.foldlM Section.engine.put [] with
  | error e =>
    rw [folded] at home
    cases home
  | ok u =>
    rw [folded] at home
    have found : Table.get? "engine" (gather f) = Section.table? u :=
      (getGather f .engine).trans (Except.ok.inj home).symm
    refine ⟨u, rfl, fun clear => ⟨gatherDistinct f, ?_⟩, ?_⟩
    · intro v has
      rw [found, Section.table?] at has
      split at has
      · cases has
      · cases has
        exact clear
    · rw [atPathCons, atKey, found, Section.table?]
      split
      · next empty =>
        rw [List.isEmpty_iff.mp empty]
        rfl
      · rfl

theorem layerClear : Clear ["engine", "env", k] (.table t) := by
  obtain ⟨u, folded, clear, -⟩ := layerMapping (k := k) lowered itemized made
  exact clear (foldClear itemized.whole folded (clearEmpty _))

theorem layerDecides {text : Option String} (single : Single k.toList)
    (own : Table.get? ("dockins_engine__env__" ++ k) vars = some text) :
    atPath ["engine", "env", k] (.table t) = some (Scalar.textOf text) := by
  obtain ⟨u, folded, -, same⟩ := layerMapping (k := k) lowered itemized made
  rw [same]
  refine foldDecides itemized.whole folded lowered.distinct single (clearEmpty _) ?_ (textOfLeaf text)
  rw [own]
  rfl

theorem layerSilent (capital : ∃ c ∈ k.toList, ¬ Text.Casing.Small c) :
    Silent ["engine", "env", k] (.table t) := by
  obtain ⟨u, folded, -, same⟩ := layerMapping (k := k) lowered itemized made
  exact ⟨layerClear lowered itemized made,
    same.trans (foldAside itemized.whole folded lowered.small capital)⟩

end

namespace Checked

variable {α : Type} {c : Checked α} {rest : List (Checked α)} {xs : List α}

theorem allCons (ok : all (c :: rest) = .ok xs) :
    ∃ x more, c = .ok x ∧ all rest = .ok more ∧ xs = x :: more := by
  obtain ⟨⟨x, more⟩, both, rfl⟩ := mapOk.mp ok
  obtain ⟨here, later⟩ := andOk.mp both
  exact ⟨x, more, here, later, rfl⟩

end Checked

theorem textsGet {place : List String} {t : Entries} {ts : List (String × String)} {k a : String}
    (read : texts place (.table t) = .ok ts) (has : Table.get? k t = some (.text a)) :
    Table.get? k ts = some a := by
  unfold texts at read
  induction t generalizing ts with
  | nil => cases has
  | cons e rest ih =>
    obtain ⟨x, more, here, later, rfl⟩ := Checked.allCons read
    obtain ⟨s, checked, rfl⟩ := Checked.mapOk.mp here
    rw [Table.get?] at has ⊢
    by_cases same : e.1 = k
    · rw [if_pos same] at has ⊢
      rw [Option.some.inj has] at checked
      cases checked
      rfl
    · rw [if_neg same] at has ⊢
      exact ih later has

theorem mergedMapping {t : Entries} {s : Settings} {k a : String} (ok : ofMerged t = .ok s)
    (has : atPath ["engine", "env", k] (.table t) = some (.text a)) :
    Table.get? k s.engine.env = some a := by
  obtain ⟨_, e, ⟨⟩, engine, has⟩ := atPathTable has
  obtain ⟨e, m, rfl, env, has⟩ := atPathTable has
  obtain ⟨m, v, rfl, entry, ⟨⟩⟩ := atPathTable has
  obtain ⟨missing, -⟩ | ⟨v, found, checked⟩ := entryOk.mp (ofMergedParts.mp ok).1
  · rw [engine] at missing
    cases missing
  cases engine.symm.trans found
  obtain ⟨-, -, mapping, -⟩ := engineParts.mp checked
  obtain ⟨missing, -⟩ | ⟨v, found, read⟩ := entryOk.mp mapping
  · rw [env] at missing
    cases missing
  cases env.symm.trans found
  exact textsGet read entry

theorem endpointGet (s : Settings) (k : String) : Table.get? (k : Text) s.endpoint.env =
    (if k = "DOCKER_CERT_PATH" then
      (s.engine.certPath.filter (· ≠ "")).or (Table.get? k s.engine.env)
    else if k = "DOCKER_TLS_VERIFY" ∧ s.engine.tlsVerify = true then some "1"
    else Table.get? k s.engine.env).map Text.ofString := by
  have verified : Table.get? k (if s.engine.tlsVerify then
      Table.set "DOCKER_TLS_VERIFY" "1" s.engine.env else s.engine.env) =
      if k = "DOCKER_TLS_VERIFY" ∧ s.engine.tlsVerify = true then some "1"
      else Table.get? k s.engine.env := by
    cases s.engine.tlsVerify <;> simp [Table.getSet, eq_comm]
  unfold endpoint
  rw [Environment.getOfStrings]
  refine congrArg (Option.map _) ?_
  by_cases cert : k = "DOCKER_CERT_PATH"
  · subst cert
    have other : ¬ ("DOCKER_CERT_PATH" = "DOCKER_TLS_VERIFY" ∧ s.engine.tlsVerify = true) :=
      fun both => absurd both.1 (by decide)
    rw [if_neg other] at verified
    rw [if_pos rfl]
    cases s.engine.certPath.filter (· ≠ "") with
    | none => exact verified
    | some path => exact (Table.getSet _ _ _ _).trans (if_pos rfl)
  · rw [if_neg cert]
    cases s.engine.certPath.filter (· ≠ "") with
    | none => exact verified
    | some path => exact ((Table.getSet _ _ _ _).trans (if_neg (Ne.symm cert))).trans verified

/-- The mapping of the endpoint follows a variable of the environment below the key in lower case,
over what the files say. A key with a capital letter keeps what the configuration file says. -/
theorem mappingFollows {given : Entries} {around : Surroundings} {src : Sources} {s : Settings}
    {k a b : String} (read : Sources.read given around = .ok src)
    (loaded : load given around = .ok s) (named : Named k)
    (filed : atPath ["engine", "env", k] (.table src.file) = some (.text a))
    (set : Table.get? (Text.lower ("DOCKINS_ENGINE__ENV__" ++ k)) src.environment = some (some b))
    (silent : ∀ key ∈ [k, Text.lower k], Silent ["engine", "env", key] (.table src.given))
    (environment : Itemized src.environment) (dotenv : Itemized src.dotenv) :
    Table.get? (Text.lower k : Text) s.endpoint.env = some (b : Text) ∧
    (Text.lower k ≠ k → Table.get? k s.engine.env = some a) := by
  rw [Sources.loadRead, read] at loaded
  obtain ⟨ls, made, merged⟩ := Sources.loadOk.mp loaded
  obtain ⟨e, d, upper, lower, rfl⟩ := Sources.layersOk.mp made
  obtain ⟨own, low⟩ := List.forall_mem_cons.mp silent
  obtain ⟨low, -⟩ := List.forall_mem_cons.mp low
  have stacked : Value.table (Layers.merged ⟨src.given, e, d, src.file⟩) =
      overlaid (some (.table src.file)) (overlaid (some (.table d))
        (overlaid (some (.table e)) (.table src.given))) := by
    simp only [overlaid, Layers.merged]
  have clear (key : String) (given : Silent ["engine", "env", key] (.table src.given)) :
      Clear ["engine", "env", key] (overlaid (some (.table e)) (.table src.given)) :=
    overlaidClear (layerClear src.environmentLowered environment upper) given.clear
  constructor
  · rw [named.lowerVariable] at set
    have decided : atPath ["engine", "env", Text.lower k]
        (overlaid (some (.table e)) (.table src.given)) = some (.text b) := by
      rw [overlaidSilent low]
      exact layerDecides src.environmentLowered environment upper named.lower.single set
    have leaf : ∀ t, Value.text b ≠ .table t := fun t => Value.noConfusion
    have entry : Table.get? (Text.lower k) s.engine.env = some b := by
      refine mergedMapping merged ?_
      rw [stacked]
      refine overlaidDecides (overlaidClear (layerClear src.dotenvLowered dotenv lower) (clear _ low))
        (overlaidDecides (clear _ low) decided leaf _) leaf _
    -- What the endpoint sets by itself is named in capitals.
    have apart (name : String) (capital : 'D' ∈ name.toList) : Text.lower k ≠ name := by
      rintro rfl
      exact absurd (Text.lowerSmall k 'D' capital) (by unfold Text.Casing.Small; decide)
    rw [endpointGet, if_neg (apart "DOCKER_CERT_PATH" (by decide)),
      if_neg fun both => apart "DOCKER_TLS_VERIFY" (by decide) both.1, entry]
    rfl
  · intro differs
    -- No layer of variables has anything at a key with a capital letter.
    have capital := named.capital differs
    have first : Silent ["engine", "env", k] (overlaid (some (.table e)) (.table src.given)) := by
      refine ⟨clear k own, (overlaidSilent own _).trans ?_⟩
      exact (layerSilent src.environmentLowered environment upper capital).absent
    have below := layerSilent src.dotenvLowered dotenv lower capital
    have second : Silent ["engine", "env", k] (overlaid (some (.table d))
        (overlaid (some (.table e)) (.table src.given))) :=
      ⟨overlaidClear below.clear first.clear, (overlaidSilent first _).trans below.absent⟩
    refine mergedMapping merged ?_
    rw [stacked, overlaidSilent second]
    exact filed

def listing (k : String) : String := "[engine.env]\n" ++ k ++ " = \"a\"\n"

def listed (k : String) : Surroundings where
  environment := [("DOCKINS_ENGINE__ENV__" ++ k, "b")]
  file := some (Text.Utf8.ofString (listing k))

def listedSources (k : String) : Sources where
  given := []
  environment := .ofEnvironment (listed k).environment
  dotenv := []
  file := [("engine", .table [("env", .table [(k, .text "a")])])]
  environmentLowered := ofBindingsLowered _
  dotenvLowered := ofBindingsLowered []

section

variable {k : String} (same : Text.lower ("DOCKINS_ENGINE__ENV__" ++ k) = "dockins_engine__env__foo")

theorem listedReads (text : decoded (Text.Utf8.ofString (listing k)) = .ok (listing k).toList)
    (tables : Toml.read (listing k).toList = .ok (listedSources k).file) :
    Sources.read [] (listed k) = .ok (listedSources k) := by
  have sections (v : Value) : sectionsOf [("engine", v)] = [("engine", v)] := by cbv
  have file : sectionsOf (listedSources k).file = (listedSources k).file := sections _
  simp only [Sources.read, listed, text, bind, Except.bind, tables, Except.mapError, pure,
    Except.pure, file]
  rfl

include same

theorem listedVariable :
    (listedSources k).environment = [("dockins_engine__env__foo", some "b")] := by
  rw [← same]
  rfl

theorem listedLoads {s : Settings} (read : Sources.read [] (listed k) = .ok (listedSources k))
    (checked : ofMerged (Layers.merged ⟨[], [("engine", .table [("env", .table [("foo", .text "b")])])],
      [], (listedSources k).file⟩) = .ok s) : load [] (listed k) = .ok s := by
  have layer : Variables.layer [("dockins_engine__env__foo", some "b")] =
    .ok [("engine", .table [("env", .table [("foo", .text "b")])])] := rfl
  have nothing : Variables.layer [] = .ok [] := rfl
  have made : (listedSources k).layers = .ok ⟨[],
      [("engine", .table [("env", .table [("foo", .text "b")])])], [], (listedSources k).file⟩ :=
    Sources.layersOk.mpr ⟨_, _, (listedVariable same).symm ▸ layer, nothing, rfl⟩
  rw [Sources.loadRead, read]
  exact Except.bindOk.mpr ⟨_, rfl, Sources.loadOk.mpr ⟨_, made, checked⟩⟩

end

theorem mappingFollowsSmall : ∃ s, load [] (listed "foo") = .ok s ∧ Text.lower "foo" = "foo" ∧
    Table.get? (Text.lower "foo" : Text) s.endpoint.env = some ("b" : Text) := by
  have read : Sources.read [] (listed "foo") = .ok (listedSources "foo") :=
    listedReads (by cbv) (by cbv)
  have same : Text.lower ("DOCKINS_ENGINE__ENV__" ++ "foo") = "dockins_engine__env__foo" := rfl
  have loaded : load [] (listed "foo") = .ok { engine := { env := [("foo", "b")] } } :=
    listedLoads same read rfl
  have named : Named "foo" := ⟨by simp, by simp [Single]⟩
  have set : Table.get? (Text.lower ("DOCKINS_ENGINE__ENV__" ++ "foo"))
      (listedSources "foo").environment = some (some "b") := by
    rw [same, listedVariable same]
    rfl
  have itemized : Itemized (listedSources "foo").environment := by
    rw [listedVariable same]
    exact ⟨rfl, rfl⟩
  have silent (key : String) : Silent ["engine", "env", key] (.table (listedSources "foo").given) :=
    ⟨clearEmpty _, rfl⟩
  exact ⟨_, loaded, rfl, (mappingFollows read loaded named rfl set (fun key _ => silent key)
    itemized ⟨rfl, rfl⟩).1⟩

theorem capitalStays : (load [] (listed "FOO")).map (·.endpoint.env) =
    .ok (Environment.ofStrings [("FOO", "a"), ("foo", "b")]) := by
  have read : Sources.read [] (listed "FOO") = .ok (listedSources "FOO") :=
    listedReads (by cbv) (by cbv)
  have same : Text.lower ("DOCKINS_ENGINE__ENV__" ++ "FOO") = "dockins_engine__env__foo" := rfl
  have loaded : load [] (listed "FOO") = .ok { engine := { env := [("FOO", "a"), ("foo", "b")] } } :=
    listedLoads same read rfl
  rw [loaded]
  rfl

end ContainerDriver.Settings
