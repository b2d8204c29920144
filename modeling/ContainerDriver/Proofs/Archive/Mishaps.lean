import ContainerDriver.Proofs.Archive.Reading

/-! When reading fails outside the format. The malformed shapes that the reader does not guard
against are listed beside it, and they are all there are. -/
namespace ContainerDriver.Archive

namespace Attributes

def Unreadable (a : Attributes) : Prop :=
  ∃ kv ∈ a, (kv.1 = key "GNU.sparse.size" ∨ kv.1 = key "GNU.sparse.realsize") ∧
    number? kv.2 = none

theorem requiredNumberFails (value : Bytes) :
    (∃ f, requiredNumber value = .error f) ↔ number? value = none := by
  unfold requiredNumber
  cases number? value <;> simp

theorem applyOneFails (m : Member) (keyword value : Bytes) :
    (∃ f, applyOne m keyword value = .error f) ↔
      (keyword = key "GNU.sparse.size" ∨ keyword = key "GNU.sparse.realsize") ∧
        number? value = none := by
  unfold applyOne
  by_cases name : keyword = key "GNU.sparse.name"
  · have other : ¬(keyword = key "GNU.sparse.size" ∨ keyword = key "GNU.sparse.realsize") := by
      rw [name]
      decide
    simp [name, show ¬_ from name ▸ other]
  · rw [if_neg name]
    by_cases size : keyword = key "GNU.sparse.size" ∨ keyword = key "GNU.sparse.realsize"
    · rw [if_pos size, ← requiredNumberFails]
      cases requiredNumber value <;> simp [Except.map, size]
    · rw [if_neg size]
      refine ⟨?_, fun h => absurd h.1 size⟩
      rintro ⟨f, bad⟩
      split at bad
      · cases bad
      · split at bad
        · cases bad
        · split at bad
          · cases bad
          · split at bad <;> cases bad

theorem applyFails {a : Attributes} {m : Member} : (∃ f, a.apply m = .error f) ↔ a.Unreadable := by
  induction a generalizing m with
  | nil =>
    refine ⟨?_, ?_⟩
    · rintro ⟨f, bad⟩
      cases bad
    · rintro ⟨kv, mem, -⟩
      cases mem
  | cons e rest ih =>
    have here := applyOneFails m e.1 e.2
    have split' : Unreadable (e :: rest) ↔
        ((e.1 = key "GNU.sparse.size" ∨ e.1 = key "GNU.sparse.realsize") ∧ number? e.2 = none) ∨
          Unreadable rest := by
      simp [Unreadable]
    rw [split', ← here, apply, List.foldlM_cons]
    cases one : applyOne m e.1 e.2 with
    | error f => simp [bind, Except.bind]
    | ok n =>
      have later := ih (m := n)
      simp only [bind, Except.bind, reduceCtorEq, exists_false, false_or]
      exact later

end Attributes

namespace Sparse

def Readable (block : Bytes) : Prop :=
  ∀ i, 12 * i < block.length → (Field.read? ((block.drop (12 * i)).take 12)).isSome = true

theorem readableStep (block : Bytes) :
    Readable block ↔ (block ≠ [] → (Field.read? (block.take 12)).isSome = true) ∧
      (block.drop 12 ≠ [] → (Field.read? ((block.drop 12).take 12)).isSome = true) ∧
      Readable (block.drop 24) := by
  constructor
  · intro readable
    refine ⟨?_, ?_, ?_⟩
    · intro some'
      simpa using readable 0 (by simpa using List.length_pos_iff.mpr some')
    · intro some'
      have long := List.length_pos_iff.mpr some'
      rw [List.length_drop] at long
      exact readable 1 (by omega)
    · intro i inside
      rw [List.length_drop] at inside
      have read := readable (i + 2) (by omega)
      rw [List.drop_drop, show 24 + 12 * i = 12 * (i + 2) by omega]
      exact read
  · rintro ⟨first, second, later⟩ i inside
    match i with
    | 0 =>
      have some' : block ≠ [] := List.length_pos_iff.mp (by omega)
      simpa using first some'
    | 1 =>
      have some' : block.drop 12 ≠ [] := by
        apply List.length_pos_iff.mp
        rw [List.length_drop]
        omega
      exact second some'
    | i + 2 =>
      have read := later i (by rw [List.length_drop]; omega)
      rw [List.drop_drop, show 24 + 12 * i = 12 * (i + 2) by omega] at read
      exact read

theorem blockNumberOutcome (block : Bytes) :
    (block = [] ∧ blockNumber block = .error (.mishap .cutBlock)) ∨
    (block ≠ [] ∧ Field.read? (block.take 12) = none ∧
      blockNumber block = .error (.flawed .invalid)) ∨
    (∃ n, (Field.read? (block.take 12)).isSome = true ∧ blockNumber block = .ok n) := by
  unfold blockNumber
  by_cases none' : block = []
  · exact .inl ⟨none', if_pos none'⟩
  · rw [if_neg none']
    cases read : Field.read? (block.take 12) with
    | none => exact .inr (.inl ⟨none', rfl, rfl⟩)
    | some n => exact .inr (.inr ⟨n, rfl, rfl⟩)

theorem blockExtentsOutcome (count : Nat) (block : Bytes) :
    match blockExtents count block with
    | .ok _ => ∀ i < 2 * count, (Field.read? ((block.drop (12 * i)).take 12)).isSome = true
    | .error (.mishap _) => block.length + 12 ≤ 24 * count ∧ Readable block
    | .error _ => ¬ Readable block := by
  -- A bad number in front of the end of the block is a flaw; only the end itself is a mishap.
  induction count generalizing block with
  | zero => simp [blockExtents]
  | succ count ih =>
    have step := readableStep block
    rcases blockNumberOutcome block with ⟨none', cut⟩ | ⟨some', bad, flaw⟩ | ⟨n, good, read⟩
    · simp only [blockExtents, cut, bind, Except.bind]
      subst none'
      exact ⟨by simp; omega, by simp [Readable]⟩
    · simp only [blockExtents, flaw, bind, Except.bind]
      intro readable
      simpa [bad] using (step.mp readable).1 some'
    · rcases blockNumberOutcome (block.drop 12) with ⟨none', cut⟩ | ⟨some', bad, flaw⟩ |
        ⟨k, good', read'⟩
      · simp only [blockExtents, read, cut, bind, Except.bind]
        have short : block.length ≤ 12 := List.drop_eq_nil_iff.mp none'
        refine ⟨by omega, step.mpr ⟨fun _ => good, fun some' => absurd none' some', ?_⟩⟩
        rw [List.drop_eq_nil_iff.mpr (by omega)]
        simp [Readable]
      · simp only [blockExtents, read, flaw, bind, Except.bind]
        intro readable
        simpa [bad] using (step.mp readable).2.1 some'
      · have later := ih (block.drop 24)
        simp only [blockExtents, read, read', bind, Except.bind]
        cases rest : blockExtents count (block.drop 24) with
        | ok extents =>
          simp only [rest, pure, Except.pure] at later ⊢
          intro i inside
          match i with
          | 0 => simpa using good
          | 1 => exact good'
          | i + 2 =>
            have one := later i (by omega)
            rw [List.drop_drop, show 24 + 12 * i = 12 * (i + 2) by omega] at one
            exact one
        | error stop =>
          simp only [rest] at later ⊢
          cases stop with
          | mishap m =>
            simp only [List.length_drop] at later ⊢
            exact ⟨by omega, step.mpr ⟨fun _ => good, fun _ => good', later.2⟩⟩
          | _ => exact fun readable => later (step.mp readable).2.2

def Cut (block : Bytes) : Prop := block.length < 505 ∧ Readable block

inductive CutTable : Tape → Prop where
  | here {t} (cut : Cut (t.rest.take blockSize)) : CutTable t
  | later {t extents} (read : blockExtents 21 (t.rest.take blockSize) = .ok extents)
      (full : ¬ (t.rest.take blockSize).length < 505)
      (more : slice 504 1 (t.rest.take blockSize) ≠ [0])
      (behind : CutTable (t.skip blockSize)) : CutTable t

theorem moreExtentsStep (t : Tape) : moreExtents t =
    match blockExtents 21 (t.rest.take blockSize) with
    | .error s => .error s
    | .ok extents =>
      if (t.rest.take blockSize).length < 505 then .error (.mishap .cutBlock)
      else if slice 504 1 (t.rest.take blockSize) = [0] then .ok (extents, t.skip blockSize)
      else match moreExtents (t.skip blockSize) with
        | .error s => .error s
        | .ok (rest, t') => .ok (extents ++ rest, t') := by
  rw [moreExtents]
  rfl

theorem moreExtentsCut {t : Tape} (table : CutTable t) :
    ∃ m, moreExtents t = .error (.mishap m) := by
  induction table with
  | @here t cut =>
    have outcome := blockExtentsOutcome 21 (t.rest.take blockSize)
    rw [moreExtentsStep]
    cases read : blockExtents 21 (t.rest.take blockSize) with
    | ok extents => exact ⟨.cutBlock, if_pos cut.1⟩
    | error stop =>
      rw [read] at outcome
      cases stop with
      | mishap m => exact ⟨m, rfl⟩
      | _ => exact absurd cut.2 outcome
  | later read full more _ ih =>
    obtain ⟨m, bad⟩ := ih
    rw [moreExtentsStep, read]
    simp only [if_neg full, if_neg more, bad]
    exact ⟨m, rfl⟩

theorem cutOfMoreExtents {t : Tape} {m : Mishap} (bad : moreExtents t = .error (.mishap m)) :
    CutTable t := by
  induction t using moreExtents.induct with
  | case1 t block stop read =>
    have outcome := blockExtentsOutcome 21 (t.rest.take blockSize)
    rw [moreExtentsStep] at bad
    simp only [show blockExtents 21 (t.rest.take blockSize) = .error stop from read] at bad outcome
    cases bad
    exact .here ⟨by omega, outcome.2⟩
  | case2 t block extents read short =>
    have outcome := blockExtentsOutcome 21 (t.rest.take blockSize)
    simp only [show blockExtents 21 (t.rest.take blockSize) = .ok extents from read] at outcome
    have cut : (t.rest.take blockSize).length < 505 := short
    exact .here ⟨cut, fun i inside => outcome i (by omega)⟩
  | case3 t block extents read full last =>
    rw [moreExtentsStep] at bad
    simp only [show blockExtents 21 (t.rest.take blockSize) = .ok extents from read,
      show ¬(t.rest.take blockSize).length < 505 from full,
      show slice 504 1 (t.rest.take blockSize) = [0] from last, if_false, if_true] at bad
    cases bad
  | case4 t block extents read full more stop failed ih =>
    rw [moreExtentsStep] at bad
    simp only [show blockExtents 21 (t.rest.take blockSize) = .ok extents from read,
      show ¬(t.rest.take blockSize).length < 505 from full,
      show ¬slice 504 1 (t.rest.take blockSize) = [0] from more, failed, if_false] at bad
    cases bad
    exact .later read full more (ih failed)
  | case5 t block extents read full more rest t' good ih =>
    rw [moreExtentsStep] at bad
    simp only [show blockExtents 21 (t.rest.take blockSize) = .ok extents from read,
      show ¬(t.rest.take blockSize).length < 505 from full,
      show ¬slice 504 1 (t.rest.take blockSize) = [0] from more, good, if_false] at bad
    cases bad

def refill (buffer : Bytes) (t : Tape) : Bytes × Tape :=
  if buffer.contains 0x0A then (buffer, t) else (buffer ++ t.rest.take blockSize, t.skip blockSize)

theorem linesStep (count : Nat) (buffer : Bytes) (t : Tape) : lines (count + 1) buffer t =
    match line? (refill buffer t).1 with
    | none => .error .badNumber
    | some (n, buffer') => do
      let (rest, t') ← lines count buffer' (refill buffer t).2
      return (n :: rest, t') := by
  rw [lines, refill]
  cases buffer.contains 0x0A with
  | true => rfl
  | false => rfl

inductive BadLine : Nat → Bytes → Tape → Prop where
  | here {count buffer t} (bad : line? (refill buffer t).1 = none) : BadLine (count + 1) buffer t
  | later {count buffer t n rest} (read : line? (refill buffer t).1 = some (n, rest))
      (behind : BadLine count rest (refill buffer t).2) : BadLine (count + 1) buffer t

theorem linesFail (count : Nat) (buffer : Bytes) (t : Tape) :
    (∃ m, lines count buffer t = .error m) ↔ BadLine count buffer t := by
  induction count generalizing buffer t with
  | zero =>
    refine ⟨?_, fun bad => by cases bad⟩
    rintro ⟨m, bad⟩
    cases bad
  | succ count ih =>
    rw [linesStep]
    cases read : line? (refill buffer t).1 with
    | none => exact ⟨fun _ => .here read, fun _ => ⟨.badNumber, rfl⟩⟩
    | some next =>
      have later := ih next.2 (refill buffer t).2
      constructor
      · rintro ⟨m, bad⟩
        cases rest : lines count next.2 (refill buffer t).2 with
        | ok pair => simp [rest, bind, Except.bind, pure, Except.pure] at bad
        | error m => exact .later read (later.mp ⟨m, rest⟩)
      · intro bad
        cases bad with
        | here none' => simp [read] at none'
        | later read' behind =>
          cases read.symm.trans read'
          obtain ⟨m, failed⟩ := later.mpr behind
          exact ⟨m, by simp [failed, bind, Except.bind]⟩

def Unlisted (t : Tape) : Prop :=
  line? (t.rest.take blockSize) = none ∨ ∃ count buffer,
    line? (t.rest.take blockSize) = some (count, buffer) ∧
      BadLine (count * 2).toNat buffer (t.skip blockSize)

theorem ofContentFails {t : Tape} : (∃ m, ofContent t = .error m) ↔ Unlisted t := by
  unfold ofContent Unlisted
  cases read : line? (t.rest.take blockSize) with
  | none => simp
  | some next =>
    have behind := linesFail (next.1 * 2).toNat next.2 (t.skip blockSize)
    simp only [reduceCtorEq, Option.some.injEq, false_or]
    constructor
    · rintro ⟨m, bad⟩
      refine ⟨next.1, next.2, rfl, behind.mp ?_⟩
      cases rest : lines (next.1 * 2).toNat next.2 (t.skip blockSize) with
      | ok pair => simp [rest, bind, Except.bind, pure, Except.pure] at bad
      | error m => exact ⟨m, rfl⟩
    · rintro ⟨count, buffer, rfl, bad⟩
      obtain ⟨m, failed⟩ := behind.mpr bad
      exact ⟨m, by simp [failed, bind, Except.bind]⟩

theorem requiredNumbersFail {parts : List Bytes} :
    (∃ m, parts.mapM Attributes.requiredNumber = .error m) ↔
      ∃ part ∈ parts, Attributes.number? part = none := by
  induction parts with
  | nil => simp [pure, Except.pure]
  | cons part rest ih =>
    have here := Attributes.requiredNumberFails part
    simp only [List.mem_cons, exists_eq_or_imp, ← ih, ← here, List.mapM_cons]
    cases one : Attributes.requiredNumber part with
    | error m => simp [bind, Except.bind]
    | ok n =>
      cases later : rest.mapM Attributes.requiredNumber <;>
        simp [bind, Except.bind, pure, Except.pure]

theorem ofMapFails {value : Bytes} : (∃ m, ofMap value = .error m) ↔
    ∃ part ∈ Bytes.split 0x2C value, Attributes.number? part = none := by
  rw [← requiredNumbersFail, ofMap]
  cases (Bytes.split 0x2C value).mapM Attributes.requiredNumber <;>
    simp [bind, Except.bind, pure, Except.pure]

def Undescribed (a : Attributes) (found : Found) : Prop :=
  (∃ value, Table.get? (Attributes.key "GNU.sparse.map") a = some value ∧
    ∃ part ∈ Bytes.split 0x2C value, Attributes.number? part = none) ∨
  (Table.get? (Attributes.key "GNU.sparse.map") a = none ∧
    Table.has (Attributes.key "GNU.sparse.size") a = false ∧
    Table.get? (Attributes.key "GNU.sparse.major") a = some (Attributes.key "1") ∧
    Table.get? (Attributes.key "GNU.sparse.minor") a = some (Attributes.key "0") ∧
    Unlisted found.resume.tape)

theorem describeFails {a : Attributes} (rs : List Record) (found : Found) :
    (∃ m, describe a rs found = .error (.mishap m)) ↔ Undescribed a found := by
  unfold describe Undescribed
  cases map : Table.get? (Attributes.key "GNU.sparse.map") a with
  | some value =>
    simp only [Option.some.injEq, exists_eq_left', reduceCtorEq, false_and, or_false, ← ofMapFails]
    cases ofMap value <;> simp
  | none =>
    simp only [reduceCtorEq, false_and, exists_false, true_and, false_or, ← ofContentFails]
    by_cases size : Table.has (Attributes.key "GNU.sparse.size") a
    · simp only [size, if_true]
      cases ofRecords? rs <;> simp
    · simp only [size, Bool.false_eq_true, if_false]
      split
      · next version =>
        cases ofContent found.resume.tape <;> simp [version]
      · next version =>
        have other : ¬(Table.get? (Attributes.key "GNU.sparse.major") a = some (Attributes.key "1") ∧
          Table.get? (Attributes.key "GNU.sparse.minor") a = some (Attributes.key "0") ∧
          ∃ m, ofContent found.resume.tape = .error m) := fun h => version ⟨h.1, h.2.1⟩
        simp [other]

end Sparse

namespace Member

structure Extends (t : Tape) (f : Fields) (buffer : Bytes) (t' : Tape) : Prop where
  header : Fields.ofBlock (t.rest.take blockSize) = .ok f
  extents : f.sparse = none
  kind : Kind.ofFlag f.flag ≠ .plain
  payload : (t.skip blockSize).read (wholeBlocks f.size) = .ok (buffer, t')

/-- Headers that lead the reader outside the format. -/
inductive Strays : Attributes → Tape → Prop where
  -- A sparse header announces more extents, which are cut.
  | extents {globals t f lead} (header : Fields.ofBlock (t.rest.take blockSize) = .ok f)
      (sparse : f.sparse = some lead) (more : lead.more = true)
      (cut : Sparse.CutTable (t.skip blockSize)) : Strays globals t
  -- A shared attribute gives a plain member a sparse size that is no number.
  | attributes {globals t f} (header : Fields.ofBlock (t.rest.take blockSize) = .ok f)
      (plain : f.sparse = none) (kind : Kind.ofFlag f.flag = .plain)
      (unreadable : globals.Unreadable) : Strays globals t
  -- The payload of an extended header is too long to be asked for.
  | payload {globals t f} (header : Fields.ofBlock (t.rest.take blockSize) = .ok f)
      (plain : f.sparse = none) (kind : Kind.ofFlag f.flag ≠ .plain)
      (far : Tape.inReach (wholeBlocks f.size) = false) : Strays globals t
  | named {globals t f buffer t'} (ext : Extends t f buffer t')
      (kind : Kind.ofFlag f.flag = .longName ∨ Kind.ofFlag f.flag = .longLink)
      (behind : Strays globals t') : Strays globals t
  | described {globals t f buffer t' rs} (ext : Extends t f buffer t')
      (kind : ¬(Kind.ofFlag f.flag = .longName ∨ Kind.ofFlag f.flag = .longLink))
      (records : Record.parse? buffer = some rs)
      (behind : Strays (if Kind.ofFlag f.flag = .globals then globals.add rs else globals) t') :
      Strays globals t
  -- The extents that attributes give to the member behind them are no numbers.
  | undescribed {globals t f buffer t' rs found} (ext : Extends t f buffer t')
      (kind : ¬(Kind.ofFlag f.flag = .longName ∨ Kind.ofFlag f.flag = .longLink))
      (records : Record.parse? buffer = some rs)
      (behind : find (if Kind.ofFlag f.flag = .globals then globals.add rs else globals) t'
        = .ok found)
      (bad : Sparse.Undescribed
        (if Kind.ofFlag f.flag = .globals then found.resume.globals else globals.add rs) found) :
      Strays globals t
  | unreadable {globals t f buffer t' rs found found'} (ext : Extends t f buffer t')
      (kind : Kind.ofFlag f.flag = .attributes) (records : Record.parse? buffer = some rs)
      (behind : find globals t' = .ok found)
      (good : Sparse.describe (globals.add rs) rs found = .ok found')
      (bad : (globals.add rs).Unreadable) : Strays globals t

theorem sparseFails {globals : Attributes} {f : Fields} {lead : SparseLead} {t : Tape} :
    (∃ m, sparse globals f lead t = .error (.mishap m)) ↔ lead.more = true ∧ Sparse.CutTable t := by
  unfold sparse
  by_cases more : lead.more = true
  · simp only [more, if_true, true_and]
    constructor
    · rintro ⟨m, bad⟩
      cases read : Sparse.moreExtents t with
      | ok pair => simp [read, bind, Except.bind, pure, Except.pure] at bad
      | error stop =>
        simp only [read, bind, Except.bind, Except.error.injEq] at bad
        subst bad
        exact Sparse.cutOfMoreExtents read
    · intro table
      obtain ⟨m, bad⟩ := Sparse.moreExtentsCut table
      exact ⟨m, by simp [bad, bind, Except.bind]⟩
  · simp [more, bind, Except.bind, pure, Except.pure]

theorem plainFails {globals : Attributes} {f : Fields} {t : Tape} :
    (∃ m, plain globals f t = .error (.mishap m)) ↔ globals.Unreadable := by
  rw [← Attributes.applyFails (m := ofFields f t.position), plain]
  cases globals.apply (ofFields f t.position) <;> simp

theorem describeFails {a : Attributes} (found : Found) :
    (∃ m, describe a found = .error (.mishap m)) ↔ a.Unreadable := by
  rw [← Attributes.applyFails (m := found.member), describe]
  cases a.apply found.member <;> simp

theorem readFails {t : Tape} {n : Int} :
    (∃ m, t.read n = .error m) ↔ Tape.inReach n = false := by
  unfold Tape.read
  by_cases near : Tape.inReach n = true
  · simp only [near, Bool.not_true, Bool.false_eq_true, if_false, Bool.true_eq_false, iff_false]
    rintro ⟨m, bad⟩
    split at bad <;> cases bad
  · simp [near]

theorem Extends.attributes {t t' : Tape} {f : Fields} {buffer : Bytes} (ext : Extends t f buffer t')
    (other : ¬(Kind.ofFlag f.flag = .longName ∨ Kind.ofFlag f.flag = .longLink))
    (own : Kind.ofFlag f.flag ≠ .globals) : Kind.ofFlag f.flag = .attributes := by
  have plain := ext.kind
  cases kind : Kind.ofFlag f.flag <;> simp_all

theorem Extends.shorter {t t' : Tape} {f : Fields} {buffer : Bytes} (ext : Extends t f buffer t') :
    t'.rest.length < t.rest.length := by
  have full := Fields.ofBlockLength ext.header
  have read := Tape.readRest ext.payload
  simp only [Tape.skip, List.length_drop, List.length_take, blockSize] at *
  omega

theorem findOfExtends {globals : Attributes} {t t' : Tape} {f : Fields} {buffer : Bytes}
    (ext : Extends t f buffer t') :
    find globals t = findPast globals (Kind.ofFlag f.flag) buffer t' := by
  rw [findExtended ext.header ext.extents ext.kind, ext.payload]

inductive Met (globals : Attributes) (t : Tape) : Except Stop Found → Prop where
  | flawed {f} (header : Fields.ofBlock (t.rest.take blockSize) = .error f) :
      Met globals t (.error (.flawed f))
  | sparse {f lead r} (header : Fields.ofBlock (t.rest.take blockSize) = .ok f)
      (extents : f.sparse = some lead) (read : sparse globals f lead (t.skip blockSize) = r) :
      Met globals t r
  | plain {f r} (header : Fields.ofBlock (t.rest.take blockSize) = .ok f)
      (extents : f.sparse = none) (kind : Kind.ofFlag f.flag = .plain)
      (read : plain globals f (t.skip blockSize) = r) : Met globals t r
  | far {f m} (header : Fields.ofBlock (t.rest.take blockSize) = .ok f) (extents : f.sparse = none)
      (kind : Kind.ofFlag f.flag ≠ .plain)
      (payload : (t.skip blockSize).read (wholeBlocks f.size) = .error m) :
      Met globals t (.error (.mishap m))
  | past {f buffer t' r} (ext : Extends t f buffer t')
      (read : findPast globals (Kind.ofFlag f.flag) buffer t' = r) : Met globals t r

theorem findTrace {globals : Attributes} {t : Tape} {r : Except Stop Found}
    (read : find globals t = r) : Met globals t r := by
  subst read
  cases header : Fields.ofBlock (t.rest.take blockSize) with
  | error f =>
    rw [findFlawed header]
    exact .flawed header
  | ok f =>
    cases extents : f.sparse with
    | some lead => exact .sparse header extents (findSparse header extents).symm
    | none =>
      by_cases kind : Kind.ofFlag f.flag = .plain
      · exact .plain header extents kind (findPlain header extents kind).symm
      · cases payload : (t.skip blockSize).read (wholeBlocks f.size) with
        | error m =>
          rw [findExtended header extents kind, payload]
          exact .far header extents kind payload
        | ok pair =>
          have ext : Extends t f pair.1 pair.2 := ⟨header, extents, kind, payload⟩
          exact .past ext (findOfExtends ext).symm

theorem findOfStrays {globals : Attributes} {t : Tape} (strays : Strays globals t) :
    ∃ m, find globals t = .error (.mishap m) := by
  induction strays with
  | extents header sparse more cut =>
    rw [findSparse header sparse]
    exact sparseFails.mpr ⟨more, cut⟩
  | attributes header plain kind unreadable =>
    rw [findPlain header plain kind]
    exact plainFails.mpr unreadable
  | payload header plain kind far =>
    obtain ⟨m, bad⟩ := readFails.mpr far
    rw [findExtended header plain kind, bad]
    exact ⟨m, rfl⟩
  | named ext kind _ ih =>
    obtain ⟨m, bad⟩ := ih
    simp only [findOfExtends ext, findPast, if_pos kind, bad]
    exact ⟨m, rfl⟩
  | described ext kind records _ ih =>
    obtain ⟨m, bad⟩ := ih
    simp only [findOfExtends ext, findPast, if_neg kind, records, bad]
    exact ⟨m, rfl⟩
  | @undescribed _ _ _ _ _ rs found ext kind records behind bad =>
    obtain ⟨m, failed⟩ := (Sparse.describeFails rs found).mpr bad
    simp only [findOfExtends ext, findPast, if_neg kind, records, behind, failed]
    exact ⟨m, rfl⟩
  | @unreadable _ _ _ _ _ _ _ found' ext kind records behind good bad =>
    obtain ⟨m, failed⟩ := (describeFails found').mpr bad
    have shared : ¬ Kind.attributes = .globals := by decide
    have named : ¬(Kind.attributes = .longName ∨ Kind.attributes = .longLink) := by decide
    simp only [findOfExtends ext, findPast, kind, if_neg named, if_neg shared, records, behind,
      good, failed]
    exact ⟨m, rfl⟩

theorem straysOfFindPast {globals : Attributes} {t t' : Tape} {f : Fields} {buffer : Bytes}
    {m : Mishap} (ext : Extends t f buffer t')
    (behind : ∀ g m', find g t' = .error (.mishap m') → Strays g t')
    (bad : findPast globals (Kind.ofFlag f.flag) buffer t' = .error (.mishap m)) :
    Strays globals t := by
  have outer {s : Stop} (same : s.outer = .mishap m) : s = .mishap m := by
    cases s <;> cases same
    rfl
  generalize stop : Except.error (Stop.mishap m) = r at bad
  cases findPastTrace bad with
  | unnamed named failed =>
    cases outer (Except.error.inj stop).symm
    exact .named ext named (behind _ _ failed)
  | renamed named read => cases stop
  | garbled other bad => cases stop
  | unfound other records failed =>
    cases outer (Except.error.inj stop).symm
    exact .described ext other records (behind _ _ failed)
  | @undescribed rs found _ other records read failed =>
    cases stop
    exact .undescribed ext other records read ((Sparse.describeFails rs found).mp ⟨m, failed⟩)
  | shared globals' records read described => cases stop
  | own other own' records read described applied =>
    have kind : Kind.ofFlag f.flag = .attributes := ext.attributes other own'
    exact .unreadable ext kind records read described
      ((describeFails _).mp ⟨m, applied.trans stop.symm⟩)

theorem findFails {globals : Attributes} {t : Tape} :
    (∃ m, find globals t = .error (.mishap m)) ↔ Strays globals t := by
  refine ⟨?_, findOfStrays⟩
  rintro ⟨m, bad⟩
  -- Each extended header takes its block and its payload off the tape.
  induction count : t.rest.length using Nat.strong_induction_on generalizing globals t m with
  | _ n ih =>
    generalize stop : Except.error (Stop.mishap m) = r at bad
    cases findTrace bad with
    | flawed header => cases stop
    | sparse header extents read =>
      obtain ⟨more, cut⟩ := sparseFails.mp ⟨m, read.trans stop.symm⟩
      exact .extents header extents more cut
    | plain header extents kind read =>
      exact .attributes header extents kind (plainFails.mp ⟨m, read.trans stop.symm⟩)
    | far header extents kind payload =>
      exact .payload header extents kind (readFails.mp ⟨_, payload⟩)
    | past ext read =>
      exact straysOfFindPast ext (fun g m' failed => ih _ (count ▸ ext.shorter) m' failed rfl)
        (read.trans stop.symm)

end Member
end ContainerDriver.Archive
