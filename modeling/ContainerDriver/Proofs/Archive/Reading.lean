import ContainerDriver.Archive.Decode
import ContainerDriver.Proofs.Archive.HeaderBlock
import ContainerDriver.Proofs.Archive.Framing

/-! The reader on headers that are well formed. A plain header gives its member at once; an extended
header whose attributes have nothing to say about size and sparse content leaves the place and the
length of the content behind it alone. The content of a member without extents is the stretch of the
archive where it starts. -/
namespace ContainerDriver.Archive

namespace Attributes

def Quiet (keyword : Bytes) : Prop :=
  keyword ≠ key "size" ∧ ¬ key "GNU.sparse." <+: keyword

theorem quietNe {keyword : Bytes} {s : String} (quiet : Quiet keyword)
    (loud : s = "size" ∨ key "GNU.sparse." <+: key s) : keyword ≠ key s := by
  rintro rfl
  rcases loud with rfl | inside
  · exact quiet.1 rfl
  · exact quiet.2 inside

def AllQuiet (a : Attributes) : Prop := ∀ kv ∈ a, Quiet kv.1

theorem allQuietNil : AllQuiet [] := by simp [AllQuiet]

theorem keysSet {known : Bytes → Prop} {a : Attributes} (all : ∀ kv ∈ a, known kv.1)
    {keyword value : Bytes} (new : known keyword) :
    ∀ kv ∈ Table.set keyword value a, known kv.1 := by
  induction a with
  | nil => simpa [Table.set] using new
  | cons e rest ih =>
    have head : known e.1 := all e List.mem_cons_self
    have tail : ∀ kv ∈ rest, known kv.1 := fun kv mem => all kv (List.mem_cons_of_mem _ mem)
    intro kv mem
    rw [Table.set] at mem
    split at mem
    · rcases List.mem_cons.mp mem with rfl | inside
      · exact new
      · exact tail kv inside
    · rcases List.mem_cons.mp mem with rfl | inside
      · exact head
      · exact ih tail kv inside

theorem keysAdd {known : Bytes → Prop} {a : Attributes} {rs : List Record}
    (all : ∀ kv ∈ a, known kv.1) (new : ∀ r ∈ rs, known r.keyword) :
    ∀ kv ∈ a.add rs, known kv.1 := by
  induction rs generalizing a with
  | nil => exact all
  | cons r rest ih =>
    exact ih (keysSet all (new r List.mem_cons_self))
      (fun x mem => new x (List.mem_cons_of_mem _ mem))

def SparseFree (a : Attributes) : Prop := ∀ kv ∈ a, ¬ key "GNU.sparse." <+: kv.1

theorem AllQuiet.sparseFree {a : Attributes} (quiet : AllQuiet a) : a.SparseFree :=
  fun kv mem => (quiet kv mem).2

theorem getSparse {a : Attributes} {s : String} (free : a.SparseFree)
    (sparse : key "GNU.sparse." <+: key s) : Table.get? (key s) a = none :=
  Table.getAbsent fun kv mem same => free kv mem (same ▸ sparse)

structure SameContent (m n : Member) : Prop where
  size : m.size = n.size
  start : m.start = n.start
  flag : m.flag = n.flag
  extents : m.extents = n.extents

theorem SameContent.trans {a b c : Member} (one : SameContent a b) (two : SameContent b c) :
    SameContent a c :=
  ⟨one.size.trans two.size, one.start.trans two.start, one.flag.trans two.flag,
    one.extents.trans two.extents⟩

theorem applyOneQuiet {keyword : Bytes} (quiet : Quiet keyword) (m : Member) (value : Bytes) :
    ∃ n, applyOne m keyword value = .ok n ∧ SameContent n m := by
  have name : keyword ≠ key "GNU.sparse.name" := quietNe quiet (.inr (by decide))
  have size : keyword ≠ key "GNU.sparse.size" := quietNe quiet (.inr (by decide))
  have real : keyword ≠ key "GNU.sparse.realsize" := quietNe quiet (.inr (by decide))
  have plain : keyword ≠ key "size" := quiet.1
  simp only [applyOne, name, size, real, plain, or_self, if_false]
  split
  · exact ⟨_, rfl, rfl, rfl, rfl, rfl⟩
  · split
    · exact ⟨_, rfl, rfl, rfl, rfl, rfl⟩
    · split
      · exact ⟨_, rfl, rfl, rfl, rfl, rfl⟩
      · exact ⟨_, rfl, rfl, rfl, rfl, rfl⟩

theorem applyQuiet {a : Attributes} (quiet : AllQuiet a) (m : Member) :
    ∃ n, a.apply m = .ok n ∧ SameContent n m := by
  induction a generalizing m with
  | nil => exact ⟨m, rfl, rfl, rfl, rfl, rfl⟩
  | cons e rest ih =>
    obtain ⟨m', one, same⟩ := applyOneQuiet (quiet e List.mem_cons_self) m e.2
    obtain ⟨n, later, alike⟩ := ih (fun kv mem => quiet kv (List.mem_cons_of_mem _ mem)) m'
    refine ⟨n, ?_, alike.trans same⟩
    rw [apply, List.foldlM_cons, one]
    exact later

end Attributes

open Attributes (AllQuiet SameContent)

theorem describeFree {a : Attributes} (free : a.SparseFree) (rs : List Record) (found : Found) :
    Sparse.describe a rs found = .ok found := by
  have map := Attributes.getSparse (s := "GNU.sparse.map") free (by decide)
  have size := Attributes.getSparse (s := "GNU.sparse.size") free (by decide)
  have major := Attributes.getSparse (s := "GNU.sparse.major") free (by decide)
  simp [Sparse.describe, map, size, major, Table.has]

namespace Member

structure Stored (m : Member) (start size : Nat) : Prop where
  regular : m.flag = Flag.regular
  size : m.size = size
  start : m.start = start
  extents : m.extents = none

theorem Stored.ofSame {m n : Member} {start size : Nat} (stored : n.Stored start size)
    (same : SameContent m n) : m.Stored start size :=
  ⟨same.flag.trans stored.regular, same.size.trans stored.size, same.start.trans stored.start,
    same.extents.trans stored.extents⟩

end Member

namespace Tape

theorem skipAppend {position : Nat} {a b : Bytes} {n : Nat} (count : a.length = n) :
    (Tape.mk position (a ++ b)).skip n = ⟨position + n, b⟩ := by
  subst count
  simp [skip]

theorem inReachRange (n : Int) : inReach n = true ↔ -2 ^ 63 ≤ n ∧ n < 2 ^ 63 := by
  simp only [inReach, Bool.and_eq_true, decide_eq_true_eq]
  exact Iff.rfl

theorem inReachNat {n : Nat} (bound : n < 2 ^ 63) : inReach n = true :=
  (inReachRange n).mpr (by omega)

theorem readAppend {position : Nat} {a b : Bytes} {n : Nat} (count : a.length = n)
    (bound : n < 2 ^ 63) :
    (Tape.mk position (a ++ b)).read n = .ok (a, ⟨position + n, b⟩) := by
  have taken : (a ++ b).take n = a := by rw [← count, List.take_left]
  rw [read, inReachNat bound, if_neg (by simp), if_neg (by omega)]
  simp only [Int.toNat_natCast, taken, skipAppend count]

end Tape

namespace Member

theorem findFlawed {globals : Attributes} {t : Tape} {f : HeaderFlaw}
    (header : Fields.ofBlock (t.rest.take blockSize) = .error f) :
    find globals t = .error (.flawed f) := by
  rw [find]
  split
  · next e read => cases header.symm.trans read; rfl
  · next e read => cases header.symm.trans read

theorem findSparse {globals : Attributes} {t : Tape} {f : Fields} {lead : SparseLead}
    (header : Fields.ofBlock (t.rest.take blockSize) = .ok f) (extents : f.sparse = some lead) :
    find globals t = sparse globals f lead (t.skip blockSize) := by
  rw [find]
  split
  · next e read => cases header.symm.trans read
  · next e read =>
    cases header.symm.trans read
    simp only [extents]

theorem findPlain {globals : Attributes} {t : Tape} {f : Fields}
    (header : Fields.ofBlock (t.rest.take blockSize) = .ok f) (extents : f.sparse = none)
    (kind : Kind.ofFlag f.flag = .plain) :
    find globals t = plain globals f (t.skip blockSize) := by
  rw [find]
  split
  · next e read => cases header.symm.trans read
  · next e read =>
    cases header.symm.trans read
    simp only [extents, kind]

def findPast (globals : Attributes) (kind : Kind) (buffer : Bytes) (t : Tape) :
    Except Stop Found :=
  if kind = .longName ∨ kind = .longLink then
    match find globals t with
    | .error s => .error s.outer
    | .ok found => .ok { found with member := rename kind buffer found.member }
  else
    match Record.parse? buffer with
    | none => .error (.flawed .invalid)
    | some rs =>
      let all := Attributes.add globals rs
      match find (if kind = .globals then all else globals) t with
      | .error s => .error s.outer
      | .ok found =>
        match Sparse.describe (if kind = .globals then found.resume.globals else all) rs found with
        | .error s => .error s
        | .ok found => if kind = .globals then .ok found else describe all found

theorem findExtended {globals : Attributes} {t : Tape} {f : Fields}
    (header : Fields.ofBlock (t.rest.take blockSize) = .ok f) (extents : f.sparse = none)
    (kind : Kind.ofFlag f.flag ≠ .plain) :
    find globals t = match (t.skip blockSize).read (wholeBlocks f.size) with
      | .error m => .error (.mishap m)
      | .ok (buffer, t') => findPast globals (Kind.ofFlag f.flag) buffer t' := by
  rw [find]
  split
  · next e read => cases header.symm.trans read
  · next e read =>
    cases header.symm.trans read
    simp only [extents]
    cases same : Kind.ofFlag f.flag with
    | plain => exact absurd same kind
    | _ =>
      split
      · next payload => rw [payload]
      · next payload =>
        rw [payload]
        rfl

inductive Past (globals : Attributes) (kind : Kind) (buffer : Bytes) (t : Tape) :
    Except Stop Found → Prop where
  | unnamed {s} (named : kind = .longName ∨ kind = .longLink) (behind : find globals t = .error s) :
      Past globals kind buffer t (.error s.outer)
  | renamed {found} (named : kind = .longName ∨ kind = .longLink)
      (behind : find globals t = .ok found) :
      Past globals kind buffer t (.ok { found with member := rename kind buffer found.member })
  | garbled (other : ¬(kind = .longName ∨ kind = .longLink)) (bad : Record.parse? buffer = none) :
      Past globals kind buffer t (.error (.flawed .invalid))
  | unfound {rs s} (other : ¬(kind = .longName ∨ kind = .longLink))
      (records : Record.parse? buffer = some rs)
      (behind : find (if kind = .globals then globals.add rs else globals) t = .error s) :
      Past globals kind buffer t (.error s.outer)
  | undescribed {rs found s} (other : ¬(kind = .longName ∨ kind = .longLink))
      (records : Record.parse? buffer = some rs)
      (behind : find (if kind = .globals then globals.add rs else globals) t = .ok found)
      (described : Sparse.describe
        (if kind = .globals then found.resume.globals else globals.add rs) rs found = .error s) :
      Past globals kind buffer t (.error s)
  | shared {rs found found'} (globals' : kind = .globals) (records : Record.parse? buffer = some rs)
      (behind : find (globals.add rs) t = .ok found)
      (described : Sparse.describe found.resume.globals rs found = .ok found') :
      Past globals kind buffer t (.ok found')
  | own {rs found found' r} (other : ¬(kind = .longName ∨ kind = .longLink))
      (own' : kind ≠ .globals) (records : Record.parse? buffer = some rs)
      (behind : find globals t = .ok found)
      (described : Sparse.describe (globals.add rs) rs found = .ok found')
      (applied : describe (globals.add rs) found' = r) : Past globals kind buffer t r

theorem findPastTrace {globals : Attributes} {kind : Kind} {buffer : Bytes} {t : Tape}
    {r : Except Stop Found} (read : findPast globals kind buffer t = r) :
    Past globals kind buffer t r := by
  subst read
  by_cases named : kind = .longName ∨ kind = .longLink
  · rw [findPast, if_pos named]
    split
    · next behind => exact .unnamed named behind
    · next behind => exact .renamed named behind
  · rw [findPast, if_neg named]
    split
    · next bad => exact .garbled named bad
    · next records =>
      dsimp only
      split
      · next behind => exact .unfound named records behind
      · next behind =>
        split
        · next described => exact .undescribed named records behind described
        · next described =>
          by_cases shared : kind = .globals
          · rw [if_pos shared] at behind described ⊢
            exact .shared shared records behind described
          · rw [if_neg shared] at behind described ⊢
            exact .own named shared records behind described rfl

def Finds (t : Tape) (start size : Nat) : Prop :=
  ∀ globals : Attributes, globals.AllQuiet → ∃ found, find globals t = .ok found ∧
    found.member.Stored start size ∧ found.resume.globals.AllQuiet

theorem findsStored {block : Bytes} {f : Fields} {size : Nat} (read : Fields.ofBlock block = .ok f)
    (regular : f.flag = Flag.regular) (plain : f.sparse = none) (count : f.size = size)
    (position : Nat) (rest : Bytes) :
    Finds ⟨position, block ++ rest⟩ (position + blockSize) size := by
  intro globals quiet
  have full := Fields.ofBlockLength read
  let t : Tape := ⟨position, block ++ rest⟩
  have fields : Fields.ofBlock (t.rest.take blockSize) = .ok f := by
    change Fields.ofBlock ((block ++ rest).take blockSize) = .ok f
    rw [← full, List.take_left, read]
  have kind : Kind.ofFlag f.flag = .plain := by
    rw [regular]
    rfl
  obtain ⟨m, applied, same⟩ := Attributes.applyQuiet quiet (ofFields f (position + blockSize))
  have flag : m.flag = Flag.regular := same.flag.trans regular
  have kept : m.trimDirectory = m := by
    have notDirectory : Flag.regular ≠ Flag.directory := by decide
    simp [trimDirectory, isDirectory, flag, notDirectory]
  have found := @findPlain globals t _ fields plain kind
  rw [found, Member.plain, Tape.skipAppend full]
  simp only [applied, kept]
  exact ⟨_, rfl, ⟨flag, same.size.trans count, same.start, same.extents⟩, quiet⟩

theorem findsFile {h : Header} (fits : h.Fits) (regular : h.flag = Flag.regular) (position : Nat)
    (rest : Bytes) : Finds ⟨position, h.block ++ rest⟩ (position + blockSize) h.size :=
  findsStored (Header.ofBlockBlock fits (by rw [Header.Plain, regular]; decide)) regular rfl rfl
    position rest

theorem renameSame (kind : Kind) (payload : Bytes) (m : Member) :
    SameContent (rename kind payload m) m := by
  unfold rename
  dsimp only
  split <;> split <;> exact ⟨rfl, rfl, rfl, rfl⟩

theorem findsPast {kind : Kind} {buffer : Bytes} {t : Tape} {start size : Nat}
    (behind : Finds t start size)
    (speaks : kind = .longName ∨ kind = .longLink ∨
      ∃ rs, Record.parse? buffer = some rs ∧ ∀ r ∈ rs, Attributes.Quiet r.keyword)
    {globals : Attributes} (quiet : globals.AllQuiet) :
    ∃ found, findPast globals kind buffer t = .ok found ∧ found.member.Stored start size ∧
      found.resume.globals.AllQuiet := by
  by_cases name : kind = .longName ∨ kind = .longLink
  · obtain ⟨found, read, stored, shared⟩ := behind globals quiet
    simp only [findPast, if_pos name, read]
    exact ⟨_, rfl, stored.ofSame (renameSame kind buffer found.member), shared⟩
  · obtain ⟨rs, parsed, still⟩ : ∃ rs, Record.parse? buffer = some rs ∧
        ∀ r ∈ rs, Attributes.Quiet r.keyword := by
      rcases speaks with same | same | records
      · exact absurd (.inl same) name
      · exact absurd (.inr same) name
      · exact records
    have all : (globals.add rs).AllQuiet := Attributes.keysAdd quiet still
    simp only [findPast, if_neg name, parsed]
    by_cases shared : kind = .globals
    · obtain ⟨found, read, stored, left⟩ := behind (globals.add rs) all
      simp only [if_pos shared, read, describeFree left.sparseFree]
      exact ⟨_, rfl, stored, left⟩
    · obtain ⟨found, read, stored, left⟩ := behind globals quiet
      obtain ⟨m, applied, same⟩ := Attributes.applyQuiet all found.member
      simp only [if_neg shared, read, describeFree all.sparseFree, describe, applied]
      exact ⟨_, rfl, stored.ofSame same, left⟩

end Member

theorem wholeBlocksNat (n : Nat) : wholeBlocks n = Bytes.roundUp n blockSize := by
  simp only [wholeBlocks, Bytes.roundUp, blockSize]
  omega

theorem roundUpAtLeast (n : Nat) : n ≤ Bytes.roundUp n blockSize := by
  simp only [Bytes.roundUp, blockSize]
  omega

theorem roundUpBelow (n : Nat) : Bytes.roundUp n blockSize < n + blockSize := by
  simp only [Bytes.roundUp, blockSize]
  omega

theorem padToLength (b : Bytes) :
    (Bytes.padTo blockSize b).length = Bytes.roundUp b.length blockSize := by
  have enough := roundUpAtLeast b.length
  simp only [Bytes.padTo, Bytes.zeros, List.length_append, List.length_replicate]
  omega

theorem Member.findsBehind {block payload rest : Bytes} {f : Fields}
    (read : Fields.ofBlock block = .ok f) (extents : f.sparse = none)
    (kind : Kind.ofFlag f.flag ≠ .plain) (size : f.size = payload.length)
    (few : Bytes.roundUp payload.length blockSize < 2 ^ 63) {position start count : Nat}
    (behind : Finds ⟨position + blockSize + Bytes.roundUp payload.length blockSize, rest⟩ start
      count)
    (speaks : Kind.ofFlag f.flag = .longName ∨ Kind.ofFlag f.flag = .longLink ∨
      ∃ rs, Record.parse? (Bytes.padTo blockSize payload) = some rs ∧
        ∀ r ∈ rs, Attributes.Quiet r.keyword) :
    Finds ⟨position, block ++ (Bytes.padTo blockSize payload ++ rest)⟩ start count := by
  intro globals quiet
  have full := Fields.ofBlockLength read
  let t : Tape := ⟨position, block ++ (Bytes.padTo blockSize payload ++ rest)⟩
  have fields : Fields.ofBlock (t.rest.take blockSize) = .ok f := by
    change Fields.ofBlock ((block ++ _).take blockSize) = .ok f
    rw [← full, List.take_left, read]
  have blocks : wholeBlocks f.size = (Bytes.roundUp payload.length blockSize : Nat) := by
    rw [size, wholeBlocksNat]
  have found := @findExtended globals t _ fields extents kind
  rw [found, Tape.skipAppend full, blocks, Tape.readAppend (padToLength payload) few]
  exact findsPast behind speaks quiet

theorem Member.findsExtended {h : Header} (fits : h.Fits) (plain : h.Plain) {payload rest : Bytes}
    (size : h.size = payload.length) {position start count : Nat}
    (behind : Finds ⟨position + blockSize + Bytes.roundUp payload.length blockSize, rest⟩ start
      count)
    (speaks : Kind.ofFlag h.flag = .longName ∨ Kind.ofFlag h.flag = .longLink ∨
      Kind.ofFlag h.flag ≠ .plain ∧ ∃ rs, Record.parse? (Bytes.padTo blockSize payload) = some rs ∧
        ∀ r ∈ rs, Attributes.Quiet r.keyword) :
    Finds ⟨position, h.block ++ (Bytes.padTo blockSize payload ++ rest)⟩ start count := by
  have kind : Kind.ofFlag h.flag ≠ .plain := by
    rcases speaks with same | same | other
    · simp [same]
    · simp [same]
    · exact other.1
  have few : Bytes.roundUp payload.length blockSize < 2 ^ 63 := by
    have := roundUpBelow payload.length
    have := fits.size
    simp only [blockSize] at *
    omega
  refine findsBehind (Header.ofBlockBlock fits plain) rfl kind (congrArg _ size) few behind ?_
  exact speaks.imp id (.imp id And.right)

namespace Sparse

theorem readStretchStored {data : Bytes} {first behind : Int} {start size : Nat}
    (bound : start + size < 2 ^ 63) :
    readStretch data ⟨first, behind, some start⟩ first size =
      if size ≤ data.length - start then .ok ((data.drop start).take size)
      else .error (.flaw .unexpectedEnd) := by
  have here : Tape.inReach ((start : Int) + (first - first)) = true :=
    (Tape.inReachRange _).mpr (by omega)
  have long : Tape.inReach (size : Int) = true := Tape.inReachNat (by omega)
  have forward : ¬ (start : Int) + (first - first) < 0 := by omega
  have place : ((start : Int) + (first - first)).toNat = start := by omega
  simp only [readStretch, here, long, forward, place, Bool.not_true, Bool.false_eq_true, if_false,
    List.length_take, List.length_drop]
  by_cases enough : size ≤ data.length - start
  · rw [if_pos enough, if_pos (by omega)]
  · rw [if_neg enough, if_neg (by omega)]

end Sparse

theorem Member.contentWhole {data : Bytes} {m : Member} {size : Nat} (extents : m.extents = none)
    (count : m.size = size) (some' : size ≠ 0) :
    m.content data = Sparse.readStretch data ⟨0, size, some m.start⟩ 0 size := by
  have one : Sparse.stretches size m.start 0 [⟨0, size⟩] = [⟨0, size, some m.start⟩] := by
    simp [Sparse.stretches]
  have ring : Sparse.turn 0 [⟨0, size, some (m.start : Int)⟩]
      = some (⟨0, size, some (m.start : Int)⟩, [⟨0, size, some (m.start : Int)⟩]) := by
    have positive : 0 < size := by omega
    simp [Sparse.turn, List.dropWhile, List.takeWhile, positive]
  rw [content, extents, count]
  simp only [Option.getD_none, one, Int.toNat_natCast]
  rw [Sparse.readStretches, if_neg some']
  split
  · next lost => cases ring.symm.trans lost
  · next s ring' found =>
    cases ring.symm.trans found
    have whole : min size ((size : Int) - 0).toNat = size := by omega
    simp only [whole, Nat.sub_self]
    cases Sparse.readStretch data ⟨0, size, some m.start⟩ 0 size with
    | error f => rfl
    | ok bytes =>
      rw [Sparse.readStretches, if_pos rfl]
      simp

theorem Member.contentStored {data : Bytes} {m : Member} {start size : Nat}
    (stored : m.Stored start size) (bound : start + size < 2 ^ 63) :
    m.content data =
      if size ≤ data.length - start then .ok ((data.drop start).take size)
      else .error (.flaw .unexpectedEnd) := by
  by_cases none' : size = 0
  · rw [content, stored.size, none', Sparse.readStretches, if_pos (by decide), if_pos (by omega),
      List.take_zero]
  · rw [contentWhole stored.extents stored.size none', stored.start, Sparse.readStretchStored bound]

end ContainerDriver.Archive
