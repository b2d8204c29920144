import ContainerDriver.Proofs.Archive.Truncation
import ContainerDriver.Proofs.Except

/-! Where the parts of an archive stand. An entry that its header block can hold has one block in
front of its content, any other has an extended header in front of that block; behind the content
there are zero bytes up to a whole number of archive units. -/
namespace ContainerDriver

namespace Bytes

theorem roundUpLeast (n : Nat) {unit : Nat} (some' : 0 < unit) :
    IsLeast {m | unit ∣ m ∧ n ≤ m} (roundUp n unit) := by
  have parts := Nat.div_add_mod (n + unit - 1) unit
  have below := Nat.mod_lt (n + unit - 1) some'
  rw [Nat.mul_comm, ← roundUp] at parts
  refine ⟨⟨Nat.dvd_mul_left unit _, by omega⟩, ?_⟩
  rintro m ⟨⟨k, rfl⟩, enough⟩
  rw [roundUp, Nat.mul_comm unit k]
  refine Nat.mul_le_mul_right unit (Nat.le_of_lt_succ ((Nat.div_lt_iff_lt_mul some').mpr ?_))
  rw [Nat.succ_mul, Nat.mul_comm k unit]
  omega

theorem padToParts (b : Bytes) (unit : Nat) (some' : 0 < unit) :
    ∃ fill, padTo unit b = b ++ zeros fill ∧
      IsLeast {m | unit ∣ m ∧ b.length ≤ m} (b.length + fill) := by
  have least := roundUpLeast b.length some'
  refine ⟨roundUp b.length unit - b.length, rfl, ?_⟩
  rwa [Nat.add_sub_of_le least.1.2]

theorem zerosLength (n : Nat) : (zeros n).length = n := List.length_replicate

theorem zerosAppend (n m : Nat) : zeros n ++ zeros m = zeros (n + m) :=
  List.replicate_append_replicate

end Bytes

namespace Archive

structure Sealed (flag : UInt8) (size : Nat) (block : Bytes) : Prop where
  length : block.length = 512
  flag : block[156]? = some flag
  size : Fields.numberAt block 124 12 = .ok (size : Int)
  sum : Fields.numberAt block 148 8 =
    .ok (Field.sum (block.take 148 ++ List.replicate 8 0x20 ++ block.drop 156) : Nat)

def Counted (r : Bytes) : Prop := ∃ keyword value : Bytes, keyword ≠ [] ∧ 0x3D ∉ keyword ∧
  r = decimal r.length ++ 0x20 :: keyword ++ 0x3D :: value ++ [0x0A]

def Extends (ext : Bytes) : Prop := ∃ (block : Bytes) (records : List Bytes) (fill : Nat),
  ext = block ++ records.flatten ++ Bytes.zeros fill ∧
  Sealed Flag.attributes records.flatten.length block ∧
  records ≠ [] ∧ (∀ r ∈ records, Counted r) ∧
  IsLeast {n | 512 ∣ n ∧ records.flatten.length ≤ n} (records.flatten.length + fill)

def Entry.Exceeds (e : Entry) (now : Int) : Prop :=
  (∃ l ∈ e.name, 0x80 ≤ l.code) ∨ 100 < e.name.length ∨ ¬ (0 ≤ e.uid ∧ e.uid < 8 ^ 7) ∨
    ¬ (0 ≤ e.gid ∧ e.gid < 8 ^ 7) ∨ ¬ (0 ≤ now ∧ now < 8 ^ 11)

theorem Field.sumAppend (a b : Bytes) : Field.sum (a ++ b) = Field.sum a + Field.sum b := by
  induction a with
  | nil => simp [Field.sum]
  | cons x a ih => rw [List.cons_append, sumCons, sumCons, ih, Nat.add_assoc]

theorem Header.sealed {h : Header} (size : h.size ≤ maxEntrySize) :
    Sealed h.flag h.size h.block where
  length := h.blockLength
  flag := by
    have first := congrArg List.head? h.dropSum
    rwa [List.head?_drop] at first
  size := by
    have large : 8 ^ (12 - 1) = maxEntrySize + 1 := by decide
    exact numberRead h.sizeField (by decide) (by omega)
  sum := by
    have blanked : Field.sum (h.block.take 148 ++ List.replicate 8 0x20 ++ h.block.drop 156) =
        h.checksum := by
      rw [Field.sumAppend, Field.sumAppend, takeFront, dropSum, checksum]
      rfl
    rw [blanked, sumRead]

theorem Record.counted {r : Record} (sound : r.Sound) : Counted r.bytes :=
  ⟨r.keyword, r.value, sound.keyword, sound.plain, by rw [bytesLength]; rfl⟩

theorem extensionExtends {rs : List Record} (some' : rs ≠ []) (sound : ∀ r ∈ rs, r.Sound)
    (bound : (rs.flatMap Record.bytes).length ≤ maxEntrySize) : Extends (extension rs) := by
  obtain ⟨fill, padded, least⟩ :=
    Bytes.padToParts (rs.flatMap Record.bytes) blockSize (by decide)
  refine ⟨_, rs.map Record.bytes, fill, ?_,
    Header.sealed (h := extendedHeader (rs.flatMap Record.bytes)) bound, ?_, ?_, least⟩
  · rw [extension, if_neg (by simpa using some'), padded, List.append_assoc]
    rfl
  · simpa using some'
  · exact List.forall_mem_map.mpr fun r mem => r.counted (sound r mem)

namespace Entry

theorem needsPathIff {name : Text} : needsPath name = true ↔
    (∃ l ∈ name, 0x80 ≤ l.code) ∨ 100 < name.length := by
  simp [needsPath, isAscii]

theorem nameRecordsSome {name : Text} : charsetRecord name ++ pathRecord name ≠ [] ↔
    (∃ l ∈ name, 0x80 ≤ l.code) ∨ 100 < name.length := by
  rw [← needsPathIff]
  constructor
  · intro some'
    by_contra plain
    obtain ⟨charset, path⟩ := plainRecords (Bool.not_eq_true _ ▸ plain)
    exact some' (by rw [charset, path]; rfl)
  · intro needed
    rw [pathRecord, if_pos needed]
    exact List.append_ne_nil_of_right_ne_nil _ (List.cons_ne_nil _ _)

theorem fitsIff {width : Nat} {n : Int} :
    Field.fits width n = true ↔ 0 ≤ n ∧ n < 8 ^ (width - 1) := by
  simp [Field.fits]

theorem numberRecordSome (keyword : String) (width : Nat) {n : Int} :
    numberRecord keyword width n ≠ [] ↔ ¬ (0 ≤ n ∧ n < 8 ^ (width - 1)) := by
  rw [← fitsIff, numberRecord]
  split <;> simp_all

theorem recordsSome {e : Entry} {now : Int} : e.records now ≠ [] ↔ e.Exceeds now := by
  rw [Exceeds, ← or_assoc, ← nameRecordsSome, ← numberRecordSome "uid" 8,
    ← numberRecordSome "gid" 8, ← numberRecordSome "mtime" 12, records]
  simp only [ne_eq, List.append_eq_nil_iff, not_and_or, or_assoc]

end Entry

theorem encodePadded {e : Entry} {content archive : Bytes} {now : Int}
    (written : encode e content now = .ok archive) : archive = Bytes.padTo archiveUnit
      (e.lead now ++ Bytes.padTo blockSize content ++ Bytes.zeros (2 * blockSize)) := by
  unfold encode at written
  obtain ⟨-, -, written⟩ := Except.bindOk.mp written
  generalize (writable e.uid && writable e.gid && writable now) = digits at written
  cases digits with
  | false => cases written
  | true =>
    dsimp only at written
    rw [if_neg (by decide)] at written
    cases refused : Text.unescapable? e.name with
    | some u =>
      rw [refused] at written
      cases written
    | none =>
      rw [refused] at written
      dsimp only at written
      split at written
      · cases written
      · exact (Except.ok.inj written).symm

/-- An archive is an extended header, if the entry needs one, the block of the entry, its content
and zero bytes. Behind the blocks of the content there are two more at least, and as many as make
whole units. -/
theorem encodedLayout {e : Entry} {content archive : Bytes} {now : Int}
    (written : encode e content now = .ok archive) :
    ∃ (ext header : Bytes) (fill padded : Nat),
      archive = ext ++ header ++ content ++ Bytes.zeros fill ∧
      (e.Exceeds now → Extends ext) ∧ (¬ e.Exceeds now → ext = []) ∧
      Sealed Flag.regular content.length header ∧
      IsLeast {n | 512 ∣ n ∧ content.length ≤ n} padded ∧
      IsLeast {n | 10240 ∣ n ∧ ext.length + header.length + padded + 1024 ≤ n} archive.length := by
  obtain ⟨size, small, bound, -⟩ := encodeWritten written
  obtain ⟨fill, blocks, padded⟩ := Bytes.padToParts content blockSize (by decide)
  obtain ⟨rest, units, whole⟩ := Bytes.padToParts
    (e.lead now ++ Bytes.padTo blockSize content ++ Bytes.zeros (2 * blockSize))
    archiveUnit (by decide)
  have layout := (encodePadded written).trans units
  have declared : (e.header now).size = content.length := by
    simp only [Entry.header]
    omega
  have block := Header.sealed (h := e.header now) (by rw [declared]; omega)
  rw [declared] at block
  refine ⟨extension (e.records now), (e.header now).block, fill + 2 * blockSize + rest,
    content.length + fill, ?_, ?_, ?_, block, padded, ?_⟩
  · rw [layout, blocks, Entry.lead]
    simp only [List.append_assoc, Bytes.zerosAppend, Nat.add_assoc]
  · exact fun exceeds => extensionExtends (Entry.recordsSome.mpr exceeds)
      (fun r mem => Entry.recordSound mem) bound
  · intro fits
    have none' : e.records now = [] := not_not.mp (mt Entry.recordsSome.mp fits)
    rw [none']
    rfl
  · have used : (e.lead now ++ Bytes.padTo blockSize content ++
        Bytes.zeros (2 * blockSize)).length = (extension (e.records now)).length +
          (e.header now).block.length + (content.length + fill) + 1024 := by
      rw [blocks, Entry.lead]
      simp only [List.length_append, Bytes.zerosLength, blockSize]
    rw [used] at whole
    have count := congrArg List.length layout
    rw [List.length_append, used, Bytes.zerosLength] at count
    rw [count]
    exact whole

theorem encodedLayoutUndecoded : ∃ archive,
    encode undecoded [1, 0, 255] 12345678901234 = .ok archive ∧
    undecoded.Exceeds 12345678901234 ∧
    ∃ (ext header : Bytes) (fill : Nat),
      archive = ext ++ header ++ [1, 0, 255] ++ Bytes.zeros fill ∧ Extends ext ∧
      Sealed Flag.regular 3 header ∧ 10240 ∣ archive.length := by
  obtain ⟨_, written⟩ := undecodedLayout
  have exceeds : undecoded.Exceeds 12345678901234 :=
    .inl ⟨.surrogate 0x4E9, by decide, by decide⟩
  obtain ⟨ext, header, fill, padded, parts, extends', -, block, -, whole⟩ := encodedLayout written
  exact ⟨_, written, exceeds, ext, header, fill, parts, extends' exceeds, block, whole.1.1⟩

end Archive
end ContainerDriver
