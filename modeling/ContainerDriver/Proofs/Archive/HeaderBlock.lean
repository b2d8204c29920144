import ContainerDriver.Archive.Fields
import ContainerDriver.Proofs.Archive.Number

/-! Header blocks read back. A block that is written from numbers that fit their fields carries its
own sum, and its fields come out as they went in. -/
namespace ContainerDriver.Archive

structure Header.Fits (h : Header) : Prop where
  mode : h.mode < 8 ^ 7
  uid : h.uid < 8 ^ 7
  gid : h.gid < 8 ^ 7
  size : h.size < 8 ^ 11
  mtime : h.mtime < 8 ^ 11

theorem Field.textLength (width : Nat) (b : Bytes) : (Field.text width b).length = width := by
  simp [Field.text, Bytes.zeros]
  omega

theorem Field.numberLength {width : Nat} (n : Nat) (wide : 1 ≤ width) :
    (Field.number width n).length = width := by
  simp [Field.number, Field.octalLength]
  omega

theorem Field.sumCons (x : UInt8) (b : Bytes) : Field.sum (x :: b) = x.toNat + Field.sum b := by
  rfl

theorem Field.sumBound (b : Bytes) : Field.sum b ≤ 255 * b.length := by
  induction b with
  | nil => simp [Field.sum]
  | cons x rest ih =>
    have small : x.toNat ≤ 255 := Nat.le_of_lt_succ x.toNat_lt
    rw [sumCons, List.length_cons]
    omega

theorem sliceAt {block a b c : Bytes} {offset width : Nat} (split : block = a ++ (b ++ c))
    (front : a.length = offset) (field : b.length = width) : slice offset width block = b := by
  subst split front field
  simp [slice]

namespace Fields
variable {block : Bytes}

def believed (block : Bytes) : Except HeaderFlaw Fields := do
  let mode ← numberAt block 100 8
  let uid ← numberAt block 108 8
  let gid ← numberAt block 116 8
  let size ← numberAt block 124 12
  let _ ← numberAt block 136 12
  let _ ← numberAt block 329 8
  let _ ← numberAt block 337 8
  let name := textAt block 0 100
  let flag := effectiveFlag ((block.drop 156).headD 0) name
  let sparse ← if flag = Flag.sparse then some <$> sparseLead block else pure none
  return ⟨fullName flag (textAt block 345 155) name, mode, uid, gid, size, flag, sparse⟩

theorem ofFullBlockBelieved (block : Bytes) : ofFullBlock block =
    match numberAt block 148 8 with
    | .error flaw => .error flaw
    | .ok sum =>
      if sum ≠ unsignedSum block ∧ sum ≠ signedSum block then .error .checksum
      else believed block := by
  unfold ofFullBlock
  cases numberAt block 148 8 with
  | error flaw => rfl
  | ok sum =>
    by_cases bad : sum ≠ unsignedSum block ∧ sum ≠ signedSum block
    · simp only [bind, Except.bind, if_pos bad]
      rfl
    · simp only [bind, Except.bind, if_neg bad]
      rfl

theorem ofBlockFull (full : block.length = blockSize) :
    (∃ flaw, ofBlock block = .error flaw) ∨ ofBlock block = ofFullBlock block := by
  have some' : block ≠ [] := by
    rintro rfl
    simp [blockSize] at full
  rw [ofBlock, if_neg some', if_neg (by simp [full])]
  split
  · exact .inl ⟨_, rfl⟩
  · exact .inr rfl

theorem ofFullBlockOf {f : Fields} (read : ofBlock block = .ok f) : ofFullBlock block = .ok f := by
  obtain ⟨flaw, bad⟩ | same := ofBlockFull (ofBlockLength read)
  · cases read.symm.trans bad
  · exact same.symm.trans read

theorem bindOk {α β : Type} {x : Except HeaderFlaw α} {next : α → Except HeaderFlaw β} {b : β}
    (done : x >>= next = .ok b) : ∃ a, x = .ok a ∧ next a = .ok b := by
  cases x with
  | error flaw => cases done
  | ok a => exact ⟨a, rfl, done⟩

theorem believedFlag {f : Fields} (read : believed block = .ok f) :
    f.flag = effectiveFlag ((block.drop 156).headD 0) (textAt block 0 100) ∧
      (f.flag ≠ Flag.sparse → f.sparse = none) := by
  unfold believed at read
  obtain ⟨mode, -, read⟩ := bindOk read
  obtain ⟨uid, -, read⟩ := bindOk read
  obtain ⟨gid, -, read⟩ := bindOk read
  obtain ⟨size, -, read⟩ := bindOk read
  obtain ⟨mtime, -, read⟩ := bindOk read
  obtain ⟨major, -, read⟩ := bindOk read
  obtain ⟨minor, -, read⟩ := bindOk read
  dsimp only at read
  split at read
  · next sparse =>
    obtain ⟨lead, -, read⟩ := bindOk read
    cases read
    exact ⟨rfl, fun plain => absurd sparse plain⟩
  · cases read
    exact ⟨rfl, fun _ => rfl⟩

theorem ofBlockSource {f : Fields} (read : ofBlock block = .ok f) :
    (∃ n : Int, numberAt block 148 8 = .ok n ∧ (n = unsignedSum block ∨ n = signedSum block)) ∧
      f.flag = effectiveFlag ((block.drop 156).headD 0) (textAt block 0 100) ∧
      (f.flag ≠ Flag.sparse → f.sparse = none) := by
  have whole := ofFullBlockOf read
  rw [ofFullBlockBelieved] at whole
  split at whole
  · cases whole
  · next n stored =>
    split at whole
    · cases whole
    · next sums =>
      exact ⟨⟨n, stored, by omega⟩, believedFlag whole⟩

end Fields

namespace Header
variable (h : Header)

theorem frontLength : h.front.length = 148 := by
  simp [front, Field.textLength, Field.numberLength]

theorem backLength : h.back.length = 356 := by
  simp only [back, Bytes.zeros, List.length_append, List.length_cons, List.length_replicate]
  rfl

theorem blockLength : h.block.length = blockSize := by
  simp [block, frontLength, backLength, Field.octalLength, blockSize]

theorem takeFront : h.block.take 148 = h.front := by
  rw [block, List.append_assoc, ← h.frontLength, List.take_left]

theorem dropSum : h.block.drop 156 = h.back := by
  have count : (h.front ++ (Field.octal 6 h.checksum ++ [0, 0x20])).length = 156 := by
    simp [frontLength, Field.octalLength]
  rw [block, ← count, List.drop_left]

theorem checksumBound : h.checksum < 8 ^ 6 := by
  have front := Field.sumBound h.front
  have back := Field.sumBound h.back
  rw [frontLength] at front
  rw [backLength] at back
  simp only [checksum]
  omega

theorem unsignedSumBlock : Fields.unsignedSum h.block = h.checksum := by
  rw [Fields.unsignedSum, takeFront, dropSum, checksum]

theorem nameField : slice 0 100 h.block = Field.text 100 h.name :=
  sliceAt (a := []) (by simp only [block, front, List.append_assoc, List.nil_append]; rfl) rfl
    (Field.textLength _ _)

theorem modeField : slice 100 8 h.block = Field.number 8 h.mode :=
  sliceAt (a := Field.text 100 h.name) (by simp only [block, front, List.append_assoc]; rfl)
    (Field.textLength _ _) (Field.numberLength _ (by decide))

theorem uidField : slice 108 8 h.block = Field.number 8 h.uid :=
  sliceAt (a := Field.text 100 h.name ++ Field.number 8 h.mode)
    (by simp only [block, front, List.append_assoc]; rfl)
    (by simp [Field.textLength, Field.numberLength]) (Field.numberLength _ (by decide))

theorem gidField : slice 116 8 h.block = Field.number 8 h.gid :=
  sliceAt (a := Field.text 100 h.name ++ Field.number 8 h.mode ++ Field.number 8 h.uid)
    (by simp only [block, front, List.append_assoc]; rfl)
    (by simp [Field.textLength, Field.numberLength]) (Field.numberLength _ (by decide))

theorem sizeField : slice 124 12 h.block = Field.number 12 h.size :=
  sliceAt (a := Field.text 100 h.name ++ Field.number 8 h.mode ++ Field.number 8 h.uid
      ++ Field.number 8 h.gid)
    (by simp only [block, front, List.append_assoc]; rfl)
    (by simp [Field.textLength, Field.numberLength]) (Field.numberLength _ (by decide))

theorem mtimeField : slice 136 12 h.block = Field.number 12 h.mtime :=
  sliceAt (a := Field.text 100 h.name ++ Field.number 8 h.mode ++ Field.number 8 h.uid
      ++ Field.number 8 h.gid ++ Field.number 12 h.size)
    (by simp only [block, front, List.append_assoc]; rfl)
    (by simp [Field.textLength, Field.numberLength]) (Field.numberLength _ (by decide))

theorem sumField : slice 148 8 h.block = Field.octal 6 h.checksum ++ [0, 0x20] :=
  sliceAt (a := h.front) (by simp only [block, List.append_assoc]; rfl) h.frontLength
    (by simp [Field.octalLength])

theorem backField {offset width : Nat} (behind : 156 ≤ offset) :
    slice offset width h.block = slice (offset - 156) width h.back := by
  obtain ⟨k, rfl⟩ := Nat.exists_eq_add_of_le behind
  rw [slice, ← List.drop_drop, dropSum, slice]
  simp

def Plain : Prop := h.flag ≠ Flag.oldRegular ∧ h.flag ≠ Flag.sparse ∧ h.flag ≠ Flag.directory

def fields : Fields :=
  ⟨Bytes.untilZero (Field.text 100 h.name), h.mode, h.uid, h.gid, h.size, h.flag, none⟩

variable {h}

theorem numberRead {offset width n : Nat}
    (field : slice offset width h.block = Field.number width n) (wide : 2 ≤ width)
    (fits : n < 8 ^ (width - 1)) :
    Fields.numberAt h.block offset width = .ok (n : Int) := by
  simp [Fields.numberAt, field, Field.readNumber wide fits]

theorem sumRead : Fields.numberAt h.block 148 8 = .ok (h.checksum : Int) := by
  have read := Field.readOctalDigits 5 h.checksum [0x20]
  rw [Nat.mod_eq_of_lt h.checksumBound] at read
  rw [Fields.numberAt, sumField, read]

theorem deviceRead {offset : Nat} (at' : offset = 329 ∨ offset = 337) :
    Fields.numberAt h.block offset 8 = .ok 0 := by
  have zeros : slice offset 8 h.block = Bytes.zeros (7 + 1) := by
    rcases at' with rfl | rfl <;> rw [backField h (by decide)] <;> rfl
  simp [Fields.numberAt, zeros, Field.readZeros]

theorem ofBlockBlock (fits : h.Fits) (plain : h.Plain) : Fields.ofBlock h.block = .ok h.fields := by
  have count := h.blockLength
  have some' : h.block ≠ [] := by
    intro none'
    simp [none', blockSize] at count
  have letter : (0x75 : UInt8) ∈ h.block := by
    have inBack : (0x75 : UInt8) ∈ h.back :=
      List.mem_append_left _ (List.mem_append_right _ List.mem_cons_self)
    exact List.mem_append_right _ inBack
  have nonzero : h.block.all (· = 0) = false := by
    rw [List.all_eq_false]
    exact ⟨0x75, letter, by decide⟩
  have flag : (h.block.drop 156).headD 0 = h.flag := by
    rw [dropSum]
    rfl
  have front : Fields.textAt h.block 345 155 = [] := by
    rw [Fields.textAt, backField h (by decide)]
    rfl
  have kept (name : Bytes) : Fields.effectiveFlag h.flag name = h.flag := by
    simp [Fields.effectiveFlag, plain.1]
  have whole (name : Bytes) : Fields.fullName h.flag [] name = name := by
    simp [Fields.fullName, plain.2.2]
  rw [Fields.ofBlock, if_neg some', if_neg (by simp [count]), if_neg (by simp [nonzero])]
  simp only [Fields.ofFullBlock, sumRead, unsignedSumBlock,
    numberRead h.modeField (by decide) fits.mode, numberRead h.uidField (by decide) fits.uid,
    numberRead h.gidField (by decide) fits.gid, numberRead h.sizeField (by decide) fits.size,
    numberRead h.mtimeField (by decide) fits.mtime, deviceRead (.inl rfl), deviceRead (.inr rfl),
    bind, Except.bind]
  simp only [flag, kept, front, whole, ne_eq, not_true_eq_false, false_and, if_false,
    if_neg plain.2.1, pure, Except.pure]
  rw [Fields.textAt, nameField, fields]

end Header
end ContainerDriver.Archive
