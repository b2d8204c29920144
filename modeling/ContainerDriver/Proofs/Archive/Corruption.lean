import ContainerDriver.Proofs.Archive.Truncation

/-! One byte of a header block replaced by another. A block that is written holds ASCII only, so its
bytes have the same sum counted unsigned and signed, and a changed byte changes both of them: the
sum in the block fits neither. A byte of the sum itself changes nothing else in the block, which
either is refused or says what it said before. -/
namespace ContainerDriver.Archive

namespace Field

theorem sumSet {b : Bytes} {i : Nat} {x : UInt8} (here : b[i]? = some x) (y : UInt8) :
    sum (b.set i y) + x.toNat = sum b + y.toNat := by
  induction b generalizing i with
  | nil => simp at here
  | cons z rest ih =>
    cases i with
    | zero =>
      cases here
      rw [List.set_cons_zero, sumCons, sumCons]
      omega
    | succ i =>
      have later := ih (i := i) here
      rw [List.set_cons_succ, sumCons, sumCons]
      omega

theorem signedSumCons (x : UInt8) (b : Bytes) : signedSum (x :: b) = signedByte x + signedSum b :=
  rfl

theorem signedSumSet {b : Bytes} {i : Nat} {x : UInt8} (here : b[i]? = some x) (y : UInt8) :
    signedSum (b.set i y) + signedByte x = signedSum b + signedByte y := by
  induction b generalizing i with
  | nil => simp at here
  | cons z rest ih =>
    cases i with
    | zero =>
      cases here
      rw [List.set_cons_zero, signedSumCons, signedSumCons]
      omega
    | succ i =>
      have later := ih (i := i) here
      rw [List.set_cons_succ, signedSumCons, signedSumCons]
      omega

theorem signedByteAscii {x : UInt8} (ascii : x.toNat < 0x80) : signedByte x = x.toNat :=
  if_pos (UInt8.lt_iff_toNat_lt.mpr ascii)

theorem signedByteOther {x y : UInt8} (ascii : x.toNat < 0x80) (other : y ≠ x) :
    signedByte y ≠ x.toNat := by
  have distinct : y.toNat ≠ x.toNat := fun same => other (UInt8.toNat_inj.mp same)
  have small := y.toNat_lt
  unfold signedByte
  split <;> omega

def Ascii (b : Bytes) : Prop := ∀ x ∈ b, x.toNat < 0x80

theorem Ascii.append {a b : Bytes} (front : Ascii a) (back : Ascii b) : Ascii (a ++ b) :=
  fun x mem => (List.mem_append.mp mem).elim (front x) (back x)

theorem asciiZeros (n : Nat) : Ascii (Bytes.zeros n) := by
  intro x mem
  rw [List.eq_of_mem_replicate mem]
  decide

theorem asciiText (width : Nat) {b : Bytes} (ascii : Ascii b) : Ascii (text width b) :=
  .append (fun x mem => ascii x (List.mem_of_mem_take mem)) (asciiZeros _)

theorem asciiOctal (width n : Nat) : Ascii (octal width n) := by
  intro x mem
  have := (octalBytes mem).2
  omega

theorem asciiNumber (width n : Nat) : Ascii (number width n) :=
  .append (asciiOctal _ n) (by simp [Ascii])

theorem signedSumAscii {b : Bytes} (ascii : Ascii b) : signedSum b = sum b := by
  induction b with
  | nil => rfl
  | cons x rest ih =>
    have head := signedByteAscii (ascii x List.mem_cons_self)
    have tail := ih fun y mem => ascii y (List.mem_cons_of_mem _ mem)
    rw [signedSumCons, sumCons, head, tail]
    omega

end Field

theorem sliceSet {block : Bytes} {offset width i : Nat} (outside : i < offset ∨ offset + width ≤ i)
    (y : UInt8) : slice offset width (block.set i y) = slice offset width block := by
  unfold slice
  rcases outside with before | behind
  · rw [List.drop_set_of_lt before]
  · obtain ⟨k, rfl⟩ := Nat.exists_eq_add_of_le (Nat.le_of_add_right_le behind)
    rw [List.drop_set, if_neg (by omega), Nat.add_sub_cancel_left,
      List.take_set_of_le (by omega)]

namespace Fields
variable {block : Bytes} {i : Nat}

def Counted (i : Nat) : Prop := i < 148 ∨ 156 ≤ i

theorem sumsSet {x : UInt8} (here : block[i]? = some x) (counted : Counted i) (y : UInt8) :
    unsignedSum (block.set i y) + x.toNat = unsignedSum block + y.toNat ∧
    signedSum (block.set i y) + Field.signedByte x = signedSum block + Field.signedByte y := by
  unfold unsignedSum signedSum
  rcases counted with front | back
  · have place : (block.take 148)[i]? = some x := by rw [List.getElem?_take_of_lt front, here]
    have plain := Field.sumSet place y
    have signed := Field.signedSumSet place y
    rw [List.take_set, List.drop_set_of_lt (by omega)]
    constructor <;> omega
  · have place : (block.drop 156)[i - 156]? = some x := by
      rw [List.getElem?_drop, Nat.add_sub_cancel' back, here]
    have plain := Field.sumSet place y
    have signed := Field.signedSumSet place y
    rw [List.take_set_of_le (by omega), List.drop_set, if_neg (by omega)]
    constructor <;> omega

theorem numberAtSet {offset width : Nat} (outside : i < offset ∨ offset + width ≤ i) (y : UInt8) :
    numberAt (block.set i y) offset width = numberAt block offset width := by
  rw [numberAt, sliceSet outside, numberAt]

theorem textAtSet {offset width : Nat} (outside : i < offset ∨ offset + width ≤ i) (y : UInt8) :
    textAt (block.set i y) offset width = textAt block offset width := by
  rw [textAt, sliceSet outside, textAt]

theorem sparseLeadSet (front : i < 386) (y : UInt8) :
    sparseLead (block.set i y) = sparseLead block := by
  have extents (k : Nat) :
      extentAt (block.set i y) (386 + 24 * k) = extentAt block (386 + 24 * k) := by
    rw [extentAt, numberAtSet (by omega), numberAtSet (by omega), extentAt]
  have more : slice 482 1 (block.set i y) = slice 482 1 block := sliceSet (by omega) y
  have size : numberAt (block.set i y) 483 12 = numberAt block 483 12 := numberAtSet (by omega) y
  simp only [sparseLead, extents, more, size]

theorem believedSet (first : 148 ≤ i) (last : i < 156) (y : UInt8) :
    believed (block.set i y) = believed block := by
  have number (offset width : Nat) (outside : i < offset ∨ offset + width ≤ i) :
      numberAt (block.set i y) offset width = numberAt block offset width := numberAtSet outside y
  have text (offset width : Nat) (outside : i < offset ∨ offset + width ≤ i) :
      textAt (block.set i y) offset width = textAt block offset width := textAtSet outside y
  have behind : (block.set i y).drop 156 = block.drop 156 := List.drop_set_of_lt last
  rw [believed, number 100 8 (by omega), number 108 8 (by omega), number 116 8 (by omega),
    number 124 12 (by omega), number 136 12 (by omega), number 329 8 (by omega),
    number 337 8 (by omega), text 0 100 (by omega), text 345 155 (by omega), behind,
    sparseLeadSet (by omega), believed]

theorem ofFullBlockSum {f : Fields} (read : ofFullBlock block = .ok f) (first : 148 ≤ i)
    (last : i < 156) (y : UInt8) :
    (∃ flaw, ofFullBlock (block.set i y) = .error flaw) ∨ ofFullBlock (block.set i y) = .ok f := by
  have good : believed block = .ok f := by
    rw [ofFullBlockBelieved] at read
    split at read
    · cases read
    · split at read
      · cases read
      · exact read
  rw [ofFullBlockBelieved, believedSet first last, good]
  split
  · exact .inl ⟨_, rfl⟩
  · split
    · exact .inl ⟨_, rfl⟩
    · exact .inr rfl

theorem ofBlockSum {f : Fields} (read : ofBlock block = .ok f) (first : 148 ≤ i) (last : i < 156)
    (y : UInt8) :
    (∃ flaw, ofBlock (block.set i y) = .error flaw) ∨ ofBlock (block.set i y) = .ok f := by
  have full : (block.set i y).length = blockSize := by rw [List.length_set, ofBlockLength read]
  obtain bad | same := ofBlockFull full
  · exact .inl bad
  · rw [same]
    exact ofFullBlockSum (ofFullBlockOf read) first last y

end Fields

namespace Header
variable {h : Header}

theorem frontAscii (name : Field.Ascii h.name) : Field.Ascii h.front :=
  (Field.asciiText 100 name).append (Field.asciiNumber 8 _) |>.append (Field.asciiNumber 8 _)
    |>.append (Field.asciiNumber 8 _) |>.append (Field.asciiNumber 12 _)
    |>.append (Field.asciiNumber 12 _)

theorem backAscii (flag : h.flag.toNat < 0x80) : Field.Ascii h.back := by
  have lead : Field.Ascii [h.flag] := by simpa [Field.Ascii] using flag
  have letters : Field.Ascii magic := by
    unfold Field.Ascii
    decide +kernel
  exact (lead.append (Field.asciiZeros 100)).append letters |>.append (Field.asciiZeros 247)

theorem blockAscii (name : Field.Ascii h.name) (flag : h.flag.toNat < 0x80) :
    Field.Ascii h.block :=
  have ends : Field.Ascii [0, 0x20] := by simp [Field.Ascii]
  (h.frontAscii name).append ((Field.asciiOctal 6 _).append ends) |>.append (h.backAscii flag)

theorem ofBlockCounted (name : Field.Ascii h.name) (flag : h.flag.toNat < 0x80) {i : Nat}
    {x y : UInt8} (here : h.block[i]? = some x) (counted : Fields.Counted i) (other : y ≠ x) :
    ∃ flaw, Fields.ofBlock (h.block.set i y) = .error flaw := by
  have front := h.frontAscii name
  have back := h.backAscii flag
  have full : (h.block.set i y).length = blockSize := by rw [List.length_set, h.blockLength]
  have signedBlock : Fields.signedSum h.block = h.checksum := by
    rw [Fields.signedSum, takeFront, dropSum, Field.signedSumAscii front,
      Field.signedSumAscii back, checksum]
    omega
  have stored : Fields.numberAt (h.block.set i y) 148 8 = .ok (h.checksum : Int) := by
    rw [Fields.numberAtSet (by unfold Fields.Counted at counted; omega), sumRead]
  have ascii : x.toNat < 0x80 := h.blockAscii name flag x (List.mem_of_getElem? here)
  have distinct : y.toNat ≠ x.toNat := fun same => other (UInt8.toNat_inj.mp same)
  obtain ⟨plain, signed⟩ := Fields.sumsSet here counted y
  rw [unsignedSumBlock] at plain
  rw [signedBlock, Field.signedByteAscii ascii] at signed
  have otherSigned := Field.signedByteOther ascii other
  obtain bad | same := Fields.ofBlockFull full
  · exact bad
  · refine ⟨.checksum, ?_⟩
    rw [same, Fields.ofFullBlockBelieved, stored]
    exact if_pos ⟨by omega, by omega⟩

end Header

theorem setInside {before block rest : Bytes} {i : Nat} (inside : i < block.length) (y : UInt8) :
    (before ++ (block ++ rest)).set (before.length + i) y = before ++ (block.set i y ++ rest) := by
  rw [List.set_append_right _ _ (Nat.le_add_right _ _), Nat.add_sub_cancel_left,
    List.set_append_left _ _ inside]

namespace Entry
variable {e : Entry} {now : Int} {before behind : Bytes} {h : Header}

def headerStarts (e : Entry) (now : Int) : List Nat :=
  if (e.records now).isEmpty then [0] else [0, e.contentOffset now - blockSize]

inductive Bears (e : Entry) (now : Int) : Bytes → Header → Bytes → Prop where
  | extended (some' : ¬(e.records now).isEmpty) : Bears e now []
      (extendedHeader ((e.records now).flatMap Record.bytes))
      (Bytes.padTo blockSize ((e.records now).flatMap Record.bytes) ++ (e.header now).block)
  | own : Bears e now (extension (e.records now)) (e.header now) []

theorem bearsAt {start : Nat} (mem : start ∈ e.headerStarts now) :
    ∃ before h behind, Bears e now before h behind ∧ before.length = start := by
  have offset := e.leadLengthOffset now
  rw [lead, List.length_append, Header.blockLength] at offset
  unfold headerStarts at mem
  by_cases none' : (e.records now).isEmpty
  · rw [if_pos none', List.mem_singleton] at mem
    refine ⟨_, _, _, .own, ?_⟩
    rw [extension, if_pos none', mem, List.length_nil]
  · rw [if_neg none', List.mem_cons, List.mem_singleton] at mem
    rcases mem with first | second
    · exact ⟨_, _, _, .extended none', first.symm⟩
    · exact ⟨_, _, _, .own, by omega⟩

theorem Bears.lead (bears : Bears e now before h behind) :
    e.lead now = before ++ (h.block ++ behind) := by
  cases bears with
  | extended some' =>
    rw [Entry.lead, extension, if_neg some', List.nil_append, List.append_assoc]
  | own => rw [Entry.lead, List.append_nil]

theorem shortNameAscii (name : Text) : Field.Ascii (shortName name) := by
  intro x mem
  obtain ⟨l, -, rfl⟩ := List.mem_map.mp mem
  split
  · next ascii =>
    rw [UInt8.toNat_ofNat_of_lt' (by change _ < 256; omega)]
    exact ascii
  · decide

theorem Bears.ascii (bears : Bears e now before h behind) :
    Field.Ascii h.name ∧ h.flag.toNat < 0x80 := by
  cases bears with
  | extended some' =>
    have letters : Field.Ascii (Bytes.ofAscii "././@PaxHeader") := by
      unfold Field.Ascii
      decide +kernel
    have flag : Flag.attributes.toNat < 0x80 := by decide
    exact ⟨letters, flag⟩
  | own =>
    have flag : Flag.regular.toNat < 0x80 := by decide
    exact ⟨shortNameAscii e.name, flag⟩

theorem Bears.reads (bears : Bears e now before h behind) (small : e.size ≤ maxEntrySize)
    (bound : ((e.records now).flatMap Record.bytes).length ≤ maxEntrySize) :
    Fields.ofBlock h.block = .ok h.fields := by
  cases bears with
  | extended some' => exact Header.ofBlockBlock (extendedHeaderFits bound) (extendedHeaderPlain _)
  | own =>
    refine Header.ofBlockBlock (e.headerFits small) ?_
    simp only [Header.Plain, header]
    decide

theorem Bears.flawed (bears : Bears e now before h behind)
    (bound : ((e.records now).flatMap Record.bytes).length ≤ maxEntrySize) {block : Bytes}
    {flaw : HeaderFlaw} (full : block.length = blockSize)
    (bad : Fields.ofBlock block = .error flaw) (rest : Bytes) :
    Member.Flawed (Tape.ofBytes (before ++ (block ++ rest))) := by
  have here (position : Nat) : Member.Flawed ⟨position, block ++ rest⟩ := by
    refine Member.flawedHeader (f := flaw) ?_
    change Fields.ofBlock ((block ++ rest).take blockSize) = .error flaw
    rw [← full, List.take_left, bad]
  cases bears with
  | extended some' => exact here 0
  | own =>
    by_cases none' : (e.records now).isEmpty
    · rw [extension, if_pos none']
      exact here 0
    · rw [extension, if_neg none', List.append_assoc]
      refine Member.flawedExtended (extendsHeader bound 0 _) ?_
      rw [Tape.skipAppend (padToLength _)]
      exact here _

theorem Bears.finds (bears : Bears e now before h behind) (small : e.size ≤ maxEntrySize)
    (bound : ((e.records now).flatMap Record.bytes).length ≤ maxEntrySize) {block : Bytes}
    (read : Fields.ofBlock block = .ok h.fields) (rest : Bytes) :
    Member.Finds (Tape.ofBytes (before ++ (block ++ (behind ++ rest)))) (e.lead now).length
      e.size.toNat := by
  have sound := fun r (mem : r ∈ e.records now) => recordSound mem
  have quiet := fun r (mem : r ∈ e.records now) => recordQuiet mem
  cases bears with
  | extended some' =>
    let payload := (e.records now).flatMap Record.bytes
    have fits : (e.header now).Fits := e.headerFits small
    have file := Member.findsFile fits rfl
      (0 + blockSize + Bytes.roundUp payload.length blockSize) rest
    have length : (e.lead now).length
        = 0 + blockSize + Bytes.roundUp payload.length blockSize + blockSize := by
      rw [leadLengthOffset, contentOffset, if_neg some', Nat.zero_add]
    rw [List.append_assoc, length]
    exact Member.findsBehind read rfl (extendedHeaderKind payload) rfl (payloadBlocks bound).2 file
      (.inr (.inr ⟨_, parsePadded sound bound, quiet⟩))
  | own =>
    have file := Member.findsStored read rfl rfl rfl (0 + (extension (e.records now)).length) rest
    have length : (e.lead now).length = 0 + (extension (e.records now)).length + blockSize := by
      rw [Entry.lead, List.length_append, Header.blockLength, Nat.zero_add]
    rw [List.nil_append, length]
    exact extensionFinds sound quiet bound file

theorem Bears.decodes (bears : Bears e now before h behind) {content : Bytes}
    (size : (content.length : Int) = e.size) (small : e.size ≤ maxEntrySize)
    (bound : ((e.records now).flatMap Record.bytes).length ≤ maxEntrySize) {block : Bytes}
    (read : Fields.ofBlock block = .ok h.fields) (rest : Bytes) :
    decode (before ++ (block ++ (behind ++ (content ++ rest)))) = .ok content := by
  have count : e.size.toNat = content.length := by omega
  have length : (e.lead now).length = (before ++ (block ++ behind)).length := by
    rw [bears.lead]
    simp only [List.length_append, h.blockLength, Fields.ofBlockLength read]
  have some' : before ++ (block ++ behind) ≠ [] := by
    rw [← List.length_pos_iff, ← length]
    exact List.length_pos_iff.mpr (leadNeNil e now)
  have split' : before ++ (block ++ (behind ++ (content ++ rest)))
      = (before ++ (block ++ behind)) ++ (content ++ rest) := by
    simp only [List.append_assoc]
  have finds := bears.finds small bound read (content ++ rest)
  have reach := leadReach size small bound
  rw [split', length, count] at finds
  rw [length] at reach
  rw [split']
  exact decodeFinds some' finds reach

theorem Bears.counted (bears : Bears e now before h behind)
    (bound : ((e.records now).flatMap Record.bytes).length ≤ maxEntrySize) {i : Nat}
    (within : i < h.block.length) (place : Fields.Counted i) {b : UInt8} {rest : Bytes}
    (other : (before ++ (h.block ++ rest))[before.length + i]? ≠ some b) :
    ∃ f, decode (before ++ (h.block.set i b ++ rest)) = .error (.flaw f) := by
  have there : h.block[i]? = some h.block[i] := List.getElem?_eq_getElem within
  have changed : b ≠ h.block[i] := by
    rintro rfl
    apply other
    rw [List.getElem?_append_right (Nat.le_add_right _ _), Nat.add_sub_cancel_left,
      List.getElem?_append_left within, there]
  obtain ⟨flaw, bad⟩ := Header.ofBlockCounted bears.ascii.1 bears.ascii.2 there place changed
  exact decodeFlawed (bears.flawed bound (by rw [List.length_set, h.blockLength]) bad rest)

end Entry

/-- A byte of a header block that is replaced by another is told as a flaw. A byte of the block's
sum may also be one that nobody misses; then the content is what it was. -/
theorem decodeChanged {e : Entry} {content archive : Bytes} {now : Int}
    (written : encode e content now = .ok archive) {start i : Nat}
    (header : start ∈ e.headerStarts now) (inside : i < blockSize) {b : UInt8}
    (other : archive[start + i]? ≠ some b) :
    (¬(148 ≤ i ∧ i < 156) → ∃ f, decode (archive.set (start + i) b) = .error (.flaw f)) ∧
    ((∃ f, decode (archive.set (start + i) b) = .error (.flaw f)) ∨
      decode (archive.set (start + i) b) = .ok content) := by
  obtain ⟨size, small, bound, fill, rfl⟩ := encodeWritten written
  obtain ⟨before, h, behind, bears, rfl⟩ := Entry.bearsAt header
  have within : i < h.block.length := by rw [h.blockLength]; exact inside
  have layout : e.lead now ++ (content ++ Bytes.zeros fill)
      = before ++ (h.block ++ (behind ++ (content ++ Bytes.zeros fill))) := by
    rw [bears.lead]
    simp only [List.append_assoc]
  rw [layout] at other ⊢
  rw [setInside within]
  refine ⟨fun away => bears.counted bound within (by unfold Fields.Counted; omega) other, ?_⟩
  by_cases place : Fields.Counted i
  · exact .inl (bears.counted bound within place other)
  · unfold Fields.Counted at place
    obtain ⟨flaw, bad⟩ | good := Fields.ofBlockSum (bears.reads small bound)
      (by omega : 148 ≤ i) (by omega) b
    · have full : (h.block.set i b).length = blockSize := by rw [List.length_set, h.blockLength]
      exact .inl (decodeFlawed (bears.flawed bound full bad _))
    · exact .inr (bears.decodes size small bound good _)

theorem decodeChangedUndecoded : ∃ archive,
    encode undecoded [1, 0, 255] 12345678901234 = .ok archive ∧
    1024 ∈ undecoded.headerStarts 12345678901234 ∧ archive[1024 + 124]? ≠ some 0x37 ∧
    ∃ f, decode (archive.set (1024 + 124) 0x37) = .error (.flaw f) := by
  have header : 1024 ∈ undecoded.headerStarts 12345678901234 := by decide +kernel
  have there : (undecoded.lead 12345678901234)[1024 + 124]? = some 0x30 := by decide +kernel
  obtain ⟨fill, written⟩ := undecodedLayout
  have other : (undecoded.lead 12345678901234 ++ ([1, 0, 255] ++ Bytes.zeros fill))[1024 + 124]?
      ≠ some 0x37 := by
    rw [List.getElem?_append_left (List.getElem?_eq_some_iff.mp there).1, there]
    decide
  exact ⟨_, written, header, other, (decodeChanged written header (by decide) other).1 (by decide)⟩

end ContainerDriver.Archive
