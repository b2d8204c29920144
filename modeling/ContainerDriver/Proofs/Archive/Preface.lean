import ContainerDriver.Proofs.Archive.Truncation
import ContainerDriver.Proofs.Text.Trim

/-! A header in front of an archive. Long names, long link names and records that say nothing of
sizes and sparse content describe the member behind them, and its content stays what it was. -/
namespace ContainerDriver.Archive

namespace Field
open Text Text.Numeral

/-- Octal digits with blanks around them, up to a zero byte or the end of the field. A field
without digits shows zero. -/
def Shows (field : Bytes) (n : Nat) : Prop :=
  ∃ front digits back behind, field = front ++ (digits ++ back) ++ behind ∧
    (∀ b ∈ front, b = 0x20) ∧ (∀ b ∈ back, b = 0x20) ∧
    (∀ b ∈ digits, 0x30 ≤ b.toNat ∧ b.toNat ≤ 0x37) ∧
    (behind = [] ∨ behind.head? = some 0) ∧ ofDigits 8 (digits.map (·.toNat - 0x30)) = n

theorem trimAround {front cs back : List Char} (before : ∀ c ∈ front, isBlank c = true)
    (inside : ∀ c ∈ cs, isBlank c = false) (behind : ∀ c ∈ back, isBlank c = true) :
    trim (front ++ (cs ++ back)) = cs := by
  cases cs with
  | nil => exact trimEmpty.mpr (List.forall_mem_append.mpr ⟨before, behind⟩)
  | cons c rest =>
    obtain ⟨first, -⟩ := List.forall_mem_cons.mp inside
    have bare := trimDigits inside
    have left : trimLeft (front ++ (c :: rest ++ back)) = c :: rest ++ back := by
      rw [trimLeft, List.dropWhile_append_of_pos before, List.cons_append,
        List.dropWhile_cons_of_neg (by simp [first])]
    rw [trim, trimLeft, List.dropWhile_cons_of_neg (by simp [first])] at bare
    rw [trim, left, trimRight, List.reverse_append,
      List.dropWhile_append_of_pos (by simpa using behind), ← trimRight, bare]

theorem blankBlank {bs : Bytes} (blank : ∀ b ∈ bs, b = 0x20) :
    ∀ c ∈ bs.map asciiChar, isBlank c = true := by
  intro c mem
  obtain ⟨b, inside, rfl⟩ := List.mem_map.mp mem
  rw [blank b inside]
  decide

theorem octalAround {front digits back : Bytes} (before : ∀ b ∈ front, b = 0x20)
    (behind : ∀ b ∈ back, b = 0x20) (octal : ∀ b ∈ digits, 0x30 ≤ b.toNat ∧ b.toNat ≤ 0x37) :
    octal? ((front ++ (digits ++ back)).map asciiChar) =
      some ((ofDigits 8 (digits.map (·.toNat - 0x30)) : Nat) : Int) := by
  have bare : ∀ c ∈ digits.map asciiChar, isBlank c = false :=
    fun c mem => (charsPlain octal c mem).1
  have trimmed : trim ((front ++ (digits ++ back)).map asciiChar) = digits.map asciiChar := by
    rw [List.map_append, List.map_append, trimAround (blankBlank before) bare (blankBlank behind)]
  have same : octal? ((front ++ (digits ++ back)).map asciiChar) =
      octal? (digits.map asciiChar) := by
    rw [octal?, octal?, trimmed, trimDigits bare]
  rw [same]
  by_cases none' : digits = []
  · subst none'
    rfl
  · exact signedDigits octal none'

theorem Shows.read {field : Bytes} {n : Nat} (shows' : Shows field n) (some' : field ≠ []) :
    read? field = some (n : Int) := by
  obtain ⟨front, digits, back, behind, rfl, before, after, octal, ended, rfl⟩ := shows'
  let text := front ++ (digits ++ back)
  have ascii : ∀ b ∈ text, b ≠ 0 ∧ b.toNat < 0x80 := by
    have blank {b : UInt8} (same : b = 0x20) : b ≠ 0 ∧ b.toNat < 0x80 := by
      subst same
      decide
    have digit {b : UInt8} (mem : b ∈ digits) : b ≠ 0 ∧ b.toNat < 0x80 := by
      have range := octal b mem
      exact ⟨digitsFull octal b mem, by omega⟩
    exact List.forall_mem_append.mpr ⟨fun b mem => blank (before b mem),
      List.forall_mem_append.mpr ⟨fun b mem => digit mem, fun b mem => blank (after b mem)⟩⟩
  have cut : Bytes.untilZero (text ++ behind) = text := by
    rw [Bytes.untilZero, List.takeWhile_append_of_pos (by simpa using fun b mem => (ascii b mem).1)]
    rcases ended with rfl | zero
    · simp
    · cases behind with
      | nil => simp
      | cons z rest =>
        cases zero
        simp
  have chars : asciiChars? text = some (text.map asciiChar) := by
    have all : text.all (· < 0x80) = true := by
      simp only [List.all_eq_true, decide_eq_true_eq, UInt8.lt_iff_toNat_lt]
      exact fun b mem => (ascii b mem).2
    rw [asciiChars?, if_pos all]
    rfl
  have plain : read? (text ++ behind) = readOctal? (text ++ behind) := by
    cases whole : text ++ behind with
    | nil => exact absurd whole some'
    | cons lead rest =>
      have low : lead.toNat < 0x80 := by
        by_cases zero : lead = 0
        · rw [zero]
          decide
        · have first : lead ∈ text := by
            rw [← cut, whole, Bytes.untilZero, List.takeWhile_cons_of_pos (by simpa using zero)]
            exact List.mem_cons_self
          exact (ascii lead first).2
      have octal' : lead ≠ 0x80 ∧ lead ≠ 0xFF := by
        constructor <;> (rintro rfl; exact absurd low (by decide))
      rw [read?, if_neg octal'.1, if_neg octal'.2]
  rw [plain, readOctal?, cut, chars]
  exact octalAround before after octal

def Numeric (field : Bytes) : Prop :=
  (∃ n, Shows field n) ∨ field.head? = some 0x80 ∨ field.head? = some 0xFF

theorem Numeric.read {field : Bytes} (numeric : Numeric field) (some' : field ≠ []) :
    ∃ n, read? field = some n := by
  cases field with
  | nil => exact absurd rfl some'
  | cons lead rest =>
    rcases numeric with ⟨n, octal⟩ | plus | minus
    · exact ⟨n, octal.read some'⟩
    · cases plus
      exact ⟨_, rfl⟩
    · cases minus
      exact ⟨_, rfl⟩

end Field

structure HeaderBlock (block : Bytes) (flag : UInt8) (size : Nat) : Prop where
  whole : block.length = blockSize
  flag : (block.drop 156).head? = some flag
  sum : ∃ n, Field.Shows (slice 148 8 block) n ∧
    ((n : Int) = Fields.unsignedSum block ∨ (n : Int) = Fields.signedSum block)
  size : Field.Shows (slice 124 12 block) size
  numbers : ∀ place ∈ [(100, 8), (108, 8), (116, 8), (136, 12), (329, 8), (337, 8)],
    Field.Numeric (slice place.1 place.2 block)

namespace HeaderBlock
variable {block : Bytes} {flag : UInt8} {size : Nat}

theorem fieldSome (header : HeaderBlock block flag size) {offset width : Nat}
    (inside : offset < blockSize) (wide : 0 < width) : slice offset width block ≠ [] := by
  refine List.ne_nil_of_length_pos ?_
  rw [slice, List.length_take, List.length_drop, header.whole]
  omega

theorem numberRead (header : HeaderBlock block flag size) (offset width : Nat)
    (place : (offset, width) ∈ [(100, 8), (108, 8), (116, 8), (136, 12), (329, 8), (337, 8)]) :
    ∃ n, Fields.numberAt block offset width = .ok n := by
  have inside : ∀ place ∈ [(100, 8), (108, 8), (116, 8), (136, 12), (329, 8), (337, 8)],
      place.1 < blockSize ∧ 0 < place.2 := by decide
  obtain ⟨low, wide⟩ := inside _ place
  obtain ⟨n, read⟩ := (header.numbers _ place).read (header.fieldSome low wide)
  exact ⟨n, by rw [Fields.numberAt, read]⟩

theorem shownRead (header : HeaderBlock block flag size) {offset width n : Nat}
    (inside : offset < blockSize) (wide : 0 < width)
    (shows' : Field.Shows (slice offset width block) n) :
    Fields.numberAt block offset width = .ok (n : Int) := by
  rw [Fields.numberAt, shows'.read (header.fieldSome inside wide)]

theorem read (header : HeaderBlock block flag size) (plain : flag ≠ Flag.oldRegular)
    (dense : flag ≠ Flag.sparse) :
    ∃ f, Fields.ofBlock block = .ok f ∧ f.flag = flag ∧ f.size = size ∧ f.sparse = none := by
  obtain ⟨sum, stored, same⟩ := header.sum
  obtain ⟨mode, mode'⟩ := header.numberRead 100 8 (by decide)
  obtain ⟨uid, uid'⟩ := header.numberRead 108 8 (by decide)
  obtain ⟨gid, gid'⟩ := header.numberRead 116 8 (by decide)
  obtain ⟨mtime, mtime'⟩ := header.numberRead 136 12 (by decide)
  obtain ⟨major, major'⟩ := header.numberRead 329 8 (by decide)
  obtain ⟨minor, minor'⟩ := header.numberRead 337 8 (by decide)
  have size' := header.shownRead (by decide) (by decide) header.size
  have sum' := header.shownRead (by decide) (by decide) stored
  have letter : (block.drop 156).headD 0 = flag := by
    rw [List.headD_eq_head?_getD, header.flag, Option.getD_some]
  have kept (name : Bytes) : Fields.effectiveFlag flag name = flag := by
    rw [Fields.effectiveFlag, if_neg (by simp [plain])]
  have nonzero : block.all (· = 0) = false := by
    rw [List.all_eq_false]
    exact ⟨flag, List.mem_of_mem_drop (List.mem_of_mem_head? header.flag), by
      simpa [Flag.oldRegular] using plain⟩
  have some' : block ≠ [] := by
    rintro rfl
    exact absurd header.whole (by decide)
  have believed : ¬((sum : Int) ≠ Fields.unsignedSum block ∧ (sum : Int) ≠ Fields.signedSum block) :=
    fun neither => same.elim neither.1 neither.2
  rw [Fields.ofBlock, if_neg some', if_neg (by simp [header.whole]), if_neg (by simp [nonzero])]
  simp only [Fields.ofFullBlockBelieved, sum', if_neg believed, Fields.believed, mode', uid', gid',
    size', mtime', major', minor', letter, kept, if_neg dense, bind, Except.bind, pure, Except.pure]
  exact ⟨_, rfl, rfl, rfl, rfl⟩

theorem shownNumber {block : Bytes} {offset width n : Nat}
    (field : slice offset width block = Field.number width n) (fits : n < 8 ^ (width - 1)) :
    Field.Shows (slice offset width block) n := by
  have value := Field.octalValue (width - 1) n
  rw [Nat.mod_eq_of_lt fits] at value
  exact ⟨[], Field.octal (width - 1) n, [], [0], by simp [field, Field.number], by simp, by simp,
    fun b mem => Field.octalBytes mem, .inr rfl, value⟩

theorem ofHeader {h : Header} (fits : h.Fits) : HeaderBlock h.block h.flag h.size where
  whole := h.blockLength
  flag := by
    rw [h.dropSum]
    rfl
  sum := by
    have value := Field.octalValue 6 h.checksum
    rw [Nat.mod_eq_of_lt h.checksumBound] at value
    refine ⟨h.checksum, ⟨[], Field.octal 6 h.checksum, [], [0, 0x20], ?_, by simp, by simp,
      fun b mem => Field.octalBytes mem, .inr rfl, value⟩, .inl (by rw [h.unsignedSumBlock])⟩
    rw [h.sumField]
    simp
  size := shownNumber h.sizeField fits.size
  numbers := by
    have device {offset : Nat} (zeros : slice offset 8 h.block = Bytes.zeros 8) :
        Field.Numeric (slice offset 8 h.block) :=
      .inl ⟨0, [], [], [], Bytes.zeros 8, by simp [zeros], by simp, by simp, by simp, .inr rfl, rfl⟩
    intro place mem
    simp only [List.mem_cons, List.not_mem_nil, or_false] at mem
    rcases mem with rfl | rfl | rfl | rfl | rfl | rfl
    · exact .inl ⟨_, shownNumber h.modeField fits.mode⟩
    · exact .inl ⟨_, shownNumber h.uidField fits.uid⟩
    · exact .inl ⟨_, shownNumber h.gidField fits.gid⟩
    · exact .inl ⟨_, shownNumber h.mtimeField fits.mtime⟩
    · exact device (by rw [h.backField (by decide)]; rfl)
    · exact device (by rw [h.backField (by decide)]; rfl)

end HeaderBlock

/-- What a header of a kind may carry: any name, or records that say nothing of sizes and sparse
content. -/
inductive Harmless (flag : UInt8) (payload : Bytes) : Prop where
  | name (named : flag = Flag.longName ∨ flag = Flag.longLink)
  | records (described : flag = Flag.attributes ∨ flag = Flag.globalAttributes)
      (frames : List Frame) (joined : payload = frames.flatMap Frame.bytes)
      (sound : ∀ f ∈ frames, f.Sound) (quiet : ∀ f ∈ frames, Attributes.Quiet f.record.keyword)

namespace Harmless
variable {flag : UInt8} {payload : Bytes}

theorem special (harmless : Harmless flag payload) :
    flag ≠ Flag.oldRegular ∧ flag ≠ Flag.sparse ∧ Kind.ofFlag flag ≠ .plain := by
  cases harmless with
  | name named => rcases named with rfl | rfl <;> decide
  | records described => rcases described with rfl | rfl <;> decide

theorem speaks (harmless : Harmless flag payload) :
    Kind.ofFlag flag = .longName ∨ Kind.ofFlag flag = .longLink ∨
      ∃ rs, Record.parse? (Bytes.padTo blockSize payload) = some rs ∧
        ∀ r ∈ rs, Attributes.Quiet r.keyword := by
  cases harmless with
  | name named =>
    rcases named with rfl | rfl
    · exact .inl rfl
    · exact .inr (.inl rfl)
  | records described frames joined sound quiet =>
    refine .inr (.inr ⟨frames.map Frame.record, ?_, ?_⟩)
    · rw [joined]
      exact Frame.parseRead sound _
    · intro r mem
      obtain ⟨f, inside, rfl⟩ := List.mem_map.mp mem
      exact quiet f inside

end Harmless

/-- One header more in front of an archive leaves its content alone. -/
theorem prefaceIgnored {e : Entry} {content archive : Bytes} {now : Int}
    (written : encode e content now = .ok archive) {block payload : Bytes} {flag : UInt8}
    (header : HeaderBlock block flag payload.length) (small : payload.length ≤ maxEntrySize)
    (harmless : Harmless flag payload) :
    decode (block ++ Bytes.padTo blockSize payload ++ archive) = .ok content := by
  obtain ⟨size, short, bound, fill, rfl⟩ := encodeWritten written
  obtain ⟨plain, dense, kind⟩ := harmless.special
  obtain ⟨f, read, rfl, count, extents⟩ := header.read plain dense
  have above := roundUpBelow payload.length
  have room : maxEntrySize + blockSize < 2 ^ 63 := by decide
  let rest := content ++ Bytes.zeros fill
  let lead := block ++ Bytes.padTo blockSize payload ++ e.lead now
  have length : lead.length =
      0 + blockSize + Bytes.roundUp payload.length blockSize + (e.lead now).length := by
    simp only [lead, List.length_append, header.whole, padToLength]
    omega
  have own := Entry.leadFinds short bound
    (0 + blockSize + Bytes.roundUp payload.length blockSize) rest
  have finds := Member.findsBehind read extents kind count (by omega) own harmless.speaks
  have whole : e.size.toNat = content.length := by omega
  rw [← length, whole] at finds
  have lengths := leadLength bound
  have far : maxEntrySize + 6 * blockSize + maxEntrySize + maxEntrySize < 2 ^ 63 := by decide
  have split : block ++ Bytes.padTo blockSize payload ++ (e.lead now ++ rest) = lead ++ rest := by
    simp [lead]
  have start : block ++ (Bytes.padTo blockSize payload ++ (e.lead now ++ rest)) = lead ++ rest := by
    simp [lead]
  rw [start] at finds
  rw [split]
  refine decodeFinds (List.ne_nil_of_length_pos ?_) finds ?_
  · rw [length, blockSize]
    omega
  · omega

def misleading : List Frame :=
  [Frame.ofRecord ⟨Bytes.ofAscii "uid", Bytes.ofAscii "none"⟩,
   ⟨Bytes.ofAscii "0024", ⟨Bytes.ofAscii "comment", Bytes.ofAscii "\n9 size=0\n"⟩⟩]

theorem prefaceIgnoredMisleading :
    let payload := misleading.flatMap Frame.bytes
    let header := { extendedHeader payload with flag := Flag.globalAttributes }
    ∃ archive, encode undecoded [1, 0, 255] 12345678901234 = .ok archive ∧
      HeaderBlock header.block Flag.globalAttributes payload.length ∧
      payload.length ≤ maxEntrySize ∧ Harmless Flag.globalAttributes payload ∧
      decode (header.block ++ Bytes.padTo blockSize payload ++ archive) = .ok [1, 0, 255] := by
  intro payload header
  obtain ⟨_, written⟩ := undecodedLayout
  have small : payload.length ≤ maxEntrySize := by decide +kernel
  have block : HeaderBlock header.block Flag.globalAttributes payload.length :=
    HeaderBlock.ofHeader ⟨by decide, by decide, by decide, by decide +kernel, by decide⟩
  have sound : ∀ f ∈ misleading, f.Sound := by
    simp only [misleading, List.forall_mem_cons, List.not_mem_nil, false_implies, implies_true,
      and_true]
    have owner : Record.Sound ⟨Bytes.ofAscii "uid", Bytes.ofAscii "none"⟩ :=
      ⟨by decide, by decide⟩
    exact ⟨Frame.ofRecordSound owner (by decide +kernel), ⟨by decide, by decide⟩,
      by decide +kernel, by decide, by decide +kernel⟩
  have quiet : ∀ f ∈ misleading, Attributes.Quiet f.record.keyword := by
    simp only [misleading, List.forall_mem_cons, List.not_mem_nil, false_implies, implies_true,
      and_true]
    exact ⟨⟨by decide, by decide⟩, by decide, by decide⟩
  have harmless : Harmless Flag.globalAttributes payload :=
    .records (.inr rfl) misleading rfl sound quiet
  exact ⟨_, written, block, small, harmless, prefaceIgnored written block small harmless⟩

end ContainerDriver.Archive
