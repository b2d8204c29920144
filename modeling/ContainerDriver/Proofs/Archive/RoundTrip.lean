import ContainerDriver.Archive.Encode
import ContainerDriver.Proofs.Archive.Reading
import ContainerDriver.Proofs.Text.Surrogates

/-! Encoding and decoding one entry. Whatever the name, the owner, the permissions and the clock,
the headers that are written lead the reader to the content, so the content comes back. -/
namespace ContainerDriver.Archive

namespace Entry
variable {e : Entry} {now : Int}

theorem permissionsFit (e : Entry) : e.permissions < 8 ^ 7 := by
  simp only [permissions]
  omega

theorem shownFits (width : Nat) (n : Int) : shown width n < 8 ^ (width - 1) := by
  unfold shown
  split
  · next fits =>
    simp only [Field.fits, Nat.pow_eq, Bool.and_eq_true, decide_eq_true_eq] at fits
    omega
  · exact Nat.pow_pos (by decide)

theorem headerFits (small : e.size ≤ maxEntrySize) : (e.header now).Fits where
  mode := e.permissionsFit
  uid := shownFits 8 e.uid
  gid := shownFits 8 e.gid
  size := by
    simp only [header, maxEntrySize, Nat.pow_eq] at *
    omega
  mtime := shownFits 12 now

def keywords : List Bytes := ["hdrcharset", "path", "uid", "gid", "mtime"].map Bytes.ofAscii

theorem keywordKnown {r : Record} (mem : r ∈ e.records now) : r.keyword ∈ keywords := by
  have number {keyword : String} {width : Nat} {n : Int}
      (inside : r ∈ numberRecord keyword width n) : r.keyword = Bytes.ofAscii keyword := by
    unfold numberRecord at inside
    split at inside
    · simp at inside
    · rw [List.mem_singleton.mp inside]
  simp only [records, List.mem_append] at mem
  rcases mem with (((charset | path) | uid) | gid) | mtime
  · unfold charsetRecord at charset
    split at charset
    · rw [List.mem_singleton.mp charset]
      decide
    · simp at charset
  · unfold pathRecord at path
    split at path
    · have same := congrArg Record.keyword (List.mem_singleton.mp path)
      rw [same]
      exact List.mem_cons_of_mem _ List.mem_cons_self
    · simp at path
  · rw [number uid]
    decide
  · rw [number gid]
    decide
  · rw [number mtime]
    decide

theorem recordSound {r : Record} (mem : r ∈ e.records now) : r.Sound := by
  have sound : ∀ k ∈ keywords, k ≠ [] ∧ 0x3D ∉ k := by decide
  have known := sound r.keyword (keywordKnown mem)
  exact ⟨known.1, known.2⟩

theorem recordQuiet {r : Record} (mem : r ∈ e.records now) : Attributes.Quiet r.keyword := by
  have quiet : ∀ k ∈ keywords, k ≠ Attributes.key "size" ∧ ¬ Attributes.key "GNU.sparse." <+: k := by
    decide
  exact quiet r.keyword (keywordKnown mem)

theorem plainCode {name : Text} (plain : needsPath name = false) : ∀ l ∈ name, l.code < 0x80 := by
  simp only [needsPath, isAscii, Bool.or_eq_false_iff, Bool.not_eq_false', List.all_eq_true,
    decide_eq_true_eq] at plain
  exact plain.1

theorem plainEscapable {name : Text} (plain : needsPath name = false) : Text.Escapable name := by
  intro n mem
  have small := plainCode plain _ mem
  simp only [Letter.code] at small
  omega

theorem plainRecords {name : Text} (plain : needsPath name = false) :
    charsetRecord name = [] ∧ pathRecord name = [] := by
  constructor
  · refine if_neg fun some' => ?_
    obtain ⟨l, mem, surrogate⟩ := List.any_eq_true.mp some'
    have small := plainCode plain l mem
    cases l with
    | char c => cases surrogate
    | surrogate n =>
      simp only [Letter.code] at small
      omega
  · exact if_neg (by simp [plain])

end Entry

theorem extendedHeaderFits {payload : Bytes} (small : payload.length ≤ maxEntrySize) :
    (extendedHeader payload).Fits where
  mode := by simp [extendedHeader]
  uid := by simp [extendedHeader]
  gid := by simp [extendedHeader]
  size := by
    simp only [extendedHeader, maxEntrySize, Nat.pow_eq] at *
    omega
  mtime := by simp [extendedHeader]

theorem extendedHeaderPlain (payload : Bytes) : (extendedHeader payload).Plain := by
  simp only [Header.Plain, extendedHeader]
  decide

theorem extendedHeaderKind (payload : Bytes) :
    Kind.ofFlag (extendedHeader payload).fields.flag ≠ .plain := by
  simp only [Header.fields, extendedHeader]
  decide

theorem parsePadded {rs : List Record} (sound : ∀ r ∈ rs, r.Sound)
    (bound : (rs.flatMap Record.bytes).length ≤ maxEntrySize) :
    Record.parse? (Bytes.padTo blockSize (rs.flatMap Record.bytes)) = some rs := by
  have few : maxEntrySize < 10 ^ 20 := by decide
  exact Record.parseBytes sound (by omega) _

theorem extensionFinds {rs : List Record} (sound : ∀ r ∈ rs, r.Sound)
    (quiet : ∀ r ∈ rs, Attributes.Quiet r.keyword)
    (bound : (rs.flatMap Record.bytes).length ≤ maxEntrySize) {position start size : Nat}
    {rest : Bytes} (behind : Member.Finds ⟨position + (extension rs).length, rest⟩ start size) :
    Member.Finds ⟨position, extension rs ++ rest⟩ start size := by
  by_cases none' : rs.isEmpty
  · simpa only [extension, none', if_true, List.nil_append, List.length_nil, Nat.add_zero]
      using behind
  · have parsed := parsePadded sound bound
    have fits := extendedHeaderFits bound
    simp only [extension, if_neg none', List.length_append, Header.blockLength, padToLength,
      List.append_assoc, ← Nat.add_assoc] at behind ⊢
    have kind := extendedHeaderKind (rs.flatMap Record.bytes)
    exact Member.findsExtended fits (extendedHeaderPlain _) rfl behind
      (.inr (.inr ⟨kind, rs, parsed, quiet⟩))

theorem Entry.leadFinds {e : Entry} {now : Int} (small : e.size ≤ maxEntrySize)
    (bound : ((e.records now).flatMap Record.bytes).length ≤ maxEntrySize) (position : Nat)
    (rest : Bytes) :
    Member.Finds ⟨position, e.lead now ++ rest⟩ (position + (e.lead now).length) e.size.toNat := by
  have fits : (e.header now).Fits := e.headerFits small
  have file := Member.findsFile fits rfl
    (position + (extension (e.records now)).length) rest
  have found := extensionFinds (fun r mem => Entry.recordSound mem)
    (fun r mem => Entry.recordQuiet mem) bound file
  rw [Entry.lead, List.append_assoc, List.length_append, Header.blockLength, ← Nat.add_assoc]
  exact found

theorem encodeLayout {e : Entry} {content : Bytes} {now : Int}
    (size : (content.length : Int) = e.size) (small : e.size ≤ maxEntrySize)
    (digits : (writable e.uid && writable e.gid && writable now) = true)
    (named : Text.Escapable e.name)
    (bound : ((e.records now).flatMap Record.bytes).length ≤ maxEntrySize) :
    ∃ fill, encode e content now = .ok (e.lead now ++ (content ++ Bytes.zeros fill)) := by
  have checked : e.checkSize content.length = .ok () := by
    rw [Entry.checkSize, if_neg (by simp [size]), if_neg (by omega)]
  simp only [encode, checked, digits, Text.unescapableNone.mpr named, bind, Except.bind,
    Bool.not_true, Bool.false_eq_true, if_false, if_neg (Nat.not_lt.mpr bound), pure,
    Except.pure, Except.ok.injEq]
  simp only [Bytes.padTo, List.append_assoc, List.append_cancel_left_eq, Bytes.zeros,
    List.replicate_append_replicate]
  exact ⟨_, rfl⟩

theorem decimalShort {n k : Nat} (some' : 0 < k) (short : n < Nat.pow 10 k) :
    (decimal n).length ≤ k := (decimalLength some').mpr short

theorem signedDecimalLength {n : Int} {k : Nat} (some' : 0 < k) (short : n.natAbs < Nat.pow 10 k) :
    (signedDecimal n).length ≤ k + 1 := by
  have digits := decimalShort some' short
  unfold signedDecimal
  split
  · simpa using digits
  · omega

theorem recordsShort {name : Text} {size now : Int} {mode : Option Int}
    (plain : Entry.needsPath name = false) (clock : writable now = true) :
    ((Entry.records { name, size, mode } now).flatMap Record.bytes).length ≤ maxEntrySize := by
  have owner : Field.fits 8 0 = true := by decide
  have few : Text.Numeral.digitLimit = 4300 := rfl
  have digits := signedDecimalLength (k := Text.Numeral.digitLimit) (by decide)
    (of_decide_eq_true clock)
  obtain ⟨charset, path⟩ := Entry.plainRecords plain
  simp only [Entry.records, charset, path, Entry.numberRecord, owner, if_true, List.nil_append]
  split
  · simp
  · have key : (Bytes.ofAscii "mtime").length = 5 := by decide
    have total : Record.totalLength (5 + (signedDecimal now).length + 3) ≤ _ :=
      Record.totalLengthBelow (by omega)
    simp only [List.flatMap_cons, List.flatMap_nil, List.append_nil, Record.bytesLength,
      Record.bodyLength, key]
    have large : 5000 ≤ maxEntrySize := by decide
    omega

theorem encodePlain {name : Text} {content : Bytes} {now : Int} (mode : Option Int)
    (plain : Entry.needsPath name = false) (small : content.length ≤ maxEntrySize)
    (clock : writable now = true) :
    ∃ archive, encode { name, size := content.length, mode } content now = .ok archive := by
  have root : writable 0 = true := by decide +kernel
  obtain ⟨fill, written⟩ := encodeLayout (e := { name, size := content.length, mode }) rfl
    (Int.ofNat_le.mpr small) (by simp [root, clock]) (Entry.plainEscapable plain)
    (recordsShort plain clock)
  exact ⟨_, written⟩

theorem decodeStored {data : Bytes} (some' : data ≠ []) {start size : Nat}
    (finds : Member.Finds (Tape.ofBytes data) start size) (reach : start + size < 2 ^ 63) :
    decode data = if size ≤ data.length - start then .ok ((data.drop start).take size)
      else .error (.flaw .unexpectedEnd) := by
  obtain ⟨found, read, stored, -⟩ := finds [] Attributes.allQuietNil
  have regular : found.member.isRegular = true := by
    rw [Member.isRegular, stored.regular]
    decide
  simp only [decode, if_neg some', firstMember, read, bind, Except.bind, regular, Bool.not_true,
    Bool.false_eq_true, if_false, Member.contentStored stored reach]
  by_cases enough : size ≤ data.length - start
  · have whole : (((data.drop start).take size).length : Int) = found.member.size := by
      rw [stored.size, List.length_take, List.length_drop, Nat.min_eq_left enough]
    simp only [if_pos enough, whole, ne_eq, not_true_eq_false, if_false, pure, Except.pure]
  · simp only [if_neg enough]

theorem decodeFinds {lead content rest : Bytes} (some' : lead ≠ [])
    (finds : Member.Finds (Tape.ofBytes (lead ++ (content ++ rest))) lead.length content.length)
    (reach : lead.length + content.length < 2 ^ 63) :
    decode (lead ++ (content ++ rest)) = .ok content := by
  have nonempty : lead ++ (content ++ rest) ≠ [] := by simp [some']
  have room : content.length ≤ (lead ++ (content ++ rest)).length - lead.length := by
    simp only [List.length_append]
    omega
  rw [decodeStored nonempty finds reach, if_pos room, List.drop_left, List.take_left]

theorem leadLength {e : Entry} {now : Int}
    (bound : ((e.records now).flatMap Record.bytes).length ≤ maxEntrySize) :
    blockSize ≤ (e.lead now).length ∧ (e.lead now).length < maxEntrySize + 4 * blockSize := by
  have above := roundUpBelow ((e.records now).flatMap Record.bytes).length
  have count : (extension (e.records now)).length ≤
      blockSize + Bytes.roundUp ((e.records now).flatMap Record.bytes).length blockSize := by
    unfold extension
    dsimp only
    split
    · simp
    · simp [Header.blockLength, padToLength]
  rw [Entry.lead, List.length_append, Header.blockLength]
  omega

/-- A content of the declared size comes back from its archive, whatever the owner, the permissions
and the clock are; a content of another size, or one that is too large, is refused. The name is any
valid Unicode, and may have surrogates besides that stand for bytes. -/
theorem decodeEncode (e : Entry) (content : Bytes) (now : Int) :
    ((content.length : Int) = e.size → e.size ≤ maxEntrySize →
      (∀ n, .surrogate n ∈ e.name → Text.Utf8.standsForByte n = true) →
      writable e.uid = true → writable e.gid = true → writable now = true →
      ((e.records now).flatMap Record.bytes).length ≤ maxEntrySize →
      ∃ archive, encode e content now = .ok archive ∧ decode archive = .ok content) ∧
    ((content.length : Int) ≠ e.size →
      encode e content now = .error (.sizeMismatch e content.length)) ∧
    ((content.length : Int) = e.size → maxEntrySize < e.size →
      encode e content now = .error (.tooLarge e)) := by
  refine ⟨?_, ?_, ?_⟩
  · intro size small named uid gid clock bound
    obtain ⟨fill, written⟩ := encodeLayout size small (by simp [uid, gid, clock]) named bound
    have lead := leadLength bound
    have count : e.size.toNat = content.length := by omega
    have finds := Entry.leadFinds small bound 0 (content ++ Bytes.zeros fill)
    rw [Nat.zero_add, count] at finds
    have some' : e.lead now ≠ [] := by
      intro none'
      simp [none', blockSize] at lead
    refine ⟨_, written, decodeFinds some' finds ?_⟩
    have few : maxEntrySize + 4 * blockSize + maxEntrySize < 2 ^ 63 := by decide
    omega
  · intro size
    have refused : e.checkSize content.length = .error (.sizeMismatch e content.length) :=
      if_pos size
    simp only [encode, refused, bind, Except.bind]
  · intro size large
    have refused : e.checkSize content.length = .error (.tooLarge e) := by
      rw [Entry.checkSize, if_neg (by simp [size]), if_pos large]
    simp only [encode, refused, bind, Except.bind]

def awkward : Entry := ⟨"é=\n", 3, -5, 10000000, some (-1)⟩

theorem decodeEncodeAwkward :
    awkward.size = 3 ∧ (∀ n, .surrogate n ∈ awkward.name → Text.Utf8.standsForByte n = true) ∧
    writable awkward.uid = true ∧ writable awkward.gid = true ∧
    writable 12345678901234 = true ∧
    ((awkward.records 12345678901234).flatMap Record.bytes).length ≤ maxEntrySize ∧
    ∃ archive, encode awkward [1, 0, 255] 12345678901234 = .ok archive ∧
      decode archive = .ok [1, 0, 255] := by
  have uid : writable awkward.uid = true := by decide +kernel
  have gid : writable awkward.gid = true := by decide +kernel
  have clock : writable 12345678901234 = true := by decide +kernel
  have bound : ((awkward.records 12345678901234).flatMap Record.bytes).length ≤ maxEntrySize := by
    decide +kernel
  have named := Text.ofStringEscapable "é=\n"
  refine ⟨rfl, named, uid, gid, clock, bound, ?_⟩
  exact (decodeEncode awkward [1, 0, 255] 12345678901234).1 rfl (by decide) named uid gid clock
    bound

theorem awkwardWritten : ∃ archive, encode awkward [1, 0, 255] 12345678901234 = .ok archive := by
  have digits : (writable awkward.uid && writable awkward.gid && writable 12345678901234) = true :=
    by decide +kernel
  have bound : ((awkward.records 12345678901234).flatMap Record.bytes).length ≤ maxEntrySize := by
    decide +kernel
  have size : (([1, 0, 255] : Bytes).length : Int) = awkward.size := rfl
  obtain ⟨fill, written⟩ := encodeLayout size (by decide) digits
    (Text.ofStringEscapable "é=\n") bound
  exact ⟨_, written⟩

def undecoded : Entry := ⟨(awkward.name ++ [.surrogate 0x4E9] : Text), 3, -5, 10000000, some (-1)⟩

theorem undecodedLayout : ∃ fill, encode undecoded [1, 0, 255] 12345678901234
    = .ok (undecoded.lead 12345678901234 ++ ([1, 0, 255] ++ Bytes.zeros fill)) := by
  have digits : (writable undecoded.uid && writable undecoded.gid && writable 12345678901234)
      = true := by
    decide +kernel
  have bound : ((undecoded.records 12345678901234).flatMap Record.bytes).length
      ≤ maxEntrySize := by
    decide +kernel
  have named : Text.Escapable undecoded.name :=
    Text.unescapableNone.mp (by decide +kernel)
  exact encodeLayout rfl (by decide) digits named bound

end ContainerDriver.Archive
