import ContainerDriver.Proofs.Archive.Mishaps
import ContainerDriver.Proofs.Archive.RoundTrip

/-! Archives that are cut short. Headers that are cut, or end inside the payload of an extended
header, are a flaw whatever the payload still says; a content that is cut does not fill the size in
its header. Only zero bytes stand behind the content, and nobody misses them. -/
namespace ContainerDriver.Archive

namespace Member

def Flawed (t : Tape) : Prop :=
  ∀ globals : Attributes, ∃ f,
    find globals t = .error (.flawed f) ∨ find globals t = .error (.behind f)

theorem flawedHeader {t : Tape} {f : HeaderFlaw}
    (header : Fields.ofBlock (t.rest.take blockSize) = .error f) : Flawed t :=
  fun _ => ⟨f, .inl (findFlawed header)⟩

theorem flawedShort {t : Tape} (short : t.rest.length < blockSize) : Flawed t := by
  have few : (t.rest.take blockSize).length ≠ blockSize := by
    rw [List.length_take]
    omega
  by_cases none' : t.rest.take blockSize = []
  · exact flawedHeader (if_pos none')
  · have truncated : Fields.ofBlock (t.rest.take blockSize) = .error .truncated := by
      rw [Fields.ofBlock, if_neg none', if_pos few]
    exact flawedHeader truncated

theorem flawedExtended {t t' : Tape} {f : Fields} {buffer : Bytes} (ext : Extends t f buffer t')
    (behind : Flawed t') : Flawed t := by
  intro globals
  rw [findOfExtends ext, findPast]
  split
  · obtain ⟨f', own | later⟩ := behind globals
    · exact ⟨f', .inr (by simp only [own, Stop.outer])⟩
    · exact ⟨f', .inr (by simp only [later, Stop.outer])⟩
  · cases Record.parse? buffer with
    | none => exact ⟨.invalid, .inl rfl⟩
    | some rs =>
      obtain ⟨f', own | later⟩ :=
        behind (if Kind.ofFlag f.flag = .globals then globals.add rs else globals)
      · exact ⟨f', .inr (by simp only [own, Stop.outer])⟩
      · exact ⟨f', .inr (by simp only [later, Stop.outer])⟩

theorem extendsBlock {block rest : Bytes} {f : Fields} {position length : Nat}
    (read : Fields.ofBlock block = .ok f) (plain : f.sparse = none)
    (kind : Kind.ofFlag f.flag ≠ .plain) (payload : wholeBlocks f.size = length)
    (few : length < 2 ^ 63) :
    Extends ⟨position, block ++ rest⟩ f (rest.take length)
      ((Tape.mk (position + blockSize) rest).skip length) where
  header := by
    change Fields.ofBlock ((block ++ rest).take blockSize) = .ok f
    rw [← Fields.ofBlockLength read, List.take_left, read]
  extents := plain
  kind := kind
  payload := by
    rw [Tape.skipAppend (Fields.ofBlockLength read), payload, Tape.read, Tape.inReachNat few]
    simp

end Member

theorem firstMemberFlawed {data : Bytes} (flawed : Member.Flawed (Tape.ofBytes data)) :
    ∃ f, firstMember data = .error (.flaw f) := by
  obtain ⟨f, own | later⟩ := flawed []
  · cases f <;> exact ⟨_, by rw [firstMember, own]⟩
  · exact ⟨_, by rw [firstMember, later]⟩

theorem decodeFlawed {data : Bytes} (flawed : Member.Flawed (Tape.ofBytes data)) :
    ∃ f, decode data = .error (.flaw f) := by
  by_cases empty : data = []
  · exact ⟨.emptyStream, if_pos empty⟩
  · obtain ⟨f, first⟩ := firstMemberFlawed flawed
    exact ⟨f, by simp [decode, empty, first, bind, Except.bind]⟩

theorem payloadBlocks {payload : Bytes} (small : payload.length ≤ maxEntrySize) :
    wholeBlocks (extendedHeader payload).fields.size
        = (Bytes.roundUp payload.length blockSize : Nat) ∧
      Bytes.roundUp payload.length blockSize < 2 ^ 63 := by
  have above := roundUpBelow payload.length
  have few : maxEntrySize + blockSize < 2 ^ 63 := by decide
  exact ⟨wholeBlocksNat payload.length, by omega⟩

theorem extendsHeader {payload : Bytes} (small : payload.length ≤ maxEntrySize) (position : Nat)
    (rest : Bytes) : Member.Extends ⟨position, (extendedHeader payload).block ++ rest⟩
      (extendedHeader payload).fields (rest.take (Bytes.roundUp payload.length blockSize))
      ((Tape.mk (position + blockSize) rest).skip (Bytes.roundUp payload.length blockSize)) :=
  have read := Header.ofBlockBlock (extendedHeaderFits small) (extendedHeaderPlain payload)
  have blocks := payloadBlocks small
  Member.extendsBlock read rfl (extendedHeaderKind payload) blocks.1 blocks.2

namespace Entry
variable {e : Entry} {now : Int}

def contentOffset (e : Entry) (now : Int) : Nat :=
  let payload := (e.records now).flatMap Record.bytes
  if (e.records now).isEmpty then blockSize
  else blockSize + Bytes.roundUp payload.length blockSize + blockSize

theorem leadLengthOffset (e : Entry) (now : Int) : (e.lead now).length = e.contentOffset now := by
  rw [lead, List.length_append, Header.blockLength, contentOffset, extension]
  by_cases none' : (e.records now).isEmpty
  · simp only [none', if_true, List.length_nil, Nat.zero_add]
  · simp only [if_neg none', List.length_append, Header.blockLength, padToLength]

theorem leadCut (bound : ((e.records now).flatMap Record.bytes).length ≤ maxEntrySize) {n : Nat}
    (cut : n < e.contentOffset now) : Member.Flawed (Tape.ofBytes ((e.lead now).take n)) := by
  let payload := (e.records now).flatMap Record.bytes
  by_cases first : n < blockSize
  · refine Member.flawedShort ?_
    simp only [Tape.ofBytes, List.length_take]
    omega
  · by_cases none' : (e.records now).isEmpty
    · rw [contentOffset, if_pos none'] at cut
      contradiction
    · rw [contentOffset, if_neg none'] at cut
      let behind := Bytes.padTo blockSize payload ++ (e.header now).block
      have count : behind.length = Bytes.roundUp payload.length blockSize + blockSize := by
        rw [List.length_append, padToLength, Header.blockLength]
      have split' : (e.lead now).take n
          = (extendedHeader payload).block ++ behind.take (n - blockSize) := by
        rw [lead, extension, if_neg none', List.append_assoc, List.take_append,
          List.take_of_length_le (by rw [Header.blockLength]; omega), Header.blockLength]
      rw [split']
      -- What the cut leaves of the payload does not matter: no header stands behind it.
      refine Member.flawedExtended (extendsHeader bound 0 _) ?_
      have room : 0 < blockSize := by decide
      refine Member.flawedShort ?_
      simp only [Tape.skip, List.length_drop, List.length_take]
      omega

end Entry

theorem encodeWritten {e : Entry} {content archive : Bytes} {now : Int}
    (written : encode e content now = .ok archive) :
    (content.length : Int) = e.size ∧ e.size ≤ maxEntrySize ∧
    ((e.records now).flatMap Record.bytes).length ≤ maxEntrySize ∧
    ∃ fill, archive = e.lead now ++ (content ++ Bytes.zeros fill) := by
  have opened := written
  unfold encode Entry.checkSize at opened
  by_cases size : (content.length : Int) = e.size
  · rw [if_neg (by simp [size])] at opened
    by_cases small : e.size ≤ maxEntrySize
    · rw [if_neg (by omega)] at opened
      by_cases digits : (writable e.uid && writable e.gid && writable now) = true
      · simp only [digits, Bool.not_true, Bool.false_eq_true, if_false, bind, Except.bind] at opened
        cases refused : Text.unescapable? e.name with
        | some u =>
          rw [refused] at opened
          cases opened
        | none =>
          rw [refused] at opened
          by_cases bound : ((e.records now).flatMap Record.bytes).length ≤ maxEntrySize
          · obtain ⟨fill, layout⟩ :=
              encodeLayout size small digits (Text.unescapableNone.mp refused) bound
            exact ⟨size, small, bound, fill, Except.ok.inj (written.symm.trans layout)⟩
          · simp only [if_pos (Nat.not_le.mp bound)] at opened
            cases opened
      · simp [digits, bind, Except.bind, throw, throwThe, MonadExceptOf.throw] at opened
    · rw [if_pos (by omega)] at opened
      cases opened
  · rw [if_pos size] at opened
    cases opened

theorem leadReach {e : Entry} {content : Bytes} {now : Int}
    (size : (content.length : Int) = e.size) (small : e.size ≤ maxEntrySize)
    (bound : ((e.records now).flatMap Record.bytes).length ≤ maxEntrySize) :
    (e.lead now).length + content.length < 2 ^ 63 := by
  have length := leadLength bound
  have few : maxEntrySize + 4 * blockSize + maxEntrySize < 2 ^ 63 := by decide
  omega

theorem leadNeNil (e : Entry) (now : Int) : e.lead now ≠ [] := by
  intro none'
  have length := congrArg List.length none'
  rw [Entry.lead, List.length_append, Header.blockLength] at length
  simp [blockSize] at length

theorem decodeCutContent {e : Entry} {content part : Bytes} {now : Int}
    (size : (content.length : Int) = e.size) (small : e.size ≤ maxEntrySize)
    (bound : ((e.records now).flatMap Record.bytes).length ≤ maxEntrySize) :
    decode (e.lead now ++ part) = if content.length ≤ part.length
      then .ok (part.take content.length) else .error (.flaw .unexpectedEnd) := by
  have count : e.size.toNat = content.length := by omega
  have finds := Entry.leadFinds small bound 0 part
  rw [Nat.zero_add, count] at finds
  have some' : e.lead now ++ part ≠ [] := List.append_ne_nil_of_left_ne_nil (leadNeNil e now) _
  have reach := leadReach size small bound
  rw [decodeStored some' finds reach, List.length_append, Nat.add_sub_cancel_left, List.drop_left]

/-- An archive that is cut in front of the end of its content is told to be flawed; cut behind it,
it still gives the content. -/
theorem decodeCut {e : Entry} {content archive : Bytes} {now : Int}
    (written : encode e content now = .ok archive) (n : Nat) :
    content <+: archive.drop (e.contentOffset now) ∧
    (n < e.contentOffset now + content.length → ∃ f, decode (archive.take n) = .error (.flaw f)) ∧
    (e.contentOffset now + content.length ≤ n → decode (archive.take n) = .ok content) := by
  obtain ⟨size, small, bound, fill, rfl⟩ := encodeWritten written
  have offset := e.leadLengthOffset now
  have behind (far : e.contentOffset now ≤ n) :
      (e.lead now ++ (content ++ Bytes.zeros fill)).take n
        = e.lead now ++ (content ++ Bytes.zeros fill).take (n - e.contentOffset now) := by
    rw [List.take_append, List.take_of_length_le (by omega), offset]
  refine ⟨?_, ?_, ?_⟩
  · rw [← offset, List.drop_left]
    exact List.prefix_append _ _
  · intro cut
    by_cases header : n < e.contentOffset now
    · have front : (e.lead now ++ (content ++ Bytes.zeros fill)).take n = (e.lead now).take n := by
        rw [List.take_append_of_le_length (by omega)]
      rw [front]
      exact decodeFlawed (Entry.leadCut bound header)
    · refine ⟨.unexpectedEnd, ?_⟩
      rw [behind (by omega), decodeCutContent size small bound, if_neg]
      rw [List.length_take]
      omega
  · intro enough
    have kept : content.length ≤ n - e.contentOffset now := by omega
    have whole : ((content ++ Bytes.zeros fill).take (n - e.contentOffset now)).take content.length
        = content := by
      rw [List.take_take, Nat.min_eq_left kept, List.take_left]
    have room : content.length
        ≤ ((content ++ Bytes.zeros fill).take (n - e.contentOffset now)).length := by
      rw [List.length_take, List.length_append]
      omega
    rw [behind (by omega), decodeCutContent size small bound, if_pos room, whole]

theorem decodeCutUndecoded : ∃ archive,
    encode undecoded [1, 0, 255] 12345678901234 = .ok archive ∧
    undecoded.contentOffset 12345678901234 = 1536 ∧
    (∃ f, decode (archive.take 530) = .error (.flaw f)) ∧
    decode (archive.take 1539) = .ok [1, 0, 255] := by
  have offset : undecoded.contentOffset 12345678901234 = 1536 := by decide +kernel
  obtain ⟨fill, written⟩ := undecodedLayout
  have early := (decodeCut written 530).2.1 (by rw [offset]; decide)
  have late := (decodeCut written 1539).2.2 (by rw [offset]; decide)
  exact ⟨_, written, offset, early, late⟩

end ContainerDriver.Archive
