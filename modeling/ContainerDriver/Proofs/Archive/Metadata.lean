import ContainerDriver.Proofs.Archive.Truncation

/-! What the first member of a written archive is: the fields of the entry's header with the records
of its extended header applied to them. An entry whose name and owner fit the header block is read
back as it was, since its only record can be that of the clock. -/
namespace ContainerDriver.Archive

namespace Attributes

def applied : List Bytes :=
  ["GNU.sparse.name", "GNU.sparse.size", "GNU.sparse.realsize", "path", "size", "uid", "gid"].map key

theorem applyOneAside {keyword : Bytes} (aside : keyword ∉ applied) (m : Member) (value : Bytes) :
    applyOne m keyword value = .ok m := by
  simp only [applied, List.map_cons, List.map_nil, List.mem_cons, List.not_mem_nil, or_false,
    not_or] at aside
  obtain ⟨name, size, real, path, plain, uid, gid⟩ := aside
  simp only [applyOne, name, size, real, path, plain, uid, gid, or_self, if_false]

theorem applyAside {a : Attributes} (aside : ∀ kv ∈ a, kv.1 ∉ applied) (m : Member) :
    a.apply m = .ok m := by
  induction a with
  | nil => rfl
  | cons e rest ih =>
    have later := ih fun kv mem => aside kv (List.mem_cons_of_mem _ mem)
    rw [apply, List.foldlM_cons, applyOneAside (aside e List.mem_cons_self)]
    exact later

end Attributes

namespace Member

def Gives (t : Tape) (m : Member) : Prop := ∃ resume, find [] t = .ok ⟨m, resume⟩

theorem givesFile {h : Header} (fits : h.Fits) (regular : h.flag = Flag.regular) (position : Nat)
    (rest : Bytes) :
    Gives ⟨position, h.block ++ rest⟩ (ofFields h.fields (position + blockSize)) := by
  have plain : h.Plain := by
    rw [Header.Plain, regular]
    decide
  have kind : Kind.ofFlag h.fields.flag = .plain := by
    rw [Header.fields, regular]
    rfl
  have read : Fields.ofBlock ((h.block ++ rest).take blockSize) = .ok h.fields := by
    rw [← h.blockLength, List.take_left, Header.ofBlockBlock fits plain]
  have kept : (ofFields h.fields (position + blockSize)).trimDirectory =
      ofFields h.fields (position + blockSize) := by
    have other : h.fields.flag ≠ Flag.directory := plain.2.2
    simp [trimDirectory, isDirectory, ofFields, other]
  have found := @findPlain [] ⟨position, h.block ++ rest⟩ _ read rfl kind
  rw [Member.plain, Tape.skipAppend h.blockLength] at found
  simp only [Attributes.apply, List.foldlM_nil, pure, Except.pure, kept] at found
  exact ⟨_, found⟩

theorem givesDescribed {rs : List Record} (sound : ∀ r ∈ rs, r.Sound)
    (free : (Attributes.add [] rs).SparseFree)
    (bound : (rs.flatMap Record.bytes).length ≤ maxEntrySize) {position : Nat} {rest : Bytes}
    {m n : Member} (behind : Gives ⟨position + (extension rs).length, rest⟩ m)
    (described : (Attributes.add [] rs).apply m = .ok n) :
    Gives ⟨position, extension rs ++ rest⟩ n := by
  -- Without records there is no extended header.
  by_cases none' : rs.isEmpty
  · cases List.isEmpty_iff.mp none'
    cases described
    exact behind
  · let padded := Bytes.padTo blockSize (rs.flatMap Record.bytes)
    have length : padded.length = Bytes.roundUp (rs.flatMap Record.bytes).length blockSize :=
      padToLength _
    have first : find [] _ = _ := findOfExtends (extendsHeader bound position (padded ++ rest))
    have kind : Kind.ofFlag (extendedHeader (rs.flatMap Record.bytes)).fields.flag = .attributes :=
      rfl
    have parsed : Record.parse? padded = some rs := parsePadded sound bound
    obtain ⟨resume, found⟩ := behind
    simp only [extension, if_neg none', List.length_append, Header.blockLength, ← Nat.add_assoc]
      at found ⊢
    rw [kind, ← length, List.take_left, Tape.skipAppend rfl] at first
    simp only [findPast, parsed, found, describeFree free, describe, described, reduceCtorEq,
      or_self, if_false, padded] at first
    rw [List.append_assoc]
    exact ⟨_, first⟩

end Member

theorem Entry.recordsFree (e : Entry) (now : Int) :
    (Attributes.add [] (e.records now)).SparseFree :=
  Attributes.AllQuiet.sparseFree
    (Attributes.keysAdd Attributes.allQuietNil fun _ mem => Entry.recordQuiet mem)

theorem firstMemberWritten {e : Entry} {content archive : Bytes} {now : Int}
    (written : encode e content now = .ok archive) {m : Member}
    (described : (Attributes.add [] (e.records now)).apply
      (Member.ofFields (e.header now).fields (e.lead now).length) = .ok m) :
    firstMember archive = .ok m := by
  obtain ⟨-, small, bound, fill, rfl⟩ := encodeWritten written
  have fits : (e.header now).Fits := e.headerFits small
  have file := Member.givesFile fits rfl (0 + (extension (e.records now)).length)
    (content ++ Bytes.zeros fill)
  have length : (e.lead now).length = 0 + (extension (e.records now)).length + blockSize := by
    rw [Entry.lead, List.length_append, Header.blockLength, Nat.zero_add]
  rw [← length] at file
  obtain ⟨resume, found⟩ := Member.givesDescribed (fun r mem => Entry.recordSound mem)
    (e.recordsFree now) bound file described
  rw [firstMember, Tape.ofBytes, Entry.lead, List.append_assoc, found]

theorem decodeWritten {e : Entry} {content archive : Bytes} {now : Int}
    (written : encode e content now = .ok archive) : decode archive = .ok content := by
  obtain ⟨size, small, bound, fill, rfl⟩ := encodeWritten written
  have room : content.length ≤ (content ++ Bytes.zeros fill).length := by simp
  rw [decodeCutContent size small bound, if_pos room, List.take_left]

theorem shortNamePlain {name : String} (plain : Entry.needsPath name = false)
    (clean : '\x00' ∉ name.toList) :
    Bytes.untilZero (Field.text 100 (Entry.shortName name)) = Bytes.ofAscii name := by
  have ascii : ∀ c ∈ name.toList, c.toNat < 0x80 := fun c mem =>
    Entry.plainCode plain _ (List.mem_map_of_mem mem)
  have short : name.toList.length ≤ 100 := by
    simp only [Entry.needsPath, Bool.or_eq_false_iff, decide_eq_false_iff_not, not_lt,
      Text.ofString, List.length_map] at plain
    exact plain.2
  have whole : Entry.shortName name = Bytes.ofAscii name := by
    rw [Entry.shortName, Text.ofString, List.take_of_length_le (by rwa [List.length_map]),
      List.map_map, Bytes.ofAscii]
    exact List.map_congr_left fun c mem => if_pos (ascii c mem)
  have nonzero : ∀ x ∈ Bytes.ofAscii name, x ≠ 0 := by
    intro x mem zero
    obtain ⟨c, inside, same⟩ := List.mem_map.mp mem
    have code : c.toNat < 0x80 := ascii c inside
    have value := congrArg UInt8.toNat (same.trans zero)
    rw [UInt8.toNat_ofNat_of_lt' (by change _ < 256; omega)] at value
    have nul : c = '\x00' := Char.ext (UInt32.toNat_inj.mp value)
    exact clean (nul ▸ inside)
  have count : (Bytes.ofAscii name).length ≤ 100 := by
    rw [Bytes.ofAscii, List.length_map]
    exact short
  rw [whole, Field.text, List.take_of_length_le count, Bytes.untilZero,
    List.takeWhile_append_of_pos (by simpa using nonzero)]
  simp [Bytes.zeros]

structure Member.IsFile (m : Member) (name : String) (mode : Int) : Prop where
  regular : m.isRegular = true
  name : m.name = Bytes.ofAscii name
  mode : m.mode = mode
  uid : m.uid = 0
  gid : m.gid = 0

theorem firstMemberPlain {name : String} {content archive : Bytes} {mode : Option Int} {now : Int}
    (plain : Entry.needsPath name = false) (clean : '\x00' ∉ name.toList)
    (written : encode { name, size := content.length, mode } content now = .ok archive) :
    ∃ m, firstMember archive = .ok m ∧ m.IsFile name (mode.getD defaultMode % 0o10000) := by
  have owner : Field.fits 8 0 = true := by decide
  obtain ⟨charset, path⟩ := Entry.plainRecords plain
  have clock : ∀ kv ∈ Attributes.add []
      (Entry.records { name, size := content.length, mode } now), kv.1 ∉ Attributes.applied := by
    refine @Attributes.keysAdd (· ∉ Attributes.applied) [] _ (by simp) fun r mem => ?_
    simp only [Entry.records, charset, path, Entry.numberRecord, owner, if_true,
      List.nil_append] at mem
    split at mem
    · simp at mem
    · have aside : Bytes.ofAscii "mtime" ∉ Attributes.applied := by decide
      rwa [List.mem_singleton.mp mem]
  refine ⟨_, firstMemberWritten written (Attributes.applyAside clock _), ?_⟩
  exact {
    regular := rfl
    name := shortNamePlain plain clean
    mode := by
      simp only [Member.ofFields, Header.fields, Entry.header, Entry.permissions]
      omega
    uid := rfl
    gid := rfl }

end ContainerDriver.Archive
