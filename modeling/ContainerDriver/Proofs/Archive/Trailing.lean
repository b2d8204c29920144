import ContainerDriver.Proofs.Archive.Origin
import ContainerDriver.Proofs.Archive.Unguarded

/-! Bytes behind an archive. A run that ends with a member has read whole header blocks and whole
payloads only, so it reads the same on a longer tape; and unless the headers speak of sparse content
they decide by themselves what the content is. -/
namespace ContainerDriver.Archive

namespace Tape

def followed (t : Tape) (s : Bytes) : Tape := ⟨t.position, t.rest ++ s⟩

theorem skipFollowed {t : Tape} {n : Nat} (enough : n ≤ t.rest.length) (s : Bytes) :
    (t.followed s).skip n = (t.skip n).followed s := by
  have longer : n ≤ (t.rest ++ s).length := by
    rw [List.length_append]
    omega
  simp only [followed, skip, Nat.min_eq_left enough, Nat.min_eq_left longer,
    List.drop_append_of_le_length enough]

theorem readFollowed {t t' : Tape} {n : Int} {bytes : Bytes} (read : t.read n = .ok (bytes, t'))
    (more : t'.rest ≠ []) (s : Bytes) :
    (t.followed s).read n = .ok (bytes, t'.followed s) := by
  unfold Tape.read at read ⊢
  split at read
  · cases read
  · next near =>
    rw [if_neg near]
    split at read
    · cases read
      exact absurd List.drop_length more
    · next forward =>
      cases read
      have enough : n.toNat ≤ t.rest.length := by
        by_contra beyond
        exact more (List.drop_eq_nil_iff.mpr (by omega))
      rw [if_neg forward, skipFollowed enough, followed, List.take_append_of_le_length enough]

end Tape

theorem Fields.blockInside {rest : Bytes} {f : Fields}
    (header : Fields.ofBlock (rest.take blockSize) = .ok f) : blockSize ≤ rest.length := by
  have full := Fields.ofBlockLength header
  rw [List.length_take] at full
  omega

theorem Attributes.SparseFree.applies {a : Attributes} (free : a.SparseFree) (m : Member) :
    ∃ n, a.apply m = .ok n := by
  have readable : ¬ a.Unreadable := by
    rintro ⟨kv, mem, word, -⟩
    refine free kv mem ?_
    rcases word with same | same <;> rw [same] <;> decide
  cases applied : a.apply m with
  | ok n => exact ⟨n, rfl⟩
  | error f => exact absurd (Attributes.applyFails.mp ⟨f, applied⟩) readable

namespace Member

variable {t t' last : Tape} {chain : List Extension} {f : Fields} {buffer : Bytes}

theorem Extends.followed (ext : Extends t f buffer t') (more : t'.rest ≠ []) (s : Bytes) :
    Extends (t.followed s) f buffer (t'.followed s) := by
  have inside := Fields.blockInside ext.header
  refine ⟨?_, ext.extents, ext.kind, ?_⟩
  · rw [Tape.followed, List.take_append_of_le_length inside]
    exact ext.header
  · rw [Tape.skipFollowed inside]
    exact Tape.readFollowed ext.payload more s

theorem Leads.nonempty (leads : Leads t chain f last) : t.rest ≠ [] := by
  have some' {rest : Bytes} {f : Fields}
      (header : Fields.ofBlock (rest.take blockSize) = .ok f) : rest ≠ [] := by
    rintro rfl
    exact absurd (Fields.blockInside header) (by decide)
  cases leads with
  | own header plain => exact some' header
  | extended ext kind holds behind => exact some' ext.header

theorem Leads.followed (leads : Leads t chain f last) (s : Bytes) :
    Leads (t.followed s) chain f (last.followed s) := by
  induction leads with
  | own header plain =>
    refine .own ?_ plain
    rw [Tape.followed, List.take_append_of_le_length (Fields.blockInside header)]
    exact header
  | extended ext kind holds behind ih =>
    exact .extended (ext.followed behind.nonempty s) kind holds ih

theorem Leads.finds (leads : Leads t chain f last) (free : SparseFree chain)
    (plain : f.flag ≠ Flag.sparse) {globals : Attributes} (clean : globals.SparseFree) :
    ∃ found, find globals t = .ok found ∧ found.resume.globals.SparseFree := by
  induction leads generalizing globals with
  | @own t f header kind =>
    have dense := (Fields.ofBlockSource header).2.2 plain
    obtain ⟨m, applied⟩ := clean.applies (ofFields f (t.skip blockSize).position)
    have read : find globals t = .ok ⟨m.trimDirectory, ⟨globals, t.skip blockSize,
        (t.skip blockSize).position + span f.flag f.size⟩⟩ := by
      rw [findPlain header dense (kind dense), Member.plain, applied]
    exact ⟨_, read, clean⟩
  | @extended t f buffer t' x chain g last ext kind holds behind ih =>
    obtain ⟨own, later⟩ := sparseFreeCons free
    rw [Extension.Holds, kind] at holds
    rw [findOfExtends ext, findPast]
    split at holds
    · next named =>
      obtain ⟨found, read, shared⟩ := ih later plain clean
      rw [if_pos named, read]
      exact ⟨_, rfl, shared⟩
    · next named =>
      have all : (globals.add x.records).SparseFree := clean.add own
      rw [if_neg named, holds]
      by_cases common : Kind.ofFlag f.flag = .globals
      · obtain ⟨found, read, shared⟩ := ih later plain all
        simp only [if_pos common, read, describeFree shared]
        exact ⟨found, rfl, shared⟩
      · obtain ⟨found, read, shared⟩ := ih later plain clean
        obtain ⟨m, applied⟩ := all.applies found.member
        simp only [if_neg common, read, describeFree all, describe, applied]
        exact ⟨_, rfl, shared⟩

theorem SameContent.content {data : Bytes} {m n : Member} (same : Attributes.SameContent m n) :
    m.content data = n.content data := by
  simp only [Member.content, same.size, same.start, same.extents]

theorem contentFollowed {data content : Bytes} {m : Member} (extents : m.extents = none)
    (read : m.content data = .ok content) (whole : (content.length : Int) = m.size) (s : Bytes) :
    m.content (data ++ s) = .ok content := by
  by_cases none' : content.length = 0
  · rw [Member.content, ← whole, none', Sparse.readStretches, if_pos (by decide),
      List.length_eq_zero_iff.mp none']
  · have source := contentSource extents read whole
    have taken := congrArg List.length source
    rw [slice, List.length_take, List.length_drop] at taken
    rw [contentWhole extents whole.symm none'] at read ⊢
    have again : ((data ++ s).drop m.start).take content.length
        = (data.drop m.start).take content.length := by
      rw [List.drop_append_of_le_length (by omega),
        List.take_append_of_le_length (by rw [List.length_drop]; omega)]
    have place : ((m.start : Int) + (0 - 0)).toNat = m.start := by omega
    simp only [Sparse.readStretch, place, again] at read ⊢
    exact read

end Member

/-- The headers of the first member speak of sparse content. -/
def Sparsely (data : Bytes) : Prop :=
  ∃ chain f last, Member.Leads (Tape.ofBytes data) chain f last ∧
    (f.flag = Flag.sparse ∨ ¬ Member.SparseFree chain)

theorem Sparsely.followed {data : Bytes} (sparsely : Sparsely data) (s : Bytes) :
    Sparsely (data ++ s) := by
  obtain ⟨chain, f, last, leads, speaks⟩ := sparsely
  exact ⟨chain, f, last.followed s, leads.followed s, speaks⟩

theorem decodeOfParts {data content : Bytes} {m : Member} (first : firstMember data = .ok m)
    (regular : m.isRegular = true) (got : m.content data = .ok content)
    (whole : (content.length : Int) = m.size) : decode data = .ok content := by
  have some' : data ≠ [] := by
    rintro rfl
    cases firstMemberEmpty.symm.trans first
  simp only [decode, if_neg some', first, regular, got, whole, bind, Except.bind, pure,
    Except.pure, Bool.not_true, Bool.false_eq_true, if_false, ne_eq, not_true_eq_false]

theorem decodeFollowed {data content : Bytes} (read : decode data = .ok content)
    (dense : ¬ Sparsely data) (s : Bytes) : decode (data ++ s) = .ok content := by
  obtain ⟨m, first, regular, got, whole⟩ := decodeParts read
  obtain ⟨chain, f, last, leads, source⟩ := firstMemberSource first
  have free : Member.SparseFree chain := by
    by_contra speaks
    exact dense ⟨chain, f, last, leads, .inr speaks⟩
  have plain : f.flag ≠ Flag.sparse := fun sparse => dense ⟨chain, f, last, leads, .inl sparse⟩
  have lead : f.sparse = none := (Fields.ofBlockSource leads.header).2.2 plain
  have clean : Attributes.SparseFree [] := by simp [Attributes.SparseFree]
  obtain ⟨found, rfl, owed⟩ := source free.sound
  obtain ⟨extents, start⟩ := owed.stored clean free lead
  obtain ⟨found', read', -⟩ := (leads.followed s).finds free plain clean
  -- The headers on the longer tape are the same, so its member is the same but for the name.
  obtain ⟨chain', f', last', leads', owed'⟩ := Member.findSource read'
  obtain ⟨rfl, rfl, rfl⟩ := leads'.unique (leads.followed s)
  obtain ⟨extents', start'⟩ := owed'.stored clean free lead
  have same : Attributes.SameContent found'.member found.member :=
    { size := owed'.size.trans owed.size.symm
      start := by
        rw [start', start, Tape.skipFollowed (Fields.blockInside leads.header)]
        rfl
      flag := owed'.flag.trans owed.flag.symm
      extents := extents'.trans extents.symm }
  have first' : firstMember (data ++ s) = .ok found'.member := by
    rw [firstMember, show Tape.ofBytes (data ++ s) = (Tape.ofBytes data).followed s from rfl, read']
  have regular' : found'.member.isRegular = true := by
    rw [Member.isRegular, same.flag]
    exact regular
  refine decodeOfParts first' regular' ?_ (whole.trans same.size.symm)
  rw [Member.SameContent.content same]
  exact Member.contentFollowed extents got whole s

/-- Bytes behind an archive are ignored unless its first member is sparse: what is decoded is decoded
again whatever follows, and a part of an archive fails or gives what the whole archive gives. -/
theorem trailingIgnored (data : Bytes) (dense : ¬ Sparsely data) :
    (∀ content, decode data = .ok content → ∀ s, decode (data ++ s) = .ok content) ∧
    ∀ n, (∃ fault, decode (data.take n) = .error fault) ∨ decode (data.take n) = decode data := by
  refine ⟨fun content read s => decodeFollowed read dense s, fun n => ?_⟩
  cases read : decode (data.take n) with
  | error fault => exact .inl ⟨fault, rfl⟩
  | ok content =>
    have part : ¬ Sparsely (data.take n) := fun sparsely =>
      dense (List.take_append_drop n data ▸ sparsely.followed (data.drop n))
    have whole := decodeFollowed read part (data.drop n)
    rw [List.take_append_drop] at whole
    exact .inr whole.symm

theorem recordsDense {rs : List Record} {h : Header} (some' : rs.isEmpty = false)
    (sound : ∀ r ∈ rs, r.Sound) (bound : (rs.flatMap Record.bytes).length ≤ maxEntrySize)
    (free : ∀ r ∈ rs, ¬ Attributes.key "GNU.sparse." <+: r.keyword) (fits : h.Fits)
    (plain : h.Plain) (kind : Kind.ofFlag h.flag = .plain) (rest : Bytes) :
    ¬ Sparsely (extension rs ++ (h.block ++ rest)) := by
  rintro ⟨chain, f, last, leads, speaks⟩
  obtain ⟨rfl, rfl, -⟩ := leads.unique (leadsRecords some' sound bound fits plain kind rest)
  rcases speaks with sparse | speaks
  · exact plain.2.1 sparse
  · refine speaks fun x mem => ?_
    cases List.mem_singleton.mp mem
    exact free

theorem trailingIgnoredShortened : ¬ Sparsely shortened ∧
    decode (shortened ++ [1, 2, 3]) = .ok (Bytes.ofAscii "fir") ∧
    ((∃ fault, decode (shortened.take 1540) = .error fault) ∨
      decode (shortened.take 1540) = .ok (Bytes.ofAscii "fir")) := by
  have read : decode shortened = .ok (Bytes.ofAscii "fir") := by decide +kernel
  have dense : ¬ Sparsely shortened := by
    refine recordsDense rfl ?_ (by decide +kernel) ?_ ⟨by decide, by decide, by decide, by decide,
      by decide⟩ ⟨by decide, by decide, by decide⟩ (by decide) _
    · simp only [threeBytes, List.mem_singleton, forall_eq]
      exact ⟨by decide, by decide⟩
    · simp only [threeBytes, List.mem_singleton, forall_eq]
      decide
  obtain ⟨followed, cut⟩ := trailingIgnored shortened dense
  exact ⟨dense, followed _ read [1, 2, 3], read ▸ cut 1540⟩

end ContainerDriver.Archive
