import ContainerDriver.Proofs.Archive.Chain
import ContainerDriver.Proofs.Archive.Truncation

/-! Where decoded content comes from. Its length is the size that the headers of the first member
give it, and unless they speak of sparse content it is the stretch of the archive behind the
member's own header. Behind a chain of headers that is forgotten the content is that of the next
member. -/
namespace ContainerDriver.Archive

structure Tape.Of (data : Bytes) (t : Tape) : Prop where
  rest : t.rest = data.drop t.position
  aligned : blockSize ∣ t.position ∨ t.rest = []

namespace Tape

theorem Of.spent {data : Bytes} {t : Tape} (inside : t.Of data) {n : Nat}
    (all : t.rest.length ≤ n) : (t.skip n).Of data := by
  have gone : t.rest.drop n = [] := List.drop_eq_nil_iff.mpr all
  refine ⟨?_, .inr gone⟩
  have length := congrArg List.length inside.rest
  rw [List.length_drop] at length
  simp only [Tape.skip, gone, Nat.min_eq_right all]
  rw [eq_comm, List.drop_eq_nil_iff]
  omega

theorem Of.skip {data : Bytes} {t : Tape} (inside : t.Of data) {n : Nat} (whole : blockSize ∣ n) :
    (t.skip n).Of data := by
  by_cases enough : n ≤ t.rest.length
  · obtain ⟨rest, aligned⟩ := inside
    refine ⟨?_, ?_⟩
    · simp only [Tape.skip, Nat.min_eq_left enough]
      rw [rest, List.drop_drop]
    · rcases aligned with at' | none'
      · left
        simp only [Tape.skip, Nat.min_eq_left enough]
        exact Nat.dvd_add at' whole
      · right
        simp only [Tape.skip, none', List.drop_nil]
  · exact inside.spent (by omega)

theorem Of.read {data : Bytes} {t t' : Tape} (inside : t.Of data) {n : Int} {bytes : Bytes}
    (read : t.read n = .ok (bytes, t')) (whole : (blockSize : Int) ∣ n) : t'.Of data := by
  unfold Tape.read at read
  split at read
  · cases read
  · split at read
    · cases read
      exact inside.spent (Nat.le_refl _)
    · next forward =>
      cases read
      refine inside.skip ?_
      rw [← Int.natCast_dvd_natCast, Int.toNat_of_nonneg (by omega)]
      exact whole

theorem ofBytesOf (data : Bytes) : (Tape.ofBytes data).Of data := ⟨rfl, .inl (Nat.dvd_zero _)⟩

end Tape

theorem wholeBlocksDvd (n : Int) : (blockSize : Int) ∣ wholeBlocks n := Int.dvd_mul_left _ _

namespace Member

theorem Leads.inside {data : Bytes} {t last : Tape} {chain : List Extension} {f : Fields}
    (leads : Leads t chain f last) (inside : t.Of data) : last.Of data := by
  induction leads with
  | own header plain => exact inside
  | extended ext kind holds behind ih =>
    exact ih ((inside.skip (Nat.dvd_refl _)).read ext.payload (wholeBlocksDvd _))

end Member

theorem Sparse.readStretchSource {data bytes : Bytes} {start size : Nat}
    (read : readStretch data ⟨0, size, some start⟩ 0 size = .ok bytes) :
    bytes = slice start size data := by
  have place : ((start : Int) + (0 - 0)).toNat = start := by omega
  simp only [readStretch, place] at read
  split at read
  · cases read
  · split at read
    · cases read
    · split at read
      · cases read
      · split at read <;> cases read
        rfl

theorem Member.contentSource {data content : Bytes} {m : Member} (extents : m.extents = none)
    (read : m.content data = .ok content) (whole : (content.length : Int) = m.size) :
    content = slice m.start content.length data := by
  by_cases none' : content.length = 0
  · rw [List.length_eq_zero_iff.mp none']
    rfl
  · rw [contentWhole extents whole.symm none'] at read
    exact Sparse.readStretchSource read

theorem decodeParts {data content : Bytes} (read : decode data = .ok content) :
    ∃ m, firstMember data = .ok m ∧ m.isRegular = true ∧ m.content data = .ok content ∧
      (content.length : Int) = m.size := by
  by_cases empty : data = []
  · rw [decode, if_pos empty] at read
    cases read
  · cases first : firstMember data with
    | error f => simp [decode, empty, first, bind, Except.bind] at read
    | ok m =>
      cases regular : m.isRegular with
      | false => simp [decode, empty, first, regular, bind, Except.bind, throw, throwThe,
          MonadExceptOf.throw] at read
      | true =>
        cases got : m.content data with
        | error f => simp [decode, empty, first, regular, got, bind, Except.bind] at read
        | ok bytes =>
          simp only [decode, if_neg empty, first, regular, got, bind, Except.bind, Bool.not_true,
            Bool.false_eq_true, if_false] at read
          split at read
          · cases read
          · next whole =>
            cases read
            exact ⟨m, rfl, regular, got, Decidable.not_not.mp whole⟩

/-- Content that is stored whole, right behind the header block of a plain file whose sum is
right. -/
structure Stands (data content : Bytes) (k : Nat) : Prop where
  positive : 0 < k
  aligned : blockSize ∣ k
  inside : k + content.length ≤ data.length
  content : content = slice k content.length data
  sum : ∃ n : Int, Fields.numberAt (slice (k - blockSize) blockSize data) 148 8 = .ok n ∧
    (n = Fields.unsignedSum (slice (k - blockSize) blockSize data) ∨
      n = Fields.signedSum (slice (k - blockSize) blockSize data))
  flag : ((slice (k - blockSize) blockSize data).drop 156).headD 0 ∈
    [Flag.regular, Flag.contiguous, Flag.oldRegular]

theorem plainFlag {flag : UInt8} {name : Bytes}
    (regular : Flag.isRegular (Fields.effectiveFlag flag name) = true)
    (plain : Fields.effectiveFlag flag name ≠ Flag.sparse) :
    flag ∈ [Flag.regular, Flag.contiguous, Flag.oldRegular] := by
  unfold Fields.effectiveFlag at regular plain
  split at regular
  · exact absurd regular (by decide)
  · next other =>
    rw [if_neg other] at plain
    simp only [Flag.isRegular, List.contains_eq_mem, decide_eq_true_eq, List.mem_cons,
      List.not_mem_nil, or_false] at regular ⊢
    rcases regular with same | same | same | same
    · exact .inl same
    · exact .inr (.inr same)
    · exact .inr (.inl same)
    · exact absurd same plain

theorem Member.Leads.stands {data content : Bytes} {chain : List Extension} {f : Fields}
    {last : Tape} {m : Member} (leads : Leads (Tape.ofBytes data) chain f last)
    (plain : f.flag ≠ Flag.sparse) (regular : Flag.isRegular f.flag = true)
    (extents : m.extents = none) (start : m.start = (last.skip blockSize).position)
    (read : m.content data = .ok content) (whole : (content.length : Int) = m.size) :
    Stands data content (last.position + blockSize) := by
  obtain ⟨rest, aligned⟩ := leads.inside (Tape.ofBytesOf data)
  obtain ⟨sum, flag, -⟩ := Fields.ofBlockSource leads.header
  have full := Fields.ofBlockLength leads.header
  rw [List.length_take] at full
  have behind : m.start = last.position + blockSize := by
    rw [start]
    simp only [Tape.skip]
    omega
  have block : slice (last.position + blockSize - blockSize) blockSize data
      = last.rest.take blockSize := by
    rw [Nat.add_sub_cancel, slice, rest]
  have source := contentSource extents read whole
  rw [behind] at source
  have count := congrArg List.length rest
  have taken := congrArg List.length source
  rw [List.length_drop] at count
  rw [slice, List.length_take, List.length_drop] at taken
  have more : 0 < blockSize := by decide
  refine ⟨by omega, ?_, by omega, source, block ▸ sum, ?_⟩
  · rcases aligned with at' | none'
    · exact Nat.dvd_add at' (Nat.dvd_refl _)
    · rw [none', List.length_nil] at full
      omega
  · rw [block]
    rw [flag] at regular plain
    exact plainFlag regular plain

theorem firstMemberSource {data : Bytes} {m : Member} (first : firstMember data = .ok m) :
    ∃ chain f last, Member.Leads (Tape.ofBytes data) chain f last ∧
      (¬ Member.BadExtents chain → ∃ found, found.member = m ∧
        Member.Source [] chain f last found) := by
  unfold firstMember at first
  split at first
  · next found read =>
    cases first
    obtain ⟨chain, f, last, leads, source⟩ := Member.findSource read
    exact ⟨chain, f, last, leads, fun _ => ⟨found, rfl, source⟩⟩
  · cases first
  · cases first
  · cases first
  · cases first
  · next r bad =>
    obtain ⟨chain, f, last, leads, unread⟩ := Member.findBad bad
    exact ⟨chain, f, last, leads, fun sound => absurd unread sound⟩
  · cases first

/-- The content that is decoded has the size that all headers of the first member give it, unless
the outermost of them lists extents that are no numbers. If none of them speaks of sparse content it
is the stretch of the archive behind the member's header. A copy appends what is decoded, or
nothing. -/
theorem decodeOrigin (data dest : Bytes) :
    (∀ content, decode data = .ok content →
      copy data dest = (.ok content.length, dest ++ content) ∧
      ∃ chain f last, Member.Leads (Tape.ofBytes data) chain f last ∧
        (¬ Member.BadExtents chain →
          (content.length : Int) = Member.effectiveSize [] chain f) ∧
        (Member.SparseFree chain → f.flag ≠ Flag.sparse →
          Stands data content (last.position + blockSize))) ∧
    (∀ fault, decode data = .error fault → copy data dest = (.error fault, dest)) := by
  refine ⟨fun content read => ⟨by rw [copy, read], ?_⟩, fun fault bad => by rw [copy, bad]⟩
  obtain ⟨m, first, regular, got, whole⟩ := decodeParts read
  obtain ⟨chain, f, last, leads, source⟩ := firstMemberSource first
  refine ⟨chain, f, last, leads, fun sound => ?_, fun free plain => ?_⟩
  · obtain ⟨found, rfl, owed⟩ := source sound
    exact whole.trans owed.size
  · obtain ⟨found, rfl, owed⟩ := source free.sound
    have lead := (Fields.ofBlockSource leads.header).2.2 plain
    obtain ⟨extents, start⟩ := owed.stored (by simp [Attributes.SparseFree]) free lead
    have flag : Flag.isRegular f.flag = true := owed.flag ▸ regular
    exact leads.stands plain flag extents start got whole

theorem leadsRecords {rs : List Record} {h : Header} (some' : rs.isEmpty = false)
    (sound : ∀ r ∈ rs, r.Sound) (bound : (rs.flatMap Record.bytes).length ≤ maxEntrySize)
    (fits : h.Fits) (plain : h.Plain) (kind : Kind.ofFlag h.flag = .plain) (rest : Bytes) :
    Member.Leads (Tape.ofBytes (extension rs ++ (h.block ++ rest))) [⟨.attributes, rs⟩] h.fields
      ⟨(extension rs).length, h.block ++ rest⟩ := by
  let payload := rs.flatMap Record.bytes
  have written : extension rs
      = (extendedHeader payload).block ++ Bytes.padTo blockSize payload := by
    rw [extension, some', if_neg (by decide)]
  have ext := extendsHeader bound 0 (Bytes.padTo blockSize payload ++ (h.block ++ rest))
  rw [Tape.skipAppend (padToLength payload), ← padToLength payload, List.take_left] at ext
  have holds : Extension.Holds ⟨.attributes, rs⟩ (Bytes.padTo blockSize payload) :=
    .records (by simp) (parsePadded sound bound)
  rw [written, List.append_assoc, List.length_append, Header.blockLength]
  rw [Nat.zero_add] at ext
  refine .extended ext rfl holds (.own ?_ fun _ => kind)
  rw [← h.blockLength, List.take_left]
  exact Header.ofBlockBlock fits plain

def file (name content : String) : Header :=
  ⟨Bytes.ofAscii name, 0o644, 0, 0, content.length, 0, Flag.regular⟩

def File.bytes (name content : String) : Bytes :=
  (file name content).block ++ Bytes.padTo blockSize (Bytes.ofAscii content)

def threeBytes : List Record := [⟨Bytes.ofAscii "size", Bytes.ofAscii "3"⟩]

def shortened : Bytes := extension threeBytes ++ File.bytes "first" "first"

theorem decodeOriginShortened : decode shortened = .ok (Bytes.ofAscii "fir") ∧
    copy shortened [7] = (.ok 3, 7 :: Bytes.ofAscii "fir") ∧
    Stands shortened (Bytes.ofAscii "fir") 1536 := by
  have read : decode shortened = .ok (Bytes.ofAscii "fir") := by decide +kernel
  have sound : ∀ r ∈ threeBytes, r.Sound := by
    simp only [threeBytes, List.mem_singleton, forall_eq]
    exact ⟨by decide, by decide⟩
  have free : Member.SparseFree [⟨.attributes, threeBytes⟩] := by
    simp only [Member.SparseFree, threeBytes, List.mem_singleton, forall_eq]
    decide
  have place : (extension threeBytes).length + blockSize = 1536 := by decide +kernel
  have leads := @leadsRecords _ (file "first" "first") rfl sound (by decide +kernel)
    ⟨by decide, by decide, by decide, by decide, by decide⟩ ⟨by decide, by decide, by decide⟩
    (by decide) (Bytes.padTo blockSize (Bytes.ofAscii "first"))
  obtain ⟨copied, chain, f, last, own, -, stored⟩ := (decodeOrigin shortened [7]).1 _ read
  rw [shortened, File.bytes] at own
  obtain ⟨rfl, rfl, rfl⟩ := own.unique leads
  have stands := stored free (by decide)
  dsimp only at stands
  rw [place] at stands
  exact ⟨read, copied, stands⟩

def unplaced : List Record :=
  [⟨Bytes.ofAscii "GNU.sparse.size", Bytes.ofAscii "7"⟩,
    ⟨Bytes.ofAscii "GNU.sparse.offset", Bytes.ofAscii "x"⟩]

def skipping : Bytes :=
  extension unplaced ++ (File.bytes "first" "first" ++ File.bytes "second" "two")

theorem skippingForeign : decode skipping = .ok (Bytes.ofAscii "two") ∧
    ¬ ∃ chain f last, Member.Leads (Tape.ofBytes skipping) chain f last ∧
      ((Bytes.ofAscii "two").length : Int) = Member.effectiveSize [] chain f := by
  refine ⟨by decide +kernel, ?_⟩
  rintro ⟨chain, f, last, own, size⟩
  have sound : ∀ r ∈ unplaced, r.Sound := by
    simp only [unplaced, List.mem_cons, List.not_mem_nil, or_false, forall_eq_or_imp, forall_eq]
    exact ⟨⟨by decide, by decide⟩, by decide, by decide⟩
  have leads := @leadsRecords _ (file "first" "first") rfl sound (by decide +kernel)
    ⟨by decide, by decide, by decide, by decide, by decide⟩ ⟨by decide, by decide, by decide⟩
    (by decide) (Bytes.padTo blockSize (Bytes.ofAscii "first") ++ File.bytes "second" "two")
  rw [skipping, File.bytes, List.append_assoc] at own
  obtain ⟨rfl, rfl, rfl⟩ := own.unique leads
  revert size
  decide +kernel

end ContainerDriver.Archive
