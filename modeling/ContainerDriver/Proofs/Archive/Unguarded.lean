import ContainerDriver.Archive.Decode
import ContainerDriver.Proofs.Archive.Mishaps

/-! Byte strings on which the decoder fails otherwise than by a flaw of the archive: the headers
stray, reading is resumed out of reach, or the content of a sparse member gets lost. -/
namespace ContainerDriver.Archive

namespace Sparse

def Stretch.share (s : Stretch) (position : Int) (remaining : Nat) : Nat :=
  min remaining (s.behind - position).toNat

def Stretch.Unfit (s : Stretch) (position : Int) (length : Nat) : Prop :=
  match s.stored with
  | none => room ≤ length
  | some stored =>
    Tape.inReach (stored + (position - s.first)) = false ∨ stored + (position - s.first) < 0 ∨
      Tape.inReach length = false

theorem readStretchFails (data : Bytes) (s : Stretch) (position : Int) (length : Nat) :
    (∃ m, readStretch data s position length = .error (.mishap m)) ↔ s.Unfit position length := by
  unfold readStretch Stretch.Unfit
  cases s.stored with
  | none =>
    dsimp only
    by_cases near : Tape.inReach length = true
    · simp only [near, Bool.not_true, Bool.false_eq_true, if_false]
      by_cases long : room ≤ length <;> simp [long]
    · have range : ¬(-Tape.reach ≤ (length : Int) ∧ (length : Int) < Tape.reach) :=
        fun h => near ((Tape.inReachRange _).mpr h)
      simp only [Tape.reach, room, Nat.pow_eq] at range ⊢
      simp only [near]
      simp
      omega
  | some stored =>
    dsimp only
    cases near : Tape.inReach (stored + (position - s.first)) with
    | false => simp
    | true =>
      by_cases negative : stored + (position - s.first) < 0
      · simp [negative]
      · cases short : Tape.inReach length with
        | false => simp [negative]
        | true =>
          simp only [negative, Bool.not_true, Bool.false_eq_true, if_false, Bool.true_eq_false,
            false_or, iff_false]
          rintro ⟨m, bad⟩
          split at bad <;> cases bad

inductive Lost (data : Bytes) : List Stretch → Int → Nat → Prop where
  | uncovered {ring position remaining} (more : remaining ≠ 0)
      (gone : turn position ring = none) : Lost data ring position remaining
  | here {ring position remaining s ring'} (more : remaining ≠ 0)
      (turned : turn position ring = some (s, ring'))
      (unfit : s.Unfit position (s.share position remaining)) : Lost data ring position remaining
  | later {ring position remaining s ring' bytes} (more : remaining ≠ 0)
      (turned : turn position ring = some (s, ring'))
      (read : readStretch data s position (s.share position remaining) = .ok bytes)
      (behind : Lost data ring' (position + s.share position remaining)
        (remaining - s.share position remaining)) : Lost data ring position remaining

theorem readStretchesStep {data : Bytes} {ring ring' : List Stretch} {position : Int}
    {remaining : Nat} {s : Stretch} (more : remaining ≠ 0)
    (turned : turn position ring = some (s, ring')) : readStretches data ring position remaining =
    match readStretch data s position (s.share position remaining) with
    | .error f => .error f
    | .ok bytes =>
      match readStretches data ring' (position + s.share position remaining)
        (remaining - s.share position remaining) with
      | .error f => .error f
      | .ok rest => .ok (bytes ++ rest) := by
  rw [readStretches, if_neg more]
  split
  · next gone => simp [turned] at gone
  · next turned' =>
    cases turned.symm.trans turned'
    rfl

theorem readStretchesUncovered {data : Bytes} {ring : List Stretch} {position : Int}
    {remaining : Nat} (more : remaining ≠ 0) (gone : turn position ring = none) :
    readStretches data ring position remaining = .error (.mishap .uncovered) := by
  rw [readStretches, if_neg more]
  split
  · rfl
  · next turned => simp [gone] at turned

theorem readStretchesLost {data : Bytes} {ring : List Stretch} {position : Int} {remaining : Nat}
    (lost : Lost data ring position remaining) :
    ∃ m, readStretches data ring position remaining = .error (.mishap m) := by
  induction lost with
  | uncovered more gone => exact ⟨.uncovered, readStretchesUncovered more gone⟩
  | here more turned unfit =>
    obtain ⟨m, bad⟩ := (readStretchFails data _ _ _).mpr unfit
    exact ⟨m, by rw [readStretchesStep more turned, bad]⟩
  | later more turned read _ ih =>
    obtain ⟨m, bad⟩ := ih
    exact ⟨m, by rw [readStretchesStep more turned, read]; simp only [bad]⟩

theorem readStretchesFail {data : Bytes} {ring : List Stretch} {position : Int} {remaining : Nat} :
    (∃ m, readStretches data ring position remaining = .error (.mishap m)) ↔
      Lost data ring position remaining := by
  refine ⟨?_, readStretchesLost⟩
  rintro ⟨m, bad⟩
  -- The stretch whose turn it is covers at least one byte of what remains.
  induction remaining using Nat.strong_induction_on generalizing ring position m with
  | _ remaining ih =>
    by_cases done : remaining = 0
    · rw [readStretches, if_pos done] at bad
      cases bad
    · cases turned : turn position ring with
      | none => exact .uncovered done turned
      | some next =>
        obtain ⟨s, ring'⟩ := next
        rw [readStretchesStep done turned] at bad
        split at bad
        · next f failed =>
          cases bad
          exact .here done turned ((readStretchFails data _ _ _).mp ⟨m, failed⟩)
        · next bytes read =>
          split at bad
          · next f failed =>
            cases bad
            have less : remaining - s.share position remaining < remaining := by
              have := turnCovers turned
              unfold Stretch.share
              omega
            exact .later done turned read (ih _ less m failed)
          · cases bad

end Sparse

def Member.Lost (data : Bytes) (m : Member) : Prop :=
  Sparse.Lost data (Sparse.stretches m.size m.start 0 (m.extents.getD [⟨0, m.size⟩])) 0 m.size.toNat

/-- Shapes of a byte string that the decoder does not guard against. -/
inductive Unguarded (data : Bytes) : Prop where
  | headers (strays : Member.Strays [] (Tape.ofBytes data))
  -- Behind a member with bad extents the next header is out of reach.
  | resumed {r} (first : Member.find [] (Tape.ofBytes data) = .error (.badExtents r))
      (moved : r.next ≠ 0 ∧ r.next ≠ r.tape.position)
      (far : Tape.inReach (r.next - 1) = false ∨ r.next - 1 < 0)
  | second {r t} (first : Member.find [] (Tape.ofBytes data) = .error (.badExtents r))
      (moved : r.next ≠ 0) (resumed : resumeTape data r = .ok t)
      (strays : Member.Strays r.globals t)
  | content {m} (first : firstMember data = .ok m) (regular : m.isRegular = true)
      (lost : m.Lost data)

theorem resumeFails (data : Bytes) (r : Resume) :
    (∃ m, resumeTape data r = .error (.mishap m)) ↔ r.next ≠ r.tape.position ∧
      (Tape.inReach (r.next - 1) = false ∨ r.next - 1 < 0) := by
  unfold resumeTape
  by_cases same : r.next = r.tape.position
  · simp [same]
  · rw [if_neg same]
    cases near : Tape.inReach (r.next - 1) with
    | false => simp [same]
    | true =>
      by_cases negative : r.next - 1 < 0
      · simp [same, negative]
      · simp only [negative, Bool.not_true, Bool.false_eq_true, if_false, Bool.true_eq_false,
          false_or, and_false, iff_false]
        rintro ⟨m, bad⟩
        split at bad <;> cases bad

theorem findBehindFails {data : Bytes} {r : Resume} :
    (∃ m, findBehind data r = .error (.mishap m)) ↔
      (∃ m, resumeTape data r = .error (.mishap m)) ∨
        ∃ t, resumeTape data r = .ok t ∧ Member.Strays r.globals t := by
  unfold findBehind
  cases resumed : resumeTape data r with
  | error f => simp [bind, Except.bind]
  | ok t =>
    simp only [bind, Except.bind, reduceCtorEq, exists_false, false_or, Except.ok.injEq,
      exists_eq_left', ← Member.findFails]
    cases Member.find r.globals t with
    | ok found => simp
    | error stop => cases stop <;> simp

theorem firstMemberFails {data : Bytes} :
    (∃ m, firstMember data = .error (.mishap m)) ↔ Member.Strays [] (Tape.ofBytes data) ∨
      ∃ r, Member.find [] (Tape.ofBytes data) = .error (.badExtents r) ∧ r.next ≠ 0 ∧
        ∃ m, findBehind data r = .error (.mishap m) := by
  rw [← Member.findFails]
  unfold firstMember
  cases Member.find [] (Tape.ofBytes data) with
  | ok found => simp
  | error stop =>
    cases stop with
    | flawed f => cases f <;> simp
    | behind f => simp
    | mishap m => simp
    | badExtents r => by_cases last : r.next = 0 <;> simp [last]

theorem firstMemberEmpty : firstMember [] = .error (.flaw .emptyFile) := by
  have header : Fields.ofBlock ((Tape.ofBytes []).rest.take blockSize) = .error .empty := by decide
  rw [firstMember, Member.findFlawed header]

theorem decodeOfMember {data : Bytes} {m : Member} (first : firstMember data = .ok m) :
    (∃ f, decode data = .error (.mishap f)) ↔ m.isRegular = true ∧ m.Lost data := by
  have filled : data ≠ [] := by
    rintro rfl
    rw [firstMemberEmpty] at first
    cases first
  rw [Member.Lost, ← Sparse.readStretchesFail, decode]
  simp only [if_neg filled, first, bind, Except.bind, pure, Except.pure]
  cases regular : m.isRegular with
  | false => simp [throw, throwThe, MonadExceptOf.throw]
  | true =>
    simp only [Bool.not_true, Bool.false_eq_true, if_false, true_and, Member.content]
    cases Sparse.readStretches data (Sparse.stretches m.size m.start 0
        (m.extents.getD [⟨0, m.size⟩])) 0 m.size.toNat with
    | error f => simp
    | ok content =>
      simp only [reduceCtorEq, exists_false, iff_false]
      rintro ⟨f, bad⟩
      split at bad <;> cases bad

theorem decodeOfFault {data : Bytes} {f : DecodingFault} (first : firstMember data = .error f) :
    (∃ m, decode data = .error (.mishap m)) ↔ ∃ m, f = .mishap m := by
  by_cases empty : data = []
  · subst empty
    rw [firstMemberEmpty] at first
    cases first
    simp [decode, throw, throwThe, MonadExceptOf.throw, bind, Except.bind]
  · simp [decode, empty, first, bind, Except.bind]

theorem decodeFails {data : Bytes} :
    (∃ m, decode data = .error (.mishap m)) ↔ Unguarded data := by
  constructor
  · intro bad
    cases first : firstMember data with
    | ok m =>
      obtain ⟨regular, lost⟩ := (decodeOfMember first).mp bad
      exact .content first regular lost
    | error f =>
      obtain ⟨m, rfl⟩ := (decodeOfFault first).mp bad
      rcases firstMemberFails.mp ⟨m, first⟩ with strays | ⟨r, found, moved, behind⟩
      · exact .headers strays
      · rcases findBehindFails.mp behind with gone | ⟨t, resumed, strays⟩
        · obtain ⟨away, far⟩ := (resumeFails data r).mp gone
          exact .resumed found ⟨moved, away⟩ far
        · exact .second found moved resumed strays
  · intro unguarded
    have outside : (∃ m, firstMember data = .error (.mishap m)) →
        ∃ m, decode data = .error (.mishap m) := by
      rintro ⟨m, first⟩
      exact (decodeOfFault first).mpr ⟨m, rfl⟩
    cases unguarded with
    | headers strays => exact outside (firstMemberFails.mpr (.inl strays))
    | resumed found moved far =>
      have gone := (resumeFails data _).mpr ⟨moved.2, far⟩
      have behind := findBehindFails.mpr (.inl gone)
      exact outside (firstMemberFails.mpr (.inr ⟨_, found, moved.1, behind⟩))
    | second found moved resumed strays =>
      have behind := findBehindFails.mpr (.inr ⟨_, resumed, strays⟩)
      exact outside (firstMemberFails.mpr (.inr ⟨_, found, moved, behind⟩))
    | content first regular lost => exact (decodeOfMember first).mpr ⟨regular, lost⟩

/-- The decoder answers with the content or with a flaw of the archive exactly if none of the
unguarded shapes is met, on a machine with room for the chain of headers and for the gaps. -/
theorem decodeAnswers (data : Bytes) :
    ((∃ content, decode data = .ok content) ∨ ∃ f, decode data = .error (.flaw f)) ↔
      ¬ Unguarded data := by
  rw [← decodeFails]
  cases decode data with
  | ok content => simp
  | error f => cases f <;> simp

def oversized : Bytes :=
  Bytes.zeros 124 ++ [0x80, 0, 0, 0, 0x80, 0, 0, 0, 0, 0, 0, 0] ++ Bytes.zeros 12 ++
    [0x30, 0x30, 0x31, 0x30, 0x36, 0x30, 0, 0x20, 0x30] ++ Bytes.zeros 355

theorem oversizedOutOfRange : decode oversized = .error (.mishap .outOfRange) := by
  decide +kernel

end ContainerDriver.Archive
