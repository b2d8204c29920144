import ContainerDriver.Bytes

/-! Reading a byte string from front to back. Reads stop at the end without complaint. -/
namespace ContainerDriver.Archive

inductive Mishap where
  | badNumber
  | outOfRange
  | cutBlock
  | uncovered
  | tooLong
  deriving DecidableEq, Repr

structure Tape where
  position : Nat
  rest : Bytes
  deriving DecidableEq, Repr

namespace Tape

def reach : Int := Nat.pow 2 63

def inReach (n : Int) : Bool := -reach ≤ n && n < reach

def ofBytes (data : Bytes) : Tape := ⟨0, data⟩

def wind (data : Bytes) (position : Nat) : Tape := ⟨position, data.drop position⟩

def skip (t : Tape) (n : Nat) : Tape := ⟨t.position + min n t.rest.length, t.rest.drop n⟩

def read (t : Tape) (n : Int) : Except Mishap (Bytes × Tape) :=
  if !inReach n then .error .outOfRange
  else if n < 0 then .ok (t.rest, t.skip t.rest.length)
  else .ok (t.rest.take n.toNat, t.skip n.toNat)

theorem readRest {t : Tape} {n b t'} (h : t.read n = .ok (b, t')) :
    t'.rest.length ≤ t.rest.length := by
  unfold read at h
  split at h
  · contradiction
  · split at h <;> cases h <;> simp [skip]

end Tape
end ContainerDriver.Archive
