/-! Byte strings. Archives, process output and sinks all hold them, so lists give every later
argument `take`, `drop` and `++` with their lemmas. -/
namespace ContainerDriver

abbrev Bytes := List UInt8

namespace Bytes

def zeros (n : Nat) : Bytes := List.replicate n 0

def roundUp (n unit : Nat) : Nat := (n + unit - 1) / unit * unit

def padTo (unit : Nat) (b : Bytes) : Bytes := b ++ zeros (roundUp b.length unit - b.length)

def ofAscii (s : String) : Bytes := s.toList.map fun c => UInt8.ofNat c.toNat

def untilZero (b : Bytes) : Bytes := b.takeWhile (· ≠ 0)

def split (separator : UInt8) : Bytes → List Bytes
  | [] => [[]]
  | b :: rest =>
    if b = separator then [] :: split separator rest
    else match split separator rest with
      | [] => [[b]]
      | head :: tail => (b :: head) :: tail

end Bytes
end ContainerDriver
