import ContainerDriver.Text.Basic

/-! White space as text trimming sees it. The class is wider than the ASCII one: separators,
the information separators U+001C to U+001F and the next-line control belong to it. -/
namespace ContainerDriver
namespace Text

def blankRanges : List (Nat × Nat) :=
  [(0x09, 0x0D), (0x1C, 0x20), (0x85, 0x85), (0xA0, 0xA0), (0x1680, 0x1680), (0x2000, 0x200A),
   (0x2028, 0x2029), (0x202F, 0x202F), (0x205F, 0x205F), (0x3000, 0x3000)]

def inRanges (ranges : List (Nat × Nat)) (n : Nat) : Bool :=
  ranges.any fun r => r.1 ≤ n && n ≤ r.2

def isBlank (c : Char) : Bool := inRanges blankRanges c.toNat

def trimLeft (cs : List Char) : List Char := cs.dropWhile isBlank

def trimRight (cs : List Char) : List Char := (cs.reverse.dropWhile isBlank).reverse

def trim (cs : List Char) : List Char := trimRight (trimLeft cs)

def trimmed (s : String) : String := String.ofList (trim s.toList)

end Text

def Letter.isBlank : Letter → Bool
  | char c => Text.isBlank c
  | surrogate _ => false

def Text.blank (t : Text) : Bool := t.all Letter.isBlank

end ContainerDriver
