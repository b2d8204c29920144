import ContainerDriver.Text.Blank
import ContainerDriver.Text.Casing.Table

/-! Full lower and upper casing: a character may become several, and a capital sigma that ends a
word becomes the final form. -/
namespace ContainerDriver.Text.Casing

def shifted (table : List Shift) (n : Nat) : Nat :=
  match table.find? fun s => s.first ≤ n && n ≤ s.last && (n - s.first) % s.step == 0 with
  | some s => (n + s.shift).toNat
  | none => n

def mapChar (shifts : List Shift) (expansions : List (Nat × List Nat)) (c : Char) : List Char :=
  match expansions.lookup c.toNat with
  | some image => image.map Char.ofNat
  | none => [Char.ofNat (shifted shifts c.toNat)]

def meetsCased (cs : List Char) : Bool :=
  match cs.dropWhile fun c => inRanges ignorableRanges c.toNat with
  | c :: _ => inRanges casedRanges c.toNat
  | [] => false

def lowerChar (before : List Char) (c : Char) (after : List Char) : List Char :=
  if c.toNat < 0x80 then [c.toLower]
  else if c.toNat = 0x3A3 then
    [Char.ofNat (if meetsCased before && !meetsCased after then 0x3C2 else 0x3C3)]
  else mapChar lowerShifts lowerExpansions c

/-- `before` is the text already passed, nearest character first. -/
def lowerFrom (before : List Char) : List Char → List Char
  | [] => []
  | c :: after => lowerChar before c after ++ lowerFrom (c :: before) after

def upperChar (c : Char) : List Char :=
  if c.toNat < 0x80 then [c.toUpper] else mapChar upperShifts upperExpansions c

end Casing

def lower (s : String) : String := String.ofList (Casing.lowerFrom [] s.toList)

def upper (s : String) : String := String.ofList (s.toList.flatMap Casing.upperChar)

end ContainerDriver.Text
