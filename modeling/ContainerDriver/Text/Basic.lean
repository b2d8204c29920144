/-! Text as programs pass it around: characters, and halves of surrogate pairs that stand alone.
Valid Unicode is a `String`, and every `String` is such a text. -/
namespace ContainerDriver

inductive Letter where
  | char (c : Char)
  | surrogate (n : Fin 0x800)
  deriving DecidableEq, Repr

namespace Letter

def code : Letter → Nat
  | char c => c.toNat
  | surrogate n => 0xD800 + n

def ofCode (n : Nat) : Letter :=
  if surrogates : 0xD800 ≤ n ∧ n < 0xE000 then .surrogate ⟨n - 0xD800, by omega⟩
  else .char (Char.ofNat n)

def char? : Letter → Option Char
  | char c => some c
  | surrogate _ => none

def isSurrogate : Letter → Bool
  | char _ => false
  | surrogate _ => true

end Letter

abbrev Text := List Letter

namespace Text

@[coe] def ofString (s : String) : Text := s.toList.map .char

instance : Coe String Text := ⟨ofString⟩

def string? (t : Text) : Option String := (t.mapM Letter.char?).map String.ofList

@[simp] theorem ofStringInj {a b : String} : ofString a = ofString b ↔ a = b :=
  (List.map_inj_right fun _ _ same => Letter.char.inj same).trans String.toList_inj

/-! Characters that delimit text in the formats of this library. -/
namespace Symbol

def apostrophe : Char := Char.ofNat 0x27
def quotationMark : Char := Char.ofNat 0x22
def backslash : Char := Char.ofNat 0x5C
def openBrace : Char := Char.ofNat 0x7B
def closeBrace : Char := Char.ofNat 0x7D

end Symbol
end Text
end ContainerDriver
