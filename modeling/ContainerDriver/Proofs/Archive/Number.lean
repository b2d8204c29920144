import ContainerDriver.Archive.Field
import Mathlib

/-! Numbers in header fields. The writer pads an octal number with zeros and ends it with a zero
byte; the lenient reader gets the number back from it. -/
namespace ContainerDriver.Archive.Field
open Text Text.Numeral

theorem octalLength (width n : Nat) : (octal width n).length = width := by
  induction width generalizing n with
  | zero => rfl
  | succ width ih => simp [octal, ih]

theorem octalBytes {width n : Nat} {b : UInt8} (mem : b ∈ octal width n) :
    0x30 ≤ b.toNat ∧ b.toNat ≤ 0x37 := by
  induction width generalizing n with
  | zero => simp [octal] at mem
  | succ width ih =>
    rcases List.mem_append.mp mem with front | last
    · exact ih front
    · have same := List.mem_singleton.mp last
      subst same
      have small : 0x30 + n % 8 < 256 := by omega
      rw [UInt8.toNat_ofNat_of_lt' small]
      omega

def asciiChar (b : UInt8) : Char := Char.ofNat b.toNat

theorem asciiCharToNat {b : UInt8} (small : b.toNat < 0x80) : (asciiChar b).toNat = b.toNat := by
  have valid : b.toNat.isValidChar := Or.inl (by omega)
  simp [asciiChar, Char.ofNat, valid, Char.toNat, Char.ofNatAux]

theorem charIs {b : UInt8} (c : Char) (small : b.toNat < 0x80) :
    asciiChar b = c ↔ b.toNat = c.toNat := by
  rw [← asciiCharToNat small]
  exact ⟨fun h => h ▸ rfl, fun h => Char.ext (UInt32.toNat_inj.mp h)⟩

theorem octalChar {b : UInt8} (low : 0x30 ≤ b.toNat) (high : b.toNat ≤ 0x37) :
    octalDigit? (asciiChar b) = some (b.toNat - 0x30) ∧ isBlank (asciiChar b) = false ∧
      asciiChar b ≠ '_' ∧ asciiChar b ≠ '-' ∧ asciiChar b ≠ '+' ∧ asciiChar b ≠ 'o' ∧
      asciiChar b ≠ 'O' := by
  have small : b.toNat < 0x80 := by omega
  have code := asciiCharToNat small
  refine ⟨?_, ?_, ?_⟩
  · have digit : '0' ≤ asciiChar b ∧ asciiChar b ≤ '7' := by
      simp only [Char.le_def, UInt32.le_iff_toNat_le]
      change 0x30 ≤ (asciiChar b).toNat ∧ (asciiChar b).toNat ≤ 0x37
      omega
    simp [octalDigit?, digit, code]
  · simp [isBlank, inRanges, blankRanges, code]
    omega
  · simp only [ne_eq, charIs _ small]
    simp only [Char.reduceToNat]
    omega

theorem trimDigits {cs : List Char} (plain : ∀ c ∈ cs, isBlank c = false) : trim cs = cs := by
  have keeps : ∀ ds : List Char, (∀ c ∈ ds, isBlank c = false) → ds.dropWhile isBlank = ds := by
    intro ds h
    cases ds with
    | nil => rfl
    | cons d ds => simp [h d (by simp)]
  rw [trim, trimLeft, keeps cs plain, trimRight, keeps cs.reverse (by simpa using plain),
    List.reverse_reverse]

theorem digitsPlain (digit? : Char → Option Nat) {cs : List Char} (some' : cs ≠ [])
    (plain : ∀ c ∈ cs, c ≠ '_') : digits? digit? cs = cs.mapM digit? := by
  induction cs with
  | nil => contradiction
  | cons c rest ih =>
    cases rest with
    | nil => cases h : digit? c <;> simp [digits?, h]
    | cons d rest =>
      have next : d ≠ '_' := plain d (by simp)
      have later := ih (by simp) (fun x hx => plain x (List.mem_cons_of_mem _ hx))
      rw [digits?, later]
      · simp only [List.mapM_cons]
        rfl
      · exact List.cons_ne_nil d rest
      · intro tail same
        exact next (List.cons.inj same).1

theorem mapMDigits {digit? : Char → Option Nat} {bs : Bytes}
    (reads : ∀ b ∈ bs, digit? (asciiChar b) = some (b.toNat - 0x30)) :
    (bs.map asciiChar).mapM digit? = some (bs.map (·.toNat - 0x30)) := by
  induction bs with
  | nil => rfl
  | cons b rest ih =>
    obtain ⟨head, tail⟩ := List.forall_mem_cons.mp reads
    simp [head, ih tail]

theorem octalValue (width n : Nat) :
    ofDigits 8 ((octal width n).map (·.toNat - 0x30)) = n % 8 ^ width := by
  induction width generalizing n with
  | zero => simp [octal, ofDigits, Nat.mod_one]
  | succ width ih =>
    have small : 0x30 + n % 8 < 256 := by omega
    have front := ih (n / 8)
    simp only [ofDigits] at front
    simp only [octal, List.map_append, ofDigits, List.foldl_append, List.map_cons, List.map_nil,
      List.foldl_cons, List.foldl_nil, front, UInt8.toNat_ofNat_of_lt' small]
    rw [Nat.pow_succ, Nat.mul_comm (8 ^ width) 8, Nat.mod_mul]
    omega

theorem untilZeroAppend {b tail : Bytes} (full : ∀ x ∈ b, x ≠ 0) :
    Bytes.untilZero (b ++ 0 :: tail) = b := by
  rw [Bytes.untilZero, List.takeWhile_append_of_pos (by simpa using full)]
  simp

section
variable {bs : Bytes} (digits : ∀ b ∈ bs, 0x30 ≤ b.toNat ∧ b.toNat ≤ 0x37)
include digits

theorem digitsFull : ∀ b ∈ bs, b ≠ 0 := by
  intro b mem zero
  have := digits b mem
  subst zero
  simp at this

theorem charsPlain : ∀ c ∈ bs.map asciiChar, isBlank c = false ∧ c ≠ '_' := by
  intro c mem
  obtain ⟨b, hb, rfl⟩ := List.mem_map.mp mem
  have char := octalChar (digits b hb).1 (digits b hb).2
  exact ⟨char.2.1, char.2.2.1⟩

theorem digitsAscii : asciiChars? bs = some (bs.map asciiChar) := by
  have ascii : bs.all (· < 0x80) = true := by
    simp only [List.all_eq_true, decide_eq_true_eq, UInt8.lt_iff_toNat_lt]
    intro b mem
    have := (digits b mem).2
    change b.toNat < 128
    omega
  simp only [asciiChars?, ascii, if_true]
  rfl

theorem unsignedDigits (some' : bs ≠ []) :
    unsignedOctal? (bs.map asciiChar) = some (ofDigits 8 (bs.map (·.toNat - 0x30))) := by
  have read : (digits? octalDigit? (bs.map asciiChar)).map (ofDigits 8)
      = some (ofDigits 8 (bs.map (·.toNat - 0x30))) := by
    rw [digitsPlain octalDigit? (by simpa using some') fun c mem => (charsPlain digits c mem).2,
      mapMDigits fun b mem => (octalChar (digits b mem).1 (digits b mem).2).1, Option.map_some]
  -- A mark of the base would be the second character, and that is a digit.
  match bs, some', digits, read with
  | [b], _, _, read => simpa [unsignedOctal?] using read
  | b :: d :: rest, _, digits, read =>
    have mark := octalChar (digits d (by simp)).1 (digits d (by simp)).2
    simp only [List.map_cons] at read ⊢
    unfold unsignedOctal?
    split
    · next mark' rest' same =>
      obtain ⟨rfl, -⟩ := List.cons.inj (List.cons.inj same).2
      rw [if_neg (by simp [mark])]
      rw [same] at read
      exact read
    · exact read

theorem signedDigits (some' : bs ≠ []) :
    octal? (bs.map asciiChar) = some ((ofDigits 8 (bs.map (·.toNat - 0x30)) : Nat) : Int) := by
  have unsigned := unsignedDigits digits some'
  rw [octal?, trimDigits fun c mem => (charsPlain digits c mem).1]
  cases bs with
  | nil => exact absurd rfl some'
  | cons b rest =>
    have sign := octalChar (digits b (by simp)).1 (digits b (by simp)).2
    simp only [List.map_cons, List.isEmpty_cons, Bool.false_eq_true, if_false, signed?] at *
    split
    · next same => exact absurd (List.cons.inj same).1 sign.2.2.2.1
    · next same => exact absurd (List.cons.inj same).1 sign.2.2.2.2.1
    · rw [unsigned]
      rfl

theorem readDigits (some' : bs ≠ []) (tail : Bytes) :
    read? (bs ++ 0 :: tail) = some ((ofDigits 8 (bs.map (·.toNat - 0x30)) : Nat) : Int) := by
  have signed := signedDigits digits some'
  have full : Bytes.untilZero (bs ++ 0 :: tail) = bs := untilZeroAppend (digitsFull digits)
  have chars := digitsAscii digits
  cases bs with
  | nil => exact absurd rfl some'
  | cons b rest =>
    have head := digits b (by simp)
    have lead : b ≠ 0x80 ∧ b ≠ 0xFF := by
      constructor <;> (intro same; subst same; simp at head)
    simp only [read?, List.cons_append, lead.1, lead.2, if_false]
    rw [readOctal?, ← List.cons_append, full, chars]
    exact signed

end

theorem readOctalDigits (width n : Nat) (tail : Bytes) :
    read? (octal (width + 1) n ++ 0 :: tail) = some ((n % 8 ^ (width + 1) : Nat) : Int) := by
  have some' : octal (width + 1) n ≠ [] := by simp [octal]
  rw [readDigits (fun b mem => octalBytes mem) some', octalValue]

theorem readNumber {width n : Nat} (wide : 2 ≤ width) (fits : n < 8 ^ (width - 1)) :
    read? (number width n) = some (n : Int) := by
  obtain ⟨w, rfl⟩ := Nat.exists_eq_add_of_le wide
  have count : 2 + w - 1 = w + 1 := by omega
  rw [count] at fits
  rw [number, count, readOctalDigits w n [], Nat.mod_eq_of_lt fits]

theorem readZeros (width : Nat) : read? (Bytes.zeros (width + 1)) = some 0 := by
  rfl

end ContainerDriver.Archive.Field
