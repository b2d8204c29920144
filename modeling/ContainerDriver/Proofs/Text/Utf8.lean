import ContainerDriver.Text.Utf8
import Mathlib

/-! UTF-8 there and back. The lead byte of a character announces its continuation bytes, so the
characters of a text are the pieces of its bytes whatever stands behind them. -/
namespace ContainerDriver.Text.Utf8

theorem charRange (c : Char) : c.toNat < 0xD800 ∨ 0xDFFF < c.toNat ∧ c.toNat < 0x110000 := c.valid

theorem charOf {c : Char} {n : Nat} (same : n = c.toNat) : Char.ofNat n = c := by
  rw [same, Char.ofNat_toNat]

section
variable {lead a b d : UInt8} {lo hi : Nat}

theorem leadLarge {ahead : Nat × Nat × Nat} (follows : follow lead = some ahead) :
    ¬ lead.toNat < 0x80 := by
  intro small
  have none' : follow lead = none := if_pos (by omega)
  cases none'.symm.trans follows

theorem piecesAscii (small : a.toNat < 0x80) (rest : Bytes) :
    pieces (a :: rest) = .char (Char.ofNat a.toNat) :: pieces rest := by
  rw [pieces, piece, if_pos small, List.drop_zero]

theorem piecesTwo (follows : follow lead = some (1, lo, hi))
    (range : lo ≤ a.toNat ∧ a.toNat ≤ hi) (rest : Bytes) :
    pieces (lead :: a :: rest) =
      .char (Char.ofNat (lead.toNat % 32 * 64 + a.toNat % 64)) :: pieces rest := by
  have continued : tail 1 lo hi (a :: rest) = [a] := by simp [tail, range]
  rw [pieces]
  simp only [piece, if_neg (leadLarge follows), follows, continued, List.length_singleton, if_true]
  rfl

theorem piecesThree (follows : follow lead = some (2, lo, hi))
    (first : lo ≤ a.toNat ∧ a.toNat ≤ hi) (second : 0x80 ≤ b.toNat ∧ b.toNat ≤ 0xBF)
    (rest : Bytes) :
    pieces (lead :: a :: b :: rest) =
      .char (Char.ofNat ((lead.toNat % 16 * 64 + a.toNat % 64) * 64 + b.toNat % 64)) ::
        pieces rest := by
  have continued : tail 2 lo hi (a :: b :: rest) = [a, b] := by simp [tail, first, second]
  rw [pieces]
  simp only [piece, if_neg (leadLarge follows), follows, continued, List.length_cons,
    List.length_nil, if_true]
  rfl

theorem piecesFour (follows : follow lead = some (3, lo, hi))
    (first : lo ≤ a.toNat ∧ a.toNat ≤ hi) (second : 0x80 ≤ b.toNat ∧ b.toNat ≤ 0xBF)
    (third : 0x80 ≤ d.toNat ∧ d.toNat ≤ 0xBF) (rest : Bytes) :
    pieces (lead :: a :: b :: d :: rest) =
      .char (Char.ofNat (((lead.toNat % 8 * 64 + a.toNat % 64) * 64 + b.toNat % 64) * 64
        + d.toNat % 64)) :: pieces rest := by
  have continued : tail 3 lo hi (a :: b :: d :: rest) = [a, b, d] := by
    simp [tail, first, second, third]
  rw [pieces]
  simp only [piece, if_neg (leadLarge follows), follows, continued, List.length_cons,
    List.length_nil, if_true]
  rfl

end

theorem octetToNat {n : Nat} (small : n < 256) : (UInt8.ofNat n).toNat = n :=
  UInt8.toNat_ofNat_of_lt' small

theorem followTwo {lead : UInt8} (range : 0xC2 ≤ lead.toNat ∧ lead.toNat < 0xE0) :
    follow lead = some (1, 0x80, 0xBF) := by
  simp only [follow]
  rw [if_neg (by omega), if_pos range.2]

theorem followThree {c : Char} {lead a : UInt8} (large : 0x800 ≤ c.toNat)
    (small : c.toNat < 0x10000) (front : lead.toNat = 0xE0 + c.toNat / 4096)
    (first : a.toNat = 0x80 + c.toNat / 64 % 64) :
    ∃ lo hi, follow lead = some (2, lo, hi) ∧ lo ≤ a.toNat ∧ a.toNat ≤ hi := by
  -- The ranges of the first continuation byte keep out shorter forms and surrogates.
  have range := charRange c
  simp only [follow]
  rw [if_neg (by omega), if_neg (by omega)]
  by_cases low : lead.toNat = 0xE0
  · exact ⟨0xA0, 0xBF, if_pos low, by omega, by omega⟩
  · rw [if_neg low]
    by_cases gap : lead.toNat = 0xED
    · exact ⟨0x80, 0x9F, if_pos gap, by omega, by omega⟩
    · rw [if_neg gap, if_pos (by omega)]
      exact ⟨0x80, 0xBF, rfl, by omega, by omega⟩

theorem followFour {c : Char} {lead a : UInt8} (large : 0x10000 ≤ c.toNat)
    (front : lead.toNat = 0xF0 + c.toNat / 262144)
    (first : a.toNat = 0x80 + c.toNat / 4096 % 64) :
    ∃ lo hi, follow lead = some (3, lo, hi) ∧ lo ≤ a.toNat ∧ a.toNat ≤ hi := by
  have range := charRange c
  simp only [follow]
  rw [if_neg (by omega), if_neg (by omega), if_neg (by omega), if_neg (by omega), if_neg (by omega)]
  by_cases low : lead.toNat = 0xF0
  · exact ⟨0x90, 0xBF, if_pos low, by omega, by omega⟩
  · rw [if_neg low]
    by_cases middle : lead.toNat < 0xF4
    · exact ⟨0x80, 0xBF, if_pos middle, by omega, by omega⟩
    · rw [if_neg middle, if_pos (by omega)]
      exact ⟨0x80, 0x8F, rfl, by omega, by omega⟩

theorem piecesEncodeChar (c : Char) (rest : Bytes) :
    pieces (encodeChar c ++ rest) = .char c :: pieces rest := by
  have range := charRange c
  by_cases one : c.toNat < 0x80
  · have bytes : encodeChar c = [UInt8.ofNat c.toNat] := if_pos one
    have front := octetToNat (n := c.toNat) (by omega)
    rw [bytes, List.singleton_append, piecesAscii (by omega), charOf front]
  · by_cases two : c.toNat < 0x800
    · have bytes : encodeChar c =
          [UInt8.ofNat (0xC0 + c.toNat / 64), UInt8.ofNat (0x80 + c.toNat % 64)] :=
        (if_neg one).trans (if_pos two)
      have front := octetToNat (n := 0xC0 + c.toNat / 64) (by omega)
      have first := octetToNat (n := 0x80 + c.toNat % 64) (by omega)
      rw [bytes, List.cons_append, List.singleton_append,
        piecesTwo (followTwo (by omega)) (by omega), charOf (c := c) (by omega)]
    · by_cases three : c.toNat < 0x10000
      · have bytes : encodeChar c = [UInt8.ofNat (0xE0 + c.toNat / 4096),
            UInt8.ofNat (0x80 + c.toNat / 64 % 64), UInt8.ofNat (0x80 + c.toNat % 64)] :=
          (if_neg one).trans ((if_neg two).trans (if_pos three))
        have front := octetToNat (n := 0xE0 + c.toNat / 4096) (by omega)
        have first := octetToNat (n := 0x80 + c.toNat / 64 % 64) (by omega)
        have second := octetToNat (n := 0x80 + c.toNat % 64) (by omega)
        obtain ⟨lo, hi, follows, inside⟩ := followThree (by omega) three front first
        rw [bytes, List.cons_append, List.cons_append, List.singleton_append,
          piecesThree follows inside (by omega), charOf (c := c) (by omega)]
      · have bytes : encodeChar c = [UInt8.ofNat (0xF0 + c.toNat / 262144),
            UInt8.ofNat (0x80 + c.toNat / 4096 % 64), UInt8.ofNat (0x80 + c.toNat / 64 % 64),
            UInt8.ofNat (0x80 + c.toNat % 64)] :=
          (if_neg one).trans ((if_neg two).trans (if_neg three))
        have front := octetToNat (n := 0xF0 + c.toNat / 262144) (by omega)
        have first := octetToNat (n := 0x80 + c.toNat / 4096 % 64) (by omega)
        have second := octetToNat (n := 0x80 + c.toNat / 64 % 64) (by omega)
        have third := octetToNat (n := 0x80 + c.toNat % 64) (by omega)
        obtain ⟨lo, hi, follows, inside⟩ := followFour (by omega) front first
        rw [bytes, List.cons_append, List.cons_append, List.cons_append, List.singleton_append,
          piecesFour follows inside (by omega) (by omega), charOf (c := c) (by omega)]

theorem decodeCharacters (cs : List Char) : decode? (encode cs) = some cs := by
  unfold decode?
  induction cs with
  | nil => simp [encode, pieces]
  | cons c rest ih =>
    rw [encode] at ih
    rw [encode, List.flatMap_cons, piecesEncodeChar, List.mapM_cons, ih]
    rfl

theorem decodeOfString (s : String) : decode? (ofString s) = some s.toList := decodeCharacters s.toList

theorem encodeAscii {b : Bytes} (ascii : ∀ x ∈ b, x.toNat < 0x80) :
    encode (b.map fun x => Char.ofNat x.toNat) = b := by
  induction b with
  | nil => rfl
  | cons x rest ih =>
    obtain ⟨here, later⟩ := List.forall_mem_cons.mp ascii
    have valid : x.toNat.isValidChar := Or.inl (by omega)
    have code : (Char.ofNat x.toNat).toNat = x.toNat := by
      simp [Char.ofNat, valid, Char.toNat, Char.ofNatAux]
    have one : encodeChar (Char.ofNat x.toNat) = [x] := by
      rw [encodeChar, if_pos (by omega), code]
      exact congrArg (fun y => [y]) (UInt8.ofNat_toNat)
    rw [encode] at ih
    rw [List.map_cons, encode, List.flatMap_cons, one, ih later, List.singleton_append]

theorem decodeAscii {b : Bytes} (ascii : ∀ x ∈ b, x.toNat < 0x80) :
    decode? b = some (b.map fun x => Char.ofNat x.toNat) := by
  have read := decodeCharacters (b.map fun x => Char.ofNat x.toNat)
  rwa [encodeAscii ascii] at read

theorem encodeCharLast (c : Char) :
    ∃ init x, encodeChar c = init ++ [x] ∧ (x.toNat = c.toNat ∨ 0x80 ≤ x.toNat) := by
  have continues (n : Nat) : 0x80 ≤ (UInt8.ofNat (0x80 + n % 64)).toNat := by
    rw [octetToNat (by omega)]
    omega
  unfold encodeChar
  dsimp only
  split
  · exact ⟨[], _, rfl, .inl (octetToNat (by omega))⟩
  · split
    · exact ⟨[_], _, rfl, .inr (continues _)⟩
    · split
      · exact ⟨[_, _], _, rfl, .inr (continues _)⟩
      · exact ⟨[_, _, _], _, rfl, .inr (continues _)⟩

theorem lastChar {s : String} {x : UInt8} (small : x.toNat < 0x80)
    (last : (ofString s).getLast? = some x) : s.toList.getLast? = some (Char.ofNat x.toNat) := by
  rw [ofString] at last
  rcases List.eq_nil_or_concat s.toList with none' | ⟨front, c, chars⟩
  · simp [none', encode] at last
  · obtain ⟨init, y, bytes, code⟩ := encodeCharLast c
    rw [chars, List.concat_eq_append, encode, List.flatMap_append, List.flatMap_singleton, bytes,
      ← List.append_assoc, List.getLast?_concat, Option.some.injEq] at last
    rw [chars, List.concat_eq_append, List.getLast?_concat, Option.some.injEq]
    subst last
    exact (charOf (by omega)).symm

end ContainerDriver.Text.Utf8
