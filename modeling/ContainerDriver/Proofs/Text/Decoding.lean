import ContainerDriver.Proofs.Text.Trim
import ContainerDriver.Proofs.Text.Utf8

/-! Output as text. Of bytes that are no UTF-8 each ill-formed part, as long as the start of a
character can be, reads as one replacement character, and what follows it is read as if it stood
alone. So white space around output goes away whatever the output holds. -/
namespace ContainerDriver

namespace Text.Utf8

def Fragment (part : Bytes) : Prop := part.length = 1 ∨ ∃ c, part <+: encodeChar c

/-- The bytes start with no character, and `part` is the longest fragment that they start with. -/
structure IllFormed (part b : Bytes) : Prop where
  unread : ∀ c, ¬ encodeChar c <+: b
  front : part <+: b
  nonempty : part ≠ []
  fragment : Fragment part
  longest : ∀ more, more <+: b → Fragment more → more.length ≤ part.length

/-- Characters are read and ill-formed parts are replaced, in order. -/
inductive Replaced : Bytes → List Char → Prop where
  | done : Replaced [] []
  | char (c : Char) {rest : Bytes} {cs : List Char} (behind : Replaced rest cs) :
      Replaced (encodeChar c ++ rest) (c :: cs)
  | broken {part rest : Bytes} {cs : List Char} (bad : IllFormed part (part ++ rest))
      (behind : Replaced rest cs) : Replaced (part ++ rest) (Char.ofNat 0xFFFD :: cs)

def Continues (lo hi : Nat) : Bytes → Prop
  | [] => True
  | b :: rest => (lo ≤ b.toNat ∧ b.toNat ≤ hi) ∧ Continues 0x80 0xBF rest

section
variable {count lo hi : Nat} {b more : Bytes}

theorem tailPrefix (count lo hi : Nat) (b : Bytes) : tail count lo hi b <+: b := by
  fun_induction tail count lo hi b with
  | case1 => exact List.nil_prefix
  | case2 => exact List.nil_prefix
  | case3 lo hi count b rest inside ih => exact (List.prefix_cons_inj b).mpr ih
  | case4 => exact List.nil_prefix

theorem tailShort (count lo hi : Nat) (b : Bytes) : (tail count lo hi b).length ≤ count := by
  fun_induction tail count lo hi b with
  | case1 => exact Nat.le_refl 0
  | case2 => exact Nat.zero_le _
  | case3 lo hi count b rest inside ih => exact Nat.succ_le_succ ih
  | case4 => exact Nat.zero_le _

theorem tailContinues (count lo hi : Nat) (b : Bytes) : Continues lo hi (tail count lo hi b) := by
  fun_induction tail count lo hi b with
  | case1 | case2 | case4 => trivial
  | case3 lo hi count b rest inside ih => exact ⟨inside, ih⟩

theorem tailLongest (continues : Continues lo hi more) (front : more <+: b)
    (short : more.length ≤ count) : more.length ≤ (tail count lo hi b).length := by
  induction more generalizing count lo hi b with
  | nil => exact Nat.zero_le _
  | cons x more ih =>
    obtain ⟨inside, later⟩ := continues
    obtain ⟨back, rfl⟩ := front
    cases count with
    | zero => cases short
    | succ count =>
      rw [List.cons_append, tail, if_pos inside]
      exact Nat.succ_le_succ (ih later (List.prefix_append _ _) (Nat.le_of_succ_le_succ short))

theorem tailAppend {back : Bytes} (ascii : ∀ x ∈ back.head?, x.toNat < 0x80) (low : 0x80 ≤ lo)
    (b : Bytes) : tail count lo hi (b ++ back) = tail count lo hi b := by
  induction b generalizing count lo hi with
  | nil =>
    cases count with
    | zero => simp [tail]
    | succ count =>
      cases back with
      | nil => rfl
      | cons x back =>
        have small : x.toNat < 0x80 := ascii x rfl
        exact if_neg fun inside => by omega
  | cons x b ih =>
    cases count with
    | zero => simp [tail]
    | succ count => rw [List.cons_append, tail, tail, ih (Nat.le_refl _)]

end

section
variable {lead : UInt8} {lo hi count : Nat}

theorem followSource (follows : follow lead = some (count, lo, hi)) :
    (0x80 ≤ lo ∧ hi ≤ 0xBF) ∧
    (count = 1 ∧ (0xC2 ≤ lead.toNat ∧ lead.toNat < 0xE0) ∨
      count = 2 ∧ (0xE0 ≤ lead.toNat ∧ lead.toNat < 0xF0) ∧
        (lead.toNat = 0xE0 → 0xA0 ≤ lo) ∧ (lead.toNat = 0xED → hi ≤ 0x9F) ∨
      count = 3 ∧ (0xF0 ≤ lead.toNat ∧ lead.toNat ≤ 0xF4) ∧
        (lead.toNat = 0xF0 → 0x90 ≤ lo) ∧ (lead.toNat = 0xF4 → hi ≤ 0x8F)) := by
  unfold follow at follows
  dsimp only at follows
  split_ifs at follows <;> cases follows <;> omega

theorem octetOf {n : Nat} {x : UInt8} (same : n = x.toNat) : UInt8.ofNat n = x := by
  rw [same]
  exact UInt8.ofNat_toNat

theorem codeOf {n : Nat} (valid : n < 0xD800 ∨ 0xDFFF < n ∧ n < 0x110000) :
    (Char.ofNat n).toNat = n := by
  rw [Char.ofNat, dif_pos (show n.isValidChar from valid)]
  rfl

theorem encodeOne (range : lead.toNat < 0x80) : encodeChar (Char.ofNat lead.toNat) = [lead] := by
  have code := codeOf (n := lead.toNat) (by omega)
  have bytes : encodeChar (Char.ofNat lead.toNat) =
      [UInt8.ofNat (Char.ofNat lead.toNat).toNat] := if_pos (by omega)
  rw [bytes, octetOf code]

variable {x y z : UInt8}

theorem encodeTwo (range : 0xC2 ≤ lead.toNat ∧ lead.toNat < 0xE0)
    (first : 0x80 ≤ x.toNat ∧ x.toNat ≤ 0xBF) :
    encodeChar (Char.ofNat (lead.toNat % 32 * 64 + x.toNat % 64)) = [lead, x] := by
  have code := codeOf (n := lead.toNat % 32 * 64 + x.toNat % 64) (by omega)
  generalize Char.ofNat _ = c at code
  have bytes : encodeChar c =
      [UInt8.ofNat (0xC0 + c.toNat / 64), UInt8.ofNat (0x80 + c.toNat % 64)] :=
    (if_neg (by omega)).trans (if_pos (by omega))
  rw [bytes, octetOf (x := lead) (by omega), octetOf (x := x) (by omega)]

theorem encodeThree (range : 0xE0 ≤ lead.toNat ∧ lead.toNat < 0xF0)
    (first : 0x80 ≤ x.toNat ∧ x.toNat ≤ 0xBF) (second : 0x80 ≤ y.toNat ∧ y.toNat ≤ 0xBF)
    (fits : (lead.toNat = 0xE0 → 0xA0 ≤ x.toNat) ∧ (lead.toNat = 0xED → x.toNat ≤ 0x9F)) :
    encodeChar (Char.ofNat ((lead.toNat % 16 * 64 + x.toNat % 64) * 64 + y.toNat % 64)) =
      [lead, x, y] := by
  have code := codeOf (n := (lead.toNat % 16 * 64 + x.toNat % 64) * 64 + y.toNat % 64) (by omega)
  generalize Char.ofNat _ = c at code
  have bytes : encodeChar c = [UInt8.ofNat (0xE0 + c.toNat / 4096),
      UInt8.ofNat (0x80 + c.toNat / 64 % 64), UInt8.ofNat (0x80 + c.toNat % 64)] :=
    (if_neg (by omega)).trans ((if_neg (by omega)).trans (if_pos (by omega)))
  rw [bytes, octetOf (x := lead) (by omega), octetOf (x := x) (by omega),
    octetOf (x := y) (by omega)]

theorem encodeFour (range : 0xF0 ≤ lead.toNat ∧ lead.toNat ≤ 0xF4)
    (first : 0x80 ≤ x.toNat ∧ x.toNat ≤ 0xBF) (second : 0x80 ≤ y.toNat ∧ y.toNat ≤ 0xBF)
    (third : 0x80 ≤ z.toNat ∧ z.toNat ≤ 0xBF)
    (fits : (lead.toNat = 0xF0 → 0x90 ≤ x.toNat) ∧ (lead.toNat = 0xF4 → x.toNat ≤ 0x8F)) :
    encodeChar (Char.ofNat (((lead.toNat % 8 * 64 + x.toNat % 64) * 64 + y.toNat % 64) * 64
      + z.toNat % 64)) = [lead, x, y, z] := by
  have code := codeOf (n := ((lead.toNat % 8 * 64 + x.toNat % 64) * 64 + y.toNat % 64) * 64
    + z.toNat % 64) (by omega)
  generalize Char.ofNat _ = c at code
  have bytes : encodeChar c = [UInt8.ofNat (0xF0 + c.toNat / 262144),
      UInt8.ofNat (0x80 + c.toNat / 4096 % 64), UInt8.ofNat (0x80 + c.toNat / 64 % 64),
      UInt8.ofNat (0x80 + c.toNat % 64)] :=
    (if_neg (by omega)).trans ((if_neg (by omega)).trans (if_neg (by omega)))
  rw [bytes, octetOf (x := lead) (by omega), octetOf (x := x) (by omega),
    octetOf (x := y) (by omega), octetOf (x := z) (by omega)]

theorem encodeContinued (follows : follow lead = some (count, lo, hi)) {more : Bytes}
    (continues : Continues lo hi more) (whole : more.length = count) :
    ∃ c, encodeChar c = lead :: more := by
  obtain ⟨inside, ⟨rfl, range⟩ | ⟨rfl, range, fits⟩ | ⟨rfl, range, fits⟩⟩ := followSource follows
  · obtain ⟨x, rfl⟩ := List.length_eq_one_iff.mp whole
    obtain ⟨first, -⟩ := continues
    exact ⟨_, encodeTwo range (by omega)⟩
  · obtain ⟨x, y, rfl⟩ := List.length_eq_two.mp whole
    obtain ⟨first, second, -⟩ := continues
    exact ⟨_, encodeThree range (by omega) second (by omega)⟩
  · obtain ⟨x, y, z, rfl⟩ := List.length_eq_three.mp whole
    obtain ⟨first, second, third, -⟩ := continues
    exact ⟨_, encodeFour range (by omega) second third (by omega)⟩

theorem pieceSource {rest : Bytes} {c : Char} {n : Nat} (read : piece lead rest = (.char c, n)) :
    lead.toNat < 0x80 ∧ n = 0 ∨
      ∃ lo hi, follow lead = some (n, lo, hi) ∧ (tail n lo hi rest).length = n := by
  unfold piece at read
  split at read
  · next small =>
    cases read
    exact .inl ⟨small, rfl⟩
  · split at read
    · cases read
    · next count lo hi follows =>
      dsimp only at read
      split at read
      · next whole =>
        cases read
        exact .inr ⟨lo, hi, follows, whole⟩
      · cases read

theorem pieceBroken {rest part : Bytes} {n : Nat} (read : piece lead rest = (.broken part, n)) :
    ¬ lead.toNat < 0x80 ∧ part.length = n + 1 ∧ (follow lead = none ∧ part = [lead] ∨
      ∃ count lo hi, follow lead = some (count, lo, hi) ∧
        part = lead :: tail count lo hi rest) := by
  unfold piece at read
  split at read
  · cases read
  · next large =>
    refine ⟨large, ?_⟩
    split at read
    · next follows =>
      cases read
      exact ⟨rfl, .inl ⟨follows, rfl⟩⟩
    · next count lo hi follows =>
      dsimp only at read
      split at read
      · cases read
      · cases read
        exact ⟨rfl, .inr ⟨count, lo, hi, follows, rfl⟩⟩

end

theorem piecesCons (lead : UInt8) (rest : Bytes) :
    pieces (lead :: rest) = (piece lead rest).1 :: pieces (rest.drop (piece lead rest).2) := by
  rw [pieces]

theorem piecesNil : pieces [] = [] := by rw [pieces]

theorem charSource {lead : UInt8} {rest : Bytes} {c : Char} {n : Nat}
    (read : piece lead rest = (.char c, n)) : lead :: rest = encodeChar c ++ rest.drop n := by
  have first : pieces (lead :: rest) = .char c :: pieces (rest.drop n) := by
    rw [piecesCons, read]
  rcases pieceSource read with ⟨small, rfl⟩ | ⟨lo, hi, follows, whole⟩
  · rw [piecesAscii small, List.drop_zero] at first
    cases (List.cons.inj first).1
    rw [encodeOne small, List.drop_zero, List.singleton_append]
  · obtain ⟨c', bytes⟩ := encodeContinued follows (tailContinues n lo hi rest) whole
    have split : rest = tail n lo hi rest ++ rest.drop n := by
      have taken := List.prefix_iff_eq_take.mp (tailPrefix n lo hi rest)
      rw [whole] at taken
      rw [taken, List.take_append_drop]
    have here : lead :: rest = encodeChar c' ++ rest.drop n := by
      rw [bytes, List.cons_append, ← split]
    rw [here, piecesEncodeChar] at first
    cases (List.cons.inj first).1
    exact here

theorem encodeCharSource {c : Char} {lead : UInt8} {more : Bytes}
    (bytes : encodeChar c = lead :: more) : lead.toNat < 0x80 ∧ more = [] ∨
      ∃ lo hi, follow lead = some (more.length, lo, hi) ∧ Continues lo hi more := by
  have alone := piecesEncodeChar c []
  rw [List.append_nil, bytes, piecesCons, piecesNil] at alone
  obtain ⟨first, rest⟩ := List.cons.inj alone
  have spent : more.drop (piece lead more).2 = [] := by
    cases left : more.drop (piece lead more).2 with
    | nil => rfl
    | cons x b =>
      rw [left, piecesCons] at rest
      cases rest
  have read : piece lead more = (.char c, (piece lead more).2) := Prod.ext first rfl
  rcases pieceSource read with ⟨small, none'⟩ | ⟨lo, hi, follows, whole⟩
  · rw [none', List.drop_zero] at spent
    exact .inl ⟨small, spent⟩
  · -- The continuation that is read is as long as all that is there.
    generalize (piece lead more).2 = n at spent follows whole
    have taken := tailPrefix n lo hi more
    have all : more.length = n :=
      Nat.le_antisymm (List.drop_eq_nil_iff.mp spent) (whole ▸ taken.length_le)
    have same : tail n lo hi more = more := taken.eq_of_length (whole.trans all.symm)
    exact .inr ⟨lo, hi, all ▸ follows, same ▸ tailContinues n lo hi more⟩

theorem continuesFilled {rest : Bytes} (continues : Continues 0x80 0xBF rest) (n : Nat) :
    Continues 0x80 0xBF (rest ++ List.replicate n 0x80) := by
  induction rest with
  | nil =>
    induction n with
    | zero => trivial
    | succ n ih => exact ⟨by decide, ih⟩
  | cons x rest ih => exact ⟨continues.1, ih continues.2⟩

theorem continuesPrefix {lo hi : Nat} {more back : Bytes}
    (continues : Continues lo hi (more ++ back)) : Continues lo hi more := by
  induction more generalizing lo hi with
  | nil => trivial
  | cons x more ih => exact ⟨continues.1, ih continues.2⟩

theorem fragmentContinued {lead : UInt8} {lo hi count : Nat}
    (follows : follow lead = some (count, lo, hi)) {more : Bytes} (continues : Continues lo hi more)
    (short : more.length ≤ count) : Fragment (lead :: more) := by
  cases more with
  | nil => exact .inl rfl
  | cons x rest =>
    rw [List.length_cons] at short
    have filled := continuesFilled continues.2 (count - (rest.length + 1))
    have whole : Continues lo hi (x :: (rest ++ List.replicate (count - (rest.length + 1)) 0x80)) :=
      ⟨continues.1, filled⟩
    obtain ⟨c, bytes⟩ := encodeContinued follows whole (by simp; omega)
    exact .inr ⟨c, bytes ▸ ⟨_, rfl⟩⟩

theorem brokenSource {lead : UInt8} {rest part : Bytes} {n : Nat}
    (read : piece lead rest = (.broken part, n)) :
    IllFormed part (lead :: rest) ∧ lead :: rest = part ++ rest.drop n := by
  -- The bytes that are passed over are the longest start of a character.
  obtain ⟨large, size, made⟩ := pieceBroken read
  have unread (c : Char) : ¬ encodeChar c <+: lead :: rest := by
    rintro ⟨back, same⟩
    have first := piecesEncodeChar c back
    rw [same, piecesCons, read] at first
    cases (List.cons.inj first).1
  have front : part <+: lead :: rest := by
    rcases made with ⟨-, rfl⟩ | ⟨count, lo, hi, -, rfl⟩
    · exact ⟨rest, rfl⟩
    · exact (List.prefix_cons_inj lead).mpr (tailPrefix count lo hi rest)
  refine ⟨⟨unread, front, List.ne_nil_of_length_eq_add_one size, ?_, ?_⟩, ?_⟩
  · rcases made with ⟨-, rfl⟩ | ⟨count, lo, hi, follows, rfl⟩
    · exact .inl rfl
    · exact fragmentContinued follows (tailContinues count lo hi rest) (tailShort count lo hi rest)
  · intro more here fragment
    rcases fragment with one | ⟨c, start⟩
    · omega
    · cases more with
      | nil => exact Nat.zero_le _
      | cons x more =>
        cases (List.cons_prefix_cons.mp here).1
        obtain ⟨back, whole⟩ := start
        rcases encodeCharSource whole.symm with ⟨small, -⟩ | ⟨lo, hi, follows, continues⟩
        · exact absurd small large
        · rcases made with ⟨none', -⟩ | ⟨count, lo', hi', follows', rfl⟩
          · cases none'.symm.trans follows
          · cases follows'.symm.trans follows
            have taken := tailLongest (continuesPrefix continues) (List.cons_prefix_cons.mp here).2
              (List.prefix_append more back).length_le
            exact Nat.succ_le_succ taken
  · have taken := List.prefix_iff_eq_take.mp front
    rw [size, List.take_succ_cons] at taken
    rw [taken, List.cons_append, List.take_append_drop]


theorem IllFormed.unique {part part' b : Bytes} (bad : IllFormed part b)
    (bad' : IllFormed part' b) : part = part' := by
  have shorter := bad'.longest part bad.front bad.fragment
  have longer := bad.longest part' bad'.front bad'.fragment
  rw [List.prefix_iff_eq_take.mp bad.front, List.prefix_iff_eq_take.mp bad'.front,
    Nat.le_antisymm shorter longer]

theorem decodeChar (c : Char) (rest : Bytes) :
    decodeReplacing (encodeChar c ++ rest) = c :: decodeReplacing rest := by
  rw [decodeReplacing, piecesEncodeChar, List.map_cons]
  rfl

theorem decodeBroken {part rest : Bytes} (bad : IllFormed part (part ++ rest)) :
    decodeReplacing (part ++ rest) = Char.ofNat 0xFFFD :: decodeReplacing rest := by
  obtain ⟨lead, more, rfl⟩ := List.exists_cons_of_ne_nil bad.nonempty
  rw [List.cons_append] at bad ⊢
  rw [decodeReplacing, piecesCons]
  cases read : piece lead (more ++ rest) with
  | mk p n =>
    cases p with
    | char c => exact absurd ⟨_, (charSource read).symm⟩ (bad.unread c)
    | broken part =>
      obtain ⟨bad', whole⟩ := brokenSource read
      cases bad.unique bad'
      rw [List.cons_append] at whole
      rw [List.map_cons, ← List.append_cancel_left (List.cons.inj whole).2]
      rfl

theorem replacedReads (b : Bytes) : Replaced b (decodeReplacing b) := by
  induction b using pieces.induct with
  | case1 =>
    rw [decodeReplacing, piecesNil]
    exact .done
  | case2 lead rest ih =>
    cases read : piece lead rest with
    | mk p n =>
      rw [read] at ih
      cases p with
      | char c =>
        rw [charSource read, decodeChar]
        exact .char c ih
      | broken part =>
        obtain ⟨bad, whole⟩ := brokenSource read
        rw [whole] at bad ⊢
        rw [decodeBroken bad]
        exact .broken bad ih

theorem replacedIff {b : Bytes} {cs : List Char} : Replaced b cs ↔ decodeReplacing b = cs := by
  constructor
  · intro replaced
    induction replaced with
    | done => rw [decodeReplacing, piecesNil, List.map_nil]
    | char c behind ih => rw [decodeChar, ih]
    | broken bad behind ih => rw [decodeBroken bad, ih]
  · rintro rfl
    exact replacedReads b

theorem decodeEncoded (cs : List Char) : decodeReplacing (encode cs) = cs := by
  induction cs with
  | nil => rw [encode, List.flatMap_nil, decodeReplacing, piecesNil, List.map_nil]
  | cons c rest ih =>
    rw [encode, List.flatMap_cons, decodeChar]
    exact congrArg (c :: ·) ih

def asciiChars (b : Bytes) : List Char := b.map fun x => Char.ofNat x.toNat

theorem decodeAhead {front : Bytes} (ascii : ∀ x ∈ front, x.toNat < 0x80) (b : Bytes) :
    decodeReplacing (front ++ b) = asciiChars front ++ decodeReplacing b := by
  induction front with
  | nil => rfl
  | cons x front ih =>
    obtain ⟨small, later⟩ := List.forall_mem_cons.mp ascii
    have one := decodeChar (Char.ofNat x.toNat) (front ++ b)
    rw [encodeOne small, List.singleton_append] at one
    rw [List.cons_append, one, ih later]
    rfl

theorem pieceAppend {back : Bytes} (ascii : ∀ x ∈ back.head?, x.toNat < 0x80) (lead : UInt8)
    (rest : Bytes) : piece lead (rest ++ back) = piece lead rest := by
  unfold piece
  split
  · rfl
  · split
    · rfl
    · next count lo hi follows => rw [tailAppend ascii (followSource follows).1.1]

theorem pieceInside (lead : UInt8) (rest : Bytes) : (piece lead rest).2 ≤ rest.length := by
  cases read : piece lead rest with
  | mk p n =>
    cases p with
    | char c =>
      rcases pieceSource read with ⟨-, rfl⟩ | ⟨lo, hi, -, whole⟩
      · exact Nat.zero_le _
      · exact whole ▸ (tailPrefix n lo hi rest).length_le
    | broken part =>
      have front := (brokenSource read).1.front.length_le
      rw [(pieceBroken read).2.1, List.length_cons] at front
      exact Nat.le_of_succ_le_succ front

theorem piecesAppend {back : Bytes} (ascii : ∀ x ∈ back.head?, x.toNat < 0x80) (b : Bytes) :
    pieces (b ++ back) = pieces b ++ pieces back := by
  induction b using pieces.induct with
  | case1 => rw [piecesNil, List.nil_append, List.nil_append]
  | case2 lead rest ih =>
    rw [List.cons_append, piecesCons, piecesCons, pieceAppend ascii,
      List.drop_append_of_le_length (pieceInside lead rest), ih, List.cons_append]

theorem decodeBehind {back : Bytes} (ascii : ∀ x ∈ back, x.toNat < 0x80) (b : Bytes) :
    decodeReplacing (b ++ back) = decodeReplacing b ++ asciiChars back := by
  have alone := decodeAhead ascii []
  rw [List.append_nil, decodeReplacing, decodeReplacing, piecesNil, List.map_nil,
    List.append_nil] at alone
  rw [decodeReplacing, piecesAppend (fun x first => ascii x (List.mem_of_mem_head? first)),
    List.map_append, alone, decodeReplacing]

end Text.Utf8

namespace Text

theorem trimAround {front back : List Char} (before : ∀ c ∈ front, isBlank c = true)
    (behind : ∀ c ∈ back, isBlank c = true) (cs : List Char) :
    trim (front ++ cs ++ back) = trim cs := by
  have right (cs : List Char) : trimRight (cs ++ back) = trimRight cs := by
    rw [trimRight, List.reverse_append, List.dropWhile_append_of_pos (by simpa using behind)]
    rfl
  rw [trim, trimLeft, List.append_assoc, List.dropWhile_append_of_pos before,
    List.dropWhile_append]
  split
  · next spent =>
    rw [List.dropWhile_eq_nil_iff.mpr behind, trim, trimLeft, List.isEmpty_iff.mp spent]
  · exact right _

def isBlankByte (x : UInt8) : Bool := x.toNat < 0x80 && isBlank (Char.ofNat x.toNat)

end Text

namespace Execution

theorem textEncoded (code : Int) (s : String) :
    text ⟨code, Text.Utf8.ofString s⟩ = Text.trimmed s := by
  rw [text, Text.Utf8.ofString, Text.Utf8.decodeEncoded, Text.trimmed]

theorem trimmedAround {l r : String} (before : Text.blank l = true) (behind : Text.blank r = true)
    (t : String) : Text.trimmed (l ++ t ++ r) = Text.trimmed t := by
  have chars {s : String} (blank : Text.blank s = true) : ∀ c ∈ s.toList, Text.isBlank c = true :=
    fun c mem => List.all_eq_true.mp blank _ (List.mem_map_of_mem mem)
  rw [Text.trimmed, String.toList_append, String.toList_append,
    Text.trimAround (chars before) (chars behind), Text.trimmed]

theorem textReplaced (code : Int) {b : Bytes} {cs : List Char}
    (replaced : Text.Utf8.Replaced b cs) : text ⟨code, b⟩ = String.ofList (Text.trim cs) := by
  rw [text, Text.Utf8.replacedIff.mp replaced]

theorem textAround (code : Int) {front back : Bytes}
    (before : ∀ x ∈ front, Text.isBlankByte x = true)
    (behind : ∀ x ∈ back, Text.isBlankByte x = true) (b : Bytes) :
    text ⟨code, front ++ b ++ back⟩ = text ⟨code, b⟩ := by
  have ascii {bytes : Bytes} (blank : ∀ x ∈ bytes, Text.isBlankByte x = true) :
      ∀ x ∈ bytes, x.toNat < 0x80 := fun x mem =>
    of_decide_eq_true (Bool.and_eq_true_iff.mp (blank x mem)).1
  have blankChars {bytes : Bytes} (blank : ∀ x ∈ bytes, Text.isBlankByte x = true) :
      ∀ c ∈ Text.Utf8.asciiChars bytes, Text.isBlank c = true :=
    List.forall_mem_map.mpr fun x mem => (Bool.and_eq_true_iff.mp (blank x mem)).2
  rw [text, Text.Utf8.decodeBehind (ascii behind), Text.Utf8.decodeAhead (ascii before),
    Text.trimAround (blankChars before) (blankChars behind), text]

/-- The text of output is what its bytes read as, ill-formed parts replaced, without the white space
at its ends. Text that was written as UTF-8 reads as itself, and more white space around output
makes no difference. -/
theorem outputTrimmed (code : Int) :
    (∀ l t r : String, Text.blank l = true → Text.blank r = true →
      text ⟨code, Text.Utf8.ofString (l ++ t ++ r)⟩ = Text.trimmed t) ∧
    ∀ b : Bytes, Text.Trimmed (text ⟨code, b⟩).toList ∧
      (∃ cs, Text.Utf8.Replaced b cs ∧ (∀ other, Text.Utf8.Replaced b other → other = cs) ∧
        text ⟨code, b⟩ = String.ofList (Text.trim cs)) ∧
      ∀ front back : Bytes, (∀ x ∈ front, Text.isBlankByte x = true) →
        (∀ x ∈ back, Text.isBlankByte x = true) →
        text ⟨code, front ++ b ++ back⟩ = text ⟨code, b⟩ := by
  constructor
  · intro l t r before behind
    rw [textEncoded, trimmedAround before behind]
  · intro b
    have replaced := Text.Utf8.replacedReads b
    refine ⟨textTrimmed _, ⟨_, replaced, fun other read => ?_, textReplaced code replaced⟩, ?_⟩
    · exact (Text.Utf8.replacedIff.mp read).symm
    · exact fun front back before behind => textAround code before behind b

theorem outputTrimmedCut :
    (Text.blank "\u3000" = true ∧ Text.blank "\x85\n" = true ∧
      text ⟨0, Text.Utf8.ofString ("\u3000" ++ "c1 é" ++ "\x85\n")⟩ = "c1 é") ∧
    (∀ x ∈ ([0x0A, 0x1C] : Bytes), Text.isBlankByte x = true) ∧
    text ⟨0, [0x0A, 0x1C] ++ [0xF0, 0x9F, 0xE2, 0x82] ++ [0x0A, 0x1C]⟩ = "\uFFFD\uFFFD" := by
  have before : Text.blank "\u3000" = true := by decide
  have behind : Text.blank "\x85\n" = true := by decide
  have blank : ∀ x ∈ ([0x0A, 0x1C] : Bytes), Text.isBlankByte x = true := by
    decide +kernel
  have around := (outputTrimmed 0).1 "\u3000" "c1 é" "\x85\n" before behind
  have cut := ((outputTrimmed 0).2 [0xF0, 0x9F, 0xE2, 0x82]).2.2 _ _ blank blank
  exact ⟨⟨before, behind, around.trans (by decide)⟩, blank,
    cut.trans (by decide +kernel)⟩

end Execution
end ContainerDriver
