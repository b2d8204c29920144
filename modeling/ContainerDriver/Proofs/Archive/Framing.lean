import ContainerDriver.Archive.Record
import Mathlib

/-! Records of extended headers read back. The length in front of a record counts its own digits,
so it has to be a fixed point; a payload of such records splits where it was joined. -/
namespace ContainerDriver.Archive

theorem decimalNeNil (n : Nat) : decimal n ≠ [] := by
  unfold decimal
  split <;> simp

theorem decimalDigits {n : Nat} {b : UInt8} (mem : b ∈ decimal n) :
    0x30 ≤ b.toNat ∧ b.toNat ≤ 0x39 := by
  have one (d : Nat) (small : d < 10) :
      0x30 ≤ (UInt8.ofNat (0x30 + d)).toNat ∧ (UInt8.ofNat (0x30 + d)).toNat ≤ 0x39 := by
    rw [UInt8.toNat_ofNat_of_lt' (by change _ < 256; omega)]
    omega
  induction n using decimal.induct with
  | case1 n small =>
    rw [decimal, if_pos small] at mem
    cases List.mem_singleton.mp mem
    exact one n small
  | case2 n large ih =>
    rw [decimal, if_neg large] at mem
    rcases List.mem_append.mp mem with front | last
    · exact ih front
    · cases List.mem_singleton.mp last
      exact one _ (Nat.mod_lt n (by decide))

theorem decimalLength {n k : Nat} (some' : 1 ≤ k) : (decimal n).length ≤ k ↔ n < 10 ^ k := by
  induction n using decimal.induct generalizing k with
  | case1 n small =>
    rw [decimal, if_pos small]
    have tens : 10 ^ 1 ≤ 10 ^ k := Nat.pow_le_pow_right (by decide) some'
    simp only [List.length_singleton]
    omega
  | case2 n large ih =>
    rw [decimal, if_neg large, List.length_append, List.length_singleton]
    cases k with
    | zero => contradiction
    | succ k =>
      cases k with
      | zero =>
        have front := List.length_pos_iff.mpr (decimalNeNil (n / 10))
        simp only [Nat.zero_add, Nat.pow_one]
        omega
      | succ k =>
        have front := ih (k := k + 1) (by omega)
        rw [Nat.add_le_add_iff_right, front, Nat.pow_succ 10 (k + 1),
          Nat.div_lt_iff_lt_mul (by decide)]

theorem lengthBelow (n : Nat) : n < 10 ^ (decimal n).length :=
  (decimalLength (List.length_pos_iff.mpr (decimalNeNil n))).mp (Nat.le_refl _)

namespace Record

theorem ofDecimalDecimal (n : Nat) : ofDecimal (decimal n) = n := by
  induction n using decimal.induct with
  | case1 n small =>
    rw [decimal, if_pos small]
    simp only [ofDecimal, List.foldl_cons, List.foldl_nil]
    rw [UInt8.toNat_ofNat_of_lt' (by change _ < 256; omega)]
    omega
  | case2 n large ih =>
    rw [decimal, if_neg large]
    simp only [ofDecimal] at ih
    simp only [ofDecimal, List.foldl_append, ih, List.foldl_cons, List.foldl_nil]
    rw [UInt8.toNat_ofNat_of_lt' (by change _ < 256; omega)]
    omega

theorem totalLengthFixed (body : Nat) :
    (decimal (totalLength body)).length + body = totalLength body := by
  let first := (decimal (body + 1)).length
  let second := (decimal (body + first)).length
  have firstPos : 1 ≤ first := List.length_pos_iff.mpr (decimalNeNil _)
  have secondPos : 1 ≤ second := List.length_pos_iff.mpr (decimalNeNil _)
  have belowFirst : body + 1 < 10 ^ first := lengthBelow _
  have belowSecond : body + first < 10 ^ second := lengthBelow _
  have grows : first ≤ second := (decimalLength secondPos).mpr (by omega)
  -- A digit more makes room for ten times as much, so the second count is final.
  have fits : body + second < 10 ^ second := by
    rcases Nat.eq_or_lt_of_le grows with same | more
    · rw [← same] at belowSecond ⊢
      exact belowSecond
    · obtain ⟨k, hk⟩ := Nat.exists_eq_add_of_lt more
      have tens : 10 ^ first ≤ 10 ^ (second - 1) := Nat.pow_le_pow_right (by decide) (by omega)
      have room : second - 1 < 10 ^ (second - 1) := Nat.lt_pow_self (by decide)
      have step : 10 ^ second = 10 ^ (second - 1) * 10 := by
        rw [← Nat.pow_succ]
        congr 1
        omega
      omega
  have atMost : (decimal (body + second)).length ≤ second := (decimalLength secondPos).mpr fits
  have atLeast : second ≤ (decimal (body + second)).length := by
    have below := lengthBelow (body + second)
    exact (decimalLength (List.length_pos_iff.mpr (decimalNeNil _))).mpr (by omega)
  have total : totalLength body = body + second := rfl
  rw [total]
  omega

theorem totalLengthBelow {body : Nat} (small : body < 10 ^ 6) : totalLength body ≤ body + 7 := by
  have inner : (decimal (body + 1)).length ≤ 7 := (decimalLength (by decide)).mpr (by omega)
  have outer : (decimal (body + (decimal (body + 1)).length)).length ≤ 7 :=
    (decimalLength (by decide)).mpr (by omega)
  unfold totalLength
  omega

theorem bytesLength (r : Record) : r.bytes.length = totalLength r.bodyLength := by
  have fixed := totalLengthFixed r.bodyLength
  simp only [bytes, List.length_append, List.length_cons, List.length_nil]
  simp only [bodyLength] at fixed ⊢
  omega

structure Sound (r : Record) : Prop where
  keyword : r.keyword ≠ []
  plain : 0x3D ∉ r.keyword

theorem isDigitOfDecimal {n : Nat} : ∀ b ∈ decimal n, isDigit b = true := by
  intro b mem
  have range := decimalDigits mem
  simp only [isDigit, Bool.and_eq_true, decide_eq_true_eq, UInt8.le_iff_toNat_le]
  exact range

theorem takeDigits {ds : Bytes} (digits : ∀ b ∈ ds, isDigit b = true) (rest : Bytes) :
    (ds ++ 0x20 :: rest).takeWhile isDigit = ds := by
  rw [List.takeWhile_append_of_pos digits]
  simp [isDigit]

theorem takeKeyword {keyword : Bytes} (plain : 0x3D ∉ keyword) (value : Bytes) :
    (keyword ++ 0x3D :: value).takeWhile (· ≠ 0x3D) = keyword := by
  have all : ∀ b ∈ keyword, decide (b ≠ 0x3D) = true := by
    intro b mem
    simp only [decide_eq_true_eq]
    exact fun same => plain (same ▸ mem)
  rw [List.takeWhile_append_of_pos all]
  simp

section
variable (ds body rest : Bytes)

theorem framedBody :
    ((ds ++ 0x20 :: (body ++ 0x0A :: rest)).take (ds.length + body.length + 1)).drop (ds.length + 1)
      = body := by
  have front : ds ++ 0x20 :: (body ++ 0x0A :: rest)
      = (ds ++ [0x20]) ++ (body ++ 0x0A :: rest) := by simp
  have count : ds.length + body.length + 1 = (ds ++ [0x20]).length + body.length := by
    simp
    omega
  have start : ds.length + 1 = (ds ++ [0x20]).length := by simp
  rw [front, count, start, List.take_length_add_append, List.take_left, List.drop_left]

theorem framedEnd :
    (ds ++ 0x20 :: (body ++ 0x0A :: rest))[ds.length + body.length + 1]? = some 0x0A := by
  have front : ds ++ 0x20 :: (body ++ 0x0A :: rest)
      = (ds ++ 0x20 :: body) ++ 0x0A :: rest := by simp
  have count : ds.length + body.length + 1 = (ds ++ 0x20 :: body).length := by
    simp
    omega
  rw [front, count, List.getElem?_append_right (Nat.le_refl _)]
  simp

end

theorem digitsStart {ds : Bytes} (digits : ∀ b ∈ ds, isDigit b = true) (some' : ds ≠ [])
    (rest : Bytes) : ¬(ds ++ rest = [] ∨ (ds ++ rest).head? = some 0) := by
  -- The first digit is neither the end of a payload nor its filling.
  cases ds with
  | nil => exact absurd rfl some'
  | cons d ds =>
    have digit := digits d List.mem_cons_self
    have nonzero : d ≠ 0 := by
      rintro rfl
      exact absurd digit (by decide)
    simp [nonzero]

end Record

structure Frame where
  digits : Bytes
  record : Record

namespace Frame

def bytes (f : Frame) : Bytes :=
  f.digits ++ 0x20 :: f.record.keyword ++ 0x3D :: f.record.value ++ [0x0A]

structure Sound (f : Frame) : Prop where
  record : f.record.Sound
  digits : ∀ b ∈ f.digits, Record.isDigit b = true
  few : f.digits.length ≤ 20
  counts : Record.ofDecimal f.digits = f.bytes.length

theorem bytesLength (f : Frame) : f.bytes.length = f.digits.length + f.record.bodyLength := by
  simp only [bytes, Record.bodyLength, List.length_append, List.length_cons, List.length_nil]
  omega

theorem Sound.nonempty {f : Frame} (sound : f.Sound) : f.digits ≠ [] := by
  intro none'
  have counts := sound.counts
  have zero : Record.ofDecimal f.digits = 0 := by rw [none', Record.ofDecimal, List.foldl_nil]
  simp only [zero, bytesLength, Record.bodyLength] at counts
  omega

theorem firstRead {f : Frame} (sound : f.Sound) (rest : Bytes) :
    Record.first? (f.bytes ++ rest) = some (f.record, f.bytes.length) := by
  let body := f.record.keyword ++ 0x3D :: f.record.value
  have counts := sound.counts
  have kept : 1 ≤ f.record.keyword.length := List.length_pos_iff.mpr sound.record.keyword
  have some' : 1 ≤ f.digits.length := List.length_pos_iff.mpr sound.nonempty
  have bodyCount : body.length + 2 = f.record.bodyLength := by
    simp [body, Record.bodyLength]
    omega
  have total : f.bytes.length - 1 = f.digits.length + body.length + 1 := by
    rw [bytesLength]
    omega
  have whole : f.bytes ++ rest = f.digits ++ 0x20 :: (body ++ 0x0A :: rest) := by
    simp [bytes, body]
  have digits : (f.bytes ++ rest).takeWhile Record.isDigit = f.digits := by
    rw [whole]
    exact Record.takeDigits sound.digits _
  have blank : (f.bytes ++ rest)[f.digits.length]? = some 0x20 := by
    rw [whole, List.getElem?_append_right (Nat.le_refl _)]
    simp
  have inner : ((f.bytes ++ rest).take (f.bytes.length - 1)).drop (f.digits.length + 1) = body := by
    rw [whole, total, Record.framedBody]
  have word : body.takeWhile (· ≠ 0x3D) = f.record.keyword :=
    Record.takeKeyword sound.record.plain f.record.value
  have value : body.drop (f.record.keyword.length + 1) = f.record.value := by simp [body]
  have last : (f.bytes ++ rest)[f.bytes.length - 1]? = some 0x0A := by
    rw [whole, total, Record.framedEnd]
  have inside : f.bytes.length ≤ (f.bytes ++ rest).length := by
    rw [List.length_append]
    omega
  have longer : f.record.keyword.length < body.length := by simp [body]
  unfold Record.first?
  simp only [digits, counts, inner, word, value]
  rw [if_pos]
  exact ⟨some', sound.few, blank, by omega, inside, sound.record.keyword, longer, last⟩

theorem parseRead {fs : List Frame} (sound : ∀ f ∈ fs, f.Sound) (fill : Nat) :
    Record.parse? (fs.flatMap bytes ++ Bytes.zeros fill) = some (fs.map record) := by
  induction fs with
  | nil =>
    unfold Record.parse?
    cases fill <;> simp [Bytes.zeros, List.replicate_succ]
  | cons f rest ih =>
    obtain ⟨here, later⟩ := List.forall_mem_cons.mp sound
    have first := firstRead here (rest.flatMap bytes ++ Bytes.zeros fill)
    have start := Record.digitsStart here.digits here.nonempty
      (0x20 :: f.record.keyword ++ 0x3D :: f.record.value ++ [0x0A] ++
        (rest.flatMap bytes ++ Bytes.zeros fill))
    have same : f.bytes ++ (rest.flatMap bytes ++ Bytes.zeros fill) = f.digits ++
        (0x20 :: f.record.keyword ++ 0x3D :: f.record.value ++ [0x0A] ++
          (rest.flatMap bytes ++ Bytes.zeros fill)) := by
      simp [bytes]
    rw [List.flatMap_cons, List.append_assoc, Record.parse?, if_neg (same ▸ start)]
    split
    · next none' => simp [first] at none'
    · next r' n found =>
      cases first.symm.trans found
      rw [List.drop_left, ih later]
      rfl

def ofRecord (r : Record) : Frame := ⟨decimal (Record.totalLength r.bodyLength), r⟩

theorem ofRecordBytes (r : Record) : (ofRecord r).bytes = r.bytes := rfl

theorem ofRecordSound {r : Record} (sound : r.Sound) (bound : r.bytes.length < 10 ^ 20) :
    (ofRecord r).Sound where
  record := sound
  digits := Record.isDigitOfDecimal
  few := (decimalLength (by decide)).mpr (r.bytesLength ▸ bound)
  counts := by
    rw [ofRecordBytes, r.bytesLength]
    exact Record.ofDecimalDecimal _

end Frame

theorem Record.parseBytes {rs : List Record} (sound : ∀ r ∈ rs, r.Sound)
    (bound : (rs.flatMap bytes).length < 10 ^ 20) (fill : Nat) :
    parse? (rs.flatMap bytes ++ Bytes.zeros fill) = some rs := by
  have frames : ∀ f ∈ rs.map Frame.ofRecord, f.Sound := by
    intro f mem
    obtain ⟨r, inside, rfl⟩ := List.mem_map.mp mem
    have short : r.bytes.length ≤ (rs.flatMap bytes).length :=
      (List.sublist_flatten_of_mem (List.mem_map_of_mem inside)).length_le
    exact Frame.ofRecordSound (sound r inside) (by omega)
  have read := Frame.parseRead frames fill
  rw [List.flatMap_map, List.map_map] at read
  exact read.trans (congrArg some (List.map_id rs))

end ContainerDriver.Archive
