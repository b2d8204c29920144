import ContainerDriver.Proofs.Archive.Metadata
import ContainerDriver.Proofs.Except
import ContainerDriver.Proofs.Table
import ContainerDriver.Proofs.Text.Utf8

/-! What an archive keeps of its entry. A name or an owner that the header block cannot hold stands
in a record, the field of the block holds something else, and the record is applied over it; the
records of an entry have different keywords, so none of them hides another. -/
namespace ContainerDriver.Archive

open Text.Numeral

theorem decimalChar {b : UInt8} (low : 0x30 ≤ b.toNat) (high : b.toNat ≤ 0x39) :
    decimalDigit? (Field.asciiChar b) = some (b.toNat - 0x30) ∧
      isPadding (Field.asciiChar b) = false ∧ Field.asciiChar b ≠ '_' ∧ Field.asciiChar b ≠ '-' ∧
      Field.asciiChar b ≠ '+' := by
  have small : b.toNat < 0x80 := by omega
  have code := Field.asciiCharToNat small
  refine ⟨?_, ?_, ?_⟩
  · simp [decimalDigit?, zeros, code, low, high]
  · simp [isPadding, Text.isBlank, Text.inRanges, Text.blankRanges, code]
    omega
  · simp only [ne_eq, Field.charIs _ small]
    simp only [Char.reduceToNat]
    omega

theorem unsignedDecimal {n : Nat} (short : n < Nat.pow 10 digitLimit) :
    unsignedDecimal? ((decimal n).map Field.asciiChar) = some n := by
  have some' : (decimal n).map Field.asciiChar ≠ [] := by simpa using decimalNeNil n
  have plain : ∀ c ∈ (decimal n).map Field.asciiChar, c ≠ '_' := by
    intro c mem
    obtain ⟨b, digit, rfl⟩ := List.mem_map.mp mem
    have range := decimalDigits digit
    exact (decimalChar range.1 range.2).2.2.1
  have few : ((decimal n).map (·.toNat - 0x30)).length ≤ digitLimit := by
    rw [List.length_map]
    exact decimalShort (by decide) short
  have value : ofDigits 10 ((decimal n).map (·.toNat - 0x30)) = n := by
    rw [ofDigits, List.foldl_map]
    exact Record.ofDecimalDecimal n
  have digits : ∀ b ∈ decimal n, decimalDigit? (Field.asciiChar b) = some (b.toNat - 0x30) :=
    fun b mem => (decimalChar (decimalDigits mem).1 (decimalDigits mem).2).1
  simp only [unsignedDecimal?, Field.digitsPlain decimalDigit? some' plain,
    Field.mapMDigits digits, bind, Option.bind, if_pos few, value]

theorem trimmedDecimal {cs : List Char} (plain : ∀ c ∈ cs, isPadding c = false) :
    decimal? cs = signed? unsignedDecimal? cs := by
  have keeps (ds : List Char) (none' : ∀ c ∈ ds, isPadding c = false) :
      ds.dropWhile isPadding = ds :=
    List.dropWhile_eq_self_iff.mpr fun some' => by
      simp [none' _ (List.getElem_mem some')]
  rw [decimal?, keeps cs plain, keeps cs.reverse (by simpa using plain), List.reverse_reverse]

theorem digitChars (n : Nat) :
    ∀ c ∈ (decimal n).map Field.asciiChar, isPadding c = false ∧ c ≠ '-' ∧ c ≠ '+' := by
  intro c mem
  obtain ⟨b, digit, rfl⟩ := List.mem_map.mp mem
  have range := decimalDigits digit
  have char := decimalChar range.1 range.2
  exact ⟨char.2.1, char.2.2.2⟩

theorem numberWritten {n : Int} (short : writable n = true) :
    Attributes.number? (signedDecimal n) = some n := by
  have read := unsignedDecimal (of_decide_eq_true short)
  have chars := digitChars n.natAbs
  have ascii : ∀ x ∈ decimal n.natAbs, x.toNat < 0x80 := fun x mem => by
    have range := decimalDigits mem
    omega
  by_cases negative : n < 0
  · have sign : isPadding '-' = false := by decide
    have text : Text.Utf8.decode? (signedDecimal n) =
        some ('-' :: (decimal n.natAbs).map Field.asciiChar) := by
      rw [signedDecimal, if_pos negative, Text.Utf8.decodeAscii (by simpa using ascii)]
      rfl
    rw [Attributes.number?, text]
    change decimal? _ = _
    rw [trimmedDecimal (List.forall_mem_cons.mpr ⟨sign, fun c mem => (chars c mem).1⟩), signed?,
      read]
    have value : -(n.natAbs : Int) = n := by omega
    exact congrArg some value
  · have text : Text.Utf8.decode? (signedDecimal n) =
        some ((decimal n.natAbs).map Field.asciiChar) := by
      rw [signedDecimal, if_neg negative, Text.Utf8.decodeAscii ascii]
      rfl
    rw [Attributes.number?, text]
    change decimal? _ = _
    rw [trimmedDecimal fun c mem => (chars c mem).1, signed?]
    · rw [read]
      have value : (n.natAbs : Int) = n := by omega
      exact congrArg some value
    · intro rest same
      exact (chars '-' (same ▸ List.mem_cons_self)).2.1 rfl
    · intro rest same
      exact (chars '+' (same ▸ List.mem_cons_self)).2.2 rfl

namespace Attributes

theorem addDistinct {rs : List Record} (distinct : (rs.map Record.keyword).Nodup) :
    add [] rs = rs.map fun r => (r.keyword, r.value) := by
  have entries : Table.Distinct (rs.map fun r => (r.keyword, r.value)) := by
    rw [Table.Distinct, List.map_map]
    exact distinct
  have kept := Table.ofDistinct entries
  rwa [Table.ofEntries, Table.overlay, List.foldl_map] at kept

theorem applyDistinct {rs : List Record} (distinct : (rs.map Record.keyword).Nodup) (m : Member) :
    (add [] rs).apply m = rs.foldlM (fun m r => applyOne m r.keyword r.value) m := by
  rw [addDistinct distinct, apply, List.foldlM_map]

end Attributes

namespace Entry

theorem keywordsDistinct (e : Entry) (now : Int) :
    ((e.records now).map Record.keyword).Nodup := by
  have number (keyword : String) (width : Nat) (n : Int) :
      ((numberRecord keyword width n).map Record.keyword).Sublist [Bytes.ofAscii keyword] := by
    unfold numberRecord
    split
    · exact List.nil_sublist _
    · exact List.Sublist.refl _
  have charset : ((charsetRecord e.name).map Record.keyword).Sublist
      [Bytes.ofAscii "hdrcharset"] := by
    unfold charsetRecord
    split
    · exact List.Sublist.refl _
    · exact List.nil_sublist _
  have path : ((pathRecord e.name).map Record.keyword).Sublist [Bytes.ofAscii "path"] := by
    unfold pathRecord
    split
    · exact List.Sublist.refl _
    · exact List.nil_sublist _
  have inside : ((e.records now).map Record.keyword).Sublist keywords := by
    simp only [records, List.map_append]
    exact (((charset.append path).append (number "uid" 8 e.uid)).append
      (number "gid" 8 e.gid)).append (number "mtime" 12 now)
  exact inside.nodup (by decide)

theorem shownExact {width : Nat} {n : Int} (fits : Field.fits width n = true) :
    (shown width n : Int) = n := by
  rw [shown, if_pos fits]
  simp only [Field.fits, Bool.and_eq_true, decide_eq_true_eq] at fits
  omega

variable {m m' : Member}

theorem numberApplied {keyword : String} {width : Nat} {n : Int}
    (kept : Field.fits width n = true → m = m')
    (applied : Attributes.applyOne m (Bytes.ofAscii keyword) (signedDecimal n) = .ok m') :
    (numberRecord keyword width n).foldlM
      (fun m r => Attributes.applyOne m r.keyword r.value) m = .ok m' := by
  unfold numberRecord
  split
  · next fits => exact congrArg Except.ok (kept fits)
  · rw [List.foldlM_cons, applied]
    rfl

theorem nameUntouched {name : String} (file : name.toList.getLast? ≠ some '/') :
    dropTrailingSlashes (Text.Utf8.ofString name) = Text.Utf8.ofString name := by
  have last : (Text.Utf8.ofString name).getLast? ≠ some slash := fun ends =>
    file (Text.Utf8.lastChar (x := slash) (by decide) ends)
  rw [dropTrailingSlashes]
  cases turned : (Text.Utf8.ofString name).reverse with
  | nil => rw [List.dropWhile_nil, ← turned, List.reverse_reverse]
  | cons x rest =>
    have other : x ≠ slash := by
      rintro rfl
      rw [← List.head?_reverse, turned] at last
      exact last rfl
    rw [List.dropWhile_cons_of_neg (by simpa using other), ← turned, List.reverse_reverse]

theorem asciiName {name : String} (ascii : ∀ c ∈ name.toList, c.toNat < 0x80) :
    Bytes.ofAscii name = Text.Utf8.ofString name := by
  rw [Bytes.ofAscii, Text.Utf8.ofString, Text.Utf8.encode, List.map_eq_flatMap]
  exact List.flatMap_congr fun c mem => (if_pos (ascii c mem)).symm

theorem headerName {e : Entry} {name : String} (now : Int) (unicode : e.name = name)
    (plain : needsPath e.name = false) (clean : '\x00' ∉ name.toList) :
    (e.header now).fields.name = Text.Utf8.ofString name := by
  rw [unicode] at plain
  rw [← asciiName fun c mem => plainCode plain _ (List.mem_map_of_mem mem),
    ← shortNamePlain plain clean, ← unicode]
  rfl

theorem recordsApplied {e : Entry} {name : String} {now : Int} (unicode : e.name = name)
    (uid : writable e.uid = true) (gid : writable e.gid = true) (clean : '\x00' ∉ name.toList)
    (file : name.toList.getLast? ≠ some '/') (start : Nat) :
    (Attributes.add [] (e.records now)).apply (Member.ofFields (e.header now).fields start) =
      .ok { Member.ofFields (e.header now).fields start with
        name := Text.Utf8.ofString name, uid := e.uid, gid := e.gid } := by
  let first := Member.ofFields (e.header now).fields start
  let named := { first with name := Text.Utf8.ofString name }
  have charset : (charsetRecord e.name).foldlM
      (fun m r => Attributes.applyOne m r.keyword r.value) first = .ok first := by
    unfold charsetRecord
    split
    · rw [List.foldlM_cons, Attributes.applyOneAside (by decide)]
      rfl
    · rfl
  have path : (pathRecord e.name).foldlM
      (fun m r => Attributes.applyOne m r.keyword r.value) first = .ok named := by
    unfold pathRecord
    split
    · have word : Attributes.applyOne first (Bytes.ofAscii "path") (Text.Utf8.ofString name) =
          .ok { first with name := dropTrailingSlashes (Text.Utf8.ofString name) } := rfl
      rw [List.foldlM_cons, unicode, Text.Utf8.ofTextOfString, word, nameUntouched file]
      rfl
    · next plain =>
      have same : first.name = Text.Utf8.ofString name :=
        headerName now unicode (Bool.not_eq_true _ ▸ plain) clean
      rw [List.foldlM_nil]
      change Except.ok first = Except.ok { first with name := _ }
      rw [← same]
  have owner : (numberRecord "uid" 8 e.uid).foldlM
      (fun m r => Attributes.applyOne m r.keyword r.value) named =
        .ok { named with uid := e.uid } := by
    refine numberApplied (fun fits => ?_) ?_
    · rw [← shownExact fits]
      rfl
    · change Except.ok { named with uid := (Attributes.number? (signedDecimal e.uid)).getD 0 } = _
      rw [numberWritten uid, Option.getD_some]
  have group : (numberRecord "gid" 8 e.gid).foldlM
      (fun m r => Attributes.applyOne m r.keyword r.value) { named with uid := e.uid } =
        .ok { named with uid := e.uid, gid := e.gid } := by
    refine numberApplied (fun fits => ?_) ?_
    · rw [← shownExact fits]
      rfl
    · change Except.ok { named with
        uid := e.uid, gid := (Attributes.number? (signedDecimal e.gid)).getD 0 } = _
      rw [numberWritten gid, Option.getD_some]
  have clock := @numberApplied { named with uid := e.uid, gid := e.gid } _ "mtime" 12 now
    (fun _ => rfl) (Attributes.applyOneAside (by decide) _ _)
  rw [Attributes.applyDistinct (e.keywordsDistinct now), records, List.foldlM_append,
    List.foldlM_append, List.foldlM_append, List.foldlM_append, charset]
  simp only [bind, Except.bind, path, owner, group, clock]
  rfl

end Entry

theorem encodeDigits {e : Entry} {content archive : Bytes} {now : Int}
    (written : encode e content now = .ok archive) :
    writable e.uid = true ∧ writable e.gid = true := by
  obtain ⟨-, -, rest⟩ := Except.bindOk.mp written
  by_cases digits : (writable e.uid && writable e.gid && writable now) = true
  · simp only [Bool.and_eq_true] at digits
    exact digits.1
  · rw [Bool.not_eq_true] at digits
    simp only [digits, Bool.not_false, if_true] at rest
    cases rest

structure Member.Describes (m : Member) (e : Entry) (unicode : String) : Prop where
  regular : m.isRegular = true
  name : m.name = Text.Utf8.ofString unicode
  text : Text.Utf8.decode? m.name = some unicode.toList
  uid : m.uid = e.uid
  gid : m.gid = e.gid
  size : m.size = e.size
  mode : m.mode = e.mode.getD defaultMode % 0o10000

/-- The first member of a written archive has the name, the owner and the permissions of the entry
and the size of the content, whether the header block holds them or the records in front of it. -/
theorem metadataSurvives {e : Entry} {name : String} {content archive : Bytes} {now : Int}
    (written : encode e content now = .ok archive) (unicode : e.name = name)
    (clean : '\x00' ∉ name.toList) (file : name.toList.getLast? ≠ some '/') :
    ∃ m, firstMember archive = .ok m ∧ m.Describes e name ∧ m.size = content.length := by
  obtain ⟨uid, gid⟩ := encodeDigits written
  obtain ⟨size, -⟩ := encodeWritten written
  have count : ((e.header now).fields.size : Int) = e.size := by
    simp only [Header.fields, Entry.header]
    omega
  refine ⟨_, firstMemberWritten written (Entry.recordsApplied unicode uid gid clean file _), ?_,
    count.trans size.symm⟩
  exact {
    regular := rfl
    name := rfl
    text := Text.Utf8.decodeOfString name
    uid := rfl
    gid := rfl
    size := count
    mode := by
      simp only [Member.ofFields, Header.fields, Entry.header, Entry.permissions]
      omega }

theorem metadataSurvivesAwkward :
    ∃ archive m, encode awkward [1, 0, 255] 12345678901234 = .ok archive ∧
      awkward.name = "é=\n" ∧ '\x00' ∉ "é=\n".toList ∧ "é=\n".toList.getLast? ≠ some '/' ∧
      firstMember archive = .ok m ∧ m.Describes awkward "é=\n" := by
  obtain ⟨archive, written⟩ := awkwardWritten
  have clean : '\x00' ∉ "é=\n".toList := by decide
  have file : "é=\n".toList.getLast? ≠ some '/' := by decide
  obtain ⟨m, first, described, -⟩ := metadataSurvives written rfl clean file
  exact ⟨archive, m, written, rfl, clean, file, first, described⟩

end ContainerDriver.Archive
