import ContainerDriver.Proofs.Archive.Mishaps

/-! Chains of extended headers. The headers on a tape lead to one member, and what they say of its
size, in the order in which they are applied, is the size of the member that is found. One chain
escapes: if the outermost header lists extents that are no numbers, its member is read and then
forgotten. -/
namespace ContainerDriver.Archive

namespace Attributes

/-- The size of a member as attributes have it: the last of them that speaks of the size decides,
and one that should be a number and is none counts as zero. -/
def sizeOver (a : Attributes) (size : Int) : Int :=
  a.foldl (fun size kv =>
    if kv.1 = key "GNU.sparse.size" ∨ kv.1 = key "GNU.sparse.realsize" then (number? kv.2).getD 0
    else if kv.1 = key "size" then (number? kv.2).getD 0
    else size) size

theorem applyOneSource {m n : Member} {keyword value : Bytes}
    (applied : applyOne m keyword value = .ok n) :
    n.size = sizeOver [(keyword, value)] m.size ∧ n.flag = m.flag ∧ n.start = m.start ∧
      n.extents = m.extents := by
  have named (name : keyword = key "GNU.sparse.name" ∨ keyword = key "path") :
      m.size = sizeOver [(keyword, value)] m.size := by
    rcases name with rfl | rfl <;> rfl
  unfold applyOne requiredNumber at applied
  split at applied
  · next name =>
    cases applied
    exact ⟨named (.inl name), rfl, rfl, rfl⟩
  · split at applied
    · next sparse =>
      cases number : number? value with
      | none => simp [number, Except.map] at applied
      | some size =>
        simp only [number, Except.map] at applied
        cases applied
        exact ⟨by simp [sizeOver, sparse, number], rfl, rfl, rfl⟩
    · next sparse =>
      split at applied
      · next path =>
        cases applied
        exact ⟨named (.inr path), rfl, rfl, rfl⟩
      · split at applied
        · next size =>
          cases applied
          have own : sizeOver [(keyword, value)] m.size = (number? value).getD 0 := by
            simp only [sizeOver, List.foldl_cons, List.foldl_nil, if_neg sparse, if_pos size]
          exact ⟨own.symm, rfl, rfl, rfl⟩
        · next other =>
          have same : m.size = sizeOver [(keyword, value)] m.size := by
            simp only [sizeOver, List.foldl_cons, List.foldl_nil, if_neg sparse, if_neg other]
          split at applied
          · cases applied
            exact ⟨same, rfl, rfl, rfl⟩
          · split at applied <;> cases applied <;> exact ⟨same, rfl, rfl, rfl⟩

theorem applySource {a : Attributes} {m n : Member} (applied : a.apply m = .ok n) :
    n.size = a.sizeOver m.size ∧ n.flag = m.flag ∧ n.start = m.start ∧ n.extents = m.extents := by
  induction a generalizing m with
  | nil =>
    cases applied
    exact ⟨rfl, rfl, rfl, rfl⟩
  | cons e rest ih =>
    rw [apply, List.foldlM_cons] at applied
    cases one : applyOne m e.1 e.2 with
    | error f => simp [one, bind, Except.bind] at applied
    | ok m' =>
      simp only [one, bind, Except.bind] at applied
      obtain ⟨size, flag, start, extents⟩ := applyOneSource one
      obtain ⟨size', flag', start', extents'⟩ := ih applied
      refine ⟨?_, flag'.trans flag, start'.trans start, extents'.trans extents⟩
      rw [size', size]
      rfl

theorem SparseFree.add {a : Attributes} {rs : List Record} (free : a.SparseFree)
    (new : ∀ r ∈ rs, ¬ key "GNU.sparse." <+: r.keyword) : (a.add rs).SparseFree :=
  @keysAdd (¬ key "GNU.sparse." <+: ·) a rs free new

end Attributes

structure Extension where
  kind : Kind
  records : List Record

def Extension.Holds (x : Extension) (buffer : Bytes) : Prop :=
  if x.kind = .longName ∨ x.kind = .longLink then x.records = []
  else Record.parse? buffer = some x.records

theorem Extension.Holds.named {kind : Kind} (named : kind = .longName ∨ kind = .longLink)
    (buffer : Bytes) : Extension.Holds ⟨kind, []⟩ buffer := by
  rw [Extension.Holds, if_pos named]

theorem Extension.Holds.records {kind : Kind} {rs : List Record} {buffer : Bytes}
    (other : ¬(kind = .longName ∨ kind = .longLink)) (records : Record.parse? buffer = some rs) :
    Extension.Holds ⟨kind, rs⟩ buffer := by
  rw [Extension.Holds, if_neg other]
  exact records

namespace Member

/-- Extended headers on a tape, the outermost first, and the header of the member behind them,
which stands at the last tape. -/
inductive Leads : Tape → List Extension → Fields → Tape → Prop where
  | own {t f} (header : Fields.ofBlock (t.rest.take blockSize) = .ok f)
      (plain : f.sparse = none → Kind.ofFlag f.flag = .plain) : Leads t [] f t
  | extended {t f buffer t' x chain g last} (ext : Extends t f buffer t')
      (kind : x.kind = Kind.ofFlag f.flag) (holds : x.Holds buffer)
      (behind : Leads t' chain g last) : Leads t (x :: chain) g last

def sharedBy (globals : Attributes) : List Extension → Attributes
  | [] => globals
  | x :: rest => sharedBy (if x.kind = .globals then globals.add x.records else globals) rest

/-- The size of a member as all of its headers have it. -/
def effectiveSize (globals : Attributes) : List Extension → Fields → Int
  | [], f =>
    match f.sparse with
    | some lead => lead.size
    | none => globals.sizeOver f.size
  | x :: rest, f =>
    let inner := effectiveSize (if x.kind = .globals then globals.add x.records else globals) rest f
    if x.kind = .attributes then (globals.add x.records).sizeOver inner else inner

def SparseFree (chain : List Extension) : Prop :=
  ∀ x ∈ chain, ∀ r ∈ x.records, ¬ Attributes.key "GNU.sparse." <+: r.keyword

/-- The outermost header lists extents of sparse content, a position or length of which is no
number. -/
def BadExtents : List Extension → Prop
  | [] => False
  | x :: rest =>
    let a := if x.kind = .globals then sharedBy [] (x :: rest) else Attributes.add [] x.records
    Table.get? (Attributes.key "GNU.sparse.map") a = none ∧
      Table.has (Attributes.key "GNU.sparse.size") a = true ∧
      ∃ r ∈ x.records, (r.keyword = Attributes.key "GNU.sparse.offset" ∨
        r.keyword = Attributes.key "GNU.sparse.numbytes") ∧ Attributes.number? r.value = none

theorem Leads.header {t last : Tape} {chain : List Extension} {f : Fields}
    (leads : Leads t chain f last) : Fields.ofBlock (last.rest.take blockSize) = .ok f := by
  induction leads with
  | own header plain => exact header
  | extended ext kind holds behind ih => exact ih

theorem Leads.unique {t last last' : Tape} {chain chain' : List Extension} {f f' : Fields}
    (one : Leads t chain f last) (two : Leads t chain' f' last') :
    chain = chain' ∧ f = f' ∧ last = last' := by
  induction one generalizing chain' f' last' with
  | own header plain =>
    cases two with
    | own header' plain' =>
      cases header.symm.trans header'
      exact ⟨rfl, rfl, rfl⟩
    | extended ext kind holds behind =>
      cases header.symm.trans ext.header
      exact absurd (plain ext.extents) ext.kind
  | @extended t f buffer t' x chain g last ext kind holds behind ih =>
    cases two with
    | own header' plain' =>
      cases header'.symm.trans ext.header
      exact absurd (plain' ext.extents) ext.kind
    | @extended _ _ _ _ x' _ _ _ ext' kind' holds' behind' =>
      cases ext.header.symm.trans ext'.header
      cases ext.payload.symm.trans ext'.payload
      obtain ⟨rfl, rfl, rfl⟩ := ih behind'
      have records : x.records = x'.records := by
        unfold Extension.Holds at holds holds'
        rw [kind] at holds
        rw [kind'] at holds'
        split at holds
        · next named =>
          rw [if_pos named] at holds'
          rw [holds, holds']
        · next named =>
          rw [if_neg named] at holds'
          exact Option.some.inj (holds.symm.trans holds')
      obtain ⟨k, rs⟩ := x
      obtain ⟨k', rs'⟩ := x'
      cases kind
      cases kind'
      cases records
      exact ⟨rfl, rfl, rfl⟩

structure Source (globals : Attributes) (chain : List Extension) (f : Fields) (last : Tape)
    (found : Found) : Prop where
  size : found.member.size = effectiveSize globals chain f
  flag : found.member.flag = f.flag
  shared : found.resume.globals = sharedBy globals chain
  stored : globals.SparseFree → SparseFree chain → f.sparse = none →
    found.member.extents = none ∧ found.member.start = (last.skip blockSize).position

theorem sparseSource {globals : Attributes} {f : Fields} {lead : SparseLead} {t : Tape}
    {found : Found} (sparse' : f.sparse = some lead)
    (read : sparse globals f lead (t.skip blockSize) = .ok found) :
    Source globals [] f t found := by
  have lost {P : Prop} (none' : f.sparse = none) : P := by simp [sparse'] at none'
  unfold sparse at read
  by_cases more : lead.more = true
  · simp only [more, if_true, bind, Except.bind] at read
    split at read
    · cases read
    · cases read
      exact ⟨by simp [effectiveSize, sparse'], rfl, rfl, fun _ _ none' => lost none'⟩
  · simp only [if_neg more, bind, Except.bind, pure, Except.pure] at read
    cases read
    exact ⟨by simp [effectiveSize, sparse'], rfl, rfl, fun _ _ none' => lost none'⟩

theorem trimSame (m : Member) : Attributes.SameContent m.trimDirectory m := by
  unfold trimDirectory
  split <;> exact ⟨rfl, rfl, rfl, rfl⟩

theorem plainSource {globals : Attributes} {f : Fields} {t : Tape} {found : Found}
    (sparse' : f.sparse = none) (read : plain globals f (t.skip blockSize) = .ok found) :
    Source globals [] f t found := by
  unfold plain at read
  split at read
  · cases read
  · next m applied =>
    cases read
    obtain ⟨size, flag, start, extents⟩ := Attributes.applySource applied
    have same := trimSame m
    have own : effectiveSize globals [] f = globals.sizeOver f.size := by
      simp [effectiveSize, sparse']
    refine ⟨(same.size.trans size).trans own.symm, same.flag.trans flag, rfl, fun _ _ _ => ?_⟩
    exact ⟨same.extents.trans extents, same.start.trans start⟩

theorem describeKeeps {a : Attributes} {rs : List Record} {found found' : Found}
    (described : Sparse.describe a rs found = .ok found') :
    found'.member.size = found.member.size ∧ found'.member.flag = found.member.flag ∧
      found'.resume.globals = found.resume.globals := by
  unfold Sparse.describe at described
  split at described
  · split at described <;> cases described
    exact ⟨rfl, rfl, rfl⟩
  · split at described
    · split at described <;> cases described
      exact ⟨rfl, rfl, rfl⟩
    · split at described
      · split at described <;> cases described
        exact ⟨rfl, rfl, rfl⟩
      · cases described
        exact ⟨rfl, rfl, rfl⟩

theorem sparseFreeCons {x : Extension} {chain : List Extension} (free : SparseFree (x :: chain)) :
    (∀ r ∈ x.records, ¬ Attributes.key "GNU.sparse." <+: r.keyword) ∧ SparseFree chain :=
  ⟨free x List.mem_cons_self, fun y mem => free y (List.mem_cons_of_mem _ mem)⟩

theorem SparseFree.sound {chain : List Extension} (free : SparseFree chain) :
    ¬ BadExtents chain := by
  cases chain with
  | nil => exact id
  | cons x rest =>
    rintro ⟨-, -, r, mem, word, -⟩
    refine (sparseFreeCons free).1 r mem ?_
    rcases word with same | same <;> rw [same] <;> decide

theorem sharedFree {globals : Attributes} {chain : List Extension} (clean : globals.SparseFree)
    (free : SparseFree chain) : (sharedBy globals chain).SparseFree := by
  induction chain generalizing globals with
  | nil => exact clean
  | cons x rest ih =>
    obtain ⟨own, later⟩ := sparseFreeCons free
    rw [sharedBy]
    split
    · exact ih (clean.add own) later
    · exact ih clean later

theorem Source.named {globals : Attributes} {x : Extension} {chain : List Extension} {f : Fields}
    {last : Tape} {found : Found} (kind : x.kind = .longName ∨ x.kind = .longLink)
    (inner : Source globals chain f last found) (payload : Bytes) :
    Source globals (x :: chain) f last
      { found with member := rename x.kind payload found.member } := by
  have same := renameSame x.kind payload found.member
  have notShared : x.kind ≠ .globals := by rcases kind with h | h <;> simp [h]
  have notOwn : x.kind ≠ .attributes := by rcases kind with h | h <;> simp [h]
  refine ⟨?_, same.flag.trans inner.flag, ?_, fun clean free plain => ?_⟩
  · rw [effectiveSize, if_neg notShared, if_neg notOwn]
    exact same.size.trans inner.size
  · rw [sharedBy, if_neg notShared]
    exact inner.shared
  · obtain ⟨extents, start⟩ := inner.stored clean (sparseFreeCons free).2 plain
    exact ⟨same.extents.trans extents, same.start.trans start⟩

theorem Source.globals {globals : Attributes} {x : Extension} {chain : List Extension} {f : Fields}
    {last : Tape} {found found' : Found} (kind : x.kind = .globals)
    (inner : Source (globals.add x.records) chain f last found)
    (described : Sparse.describe found.resume.globals x.records found = .ok found') :
    Source globals (x :: chain) f last found' := by
  obtain ⟨size, flag, shared⟩ := describeKeeps described
  refine ⟨?_, flag.trans inner.flag, ?_, fun clean free plain => ?_⟩
  · rw [effectiveSize, if_pos kind, if_neg (by simp [kind])]
    exact size.trans inner.size
  · rw [sharedBy, if_pos kind]
    exact shared.trans inner.shared
  · obtain ⟨own, later⟩ := sparseFreeCons free
    have all : (globals.add x.records).SparseFree := clean.add own
    rw [describeFree (inner.shared ▸ sharedFree all later)] at described
    cases described
    exact inner.stored all later plain

theorem Source.attributes {globals : Attributes} {x : Extension} {chain : List Extension}
    {f : Fields} {last : Tape} {found found' found'' : Found} (kind : x.kind = .attributes)
    (inner : Source globals chain f last found)
    (described : Sparse.describe (globals.add x.records) x.records found = .ok found')
    (applied : describe (globals.add x.records) found' = .ok found'') :
    Source globals (x :: chain) f last found'' := by
  obtain ⟨size, flag, shared⟩ := describeKeeps described
  have notShared : x.kind ≠ .globals := by simp [kind]
  unfold describe at applied
  split at applied
  · cases applied
  · next m good =>
    cases applied
    obtain ⟨size', flag', start', extents'⟩ := Attributes.applySource good
    refine ⟨?_, (flag'.trans flag).trans inner.flag, ?_, fun clean free plain => ?_⟩
    · rw [effectiveSize, if_neg notShared, if_pos kind, ← inner.size, ← size]
      exact size'
    · rw [sharedBy, if_neg notShared]
      exact shared.trans inner.shared
    · obtain ⟨own, later⟩ := sparseFreeCons free
      have all : (globals.add x.records).SparseFree := clean.add own
      rw [describeFree all] at described
      cases described
      obtain ⟨extents, start⟩ := inner.stored clean later plain
      exact ⟨extents'.trans extents, start'.trans start⟩

theorem findPastSource {globals : Attributes} {t t' : Tape} {f : Fields} {buffer : Bytes}
    {found : Found} (ext : Extends t f buffer t')
    (behind : ∀ g inner, find g t' = .ok inner →
      ∃ chain h last, Leads t' chain h last ∧ Source g chain h last inner)
    (read : findPast globals (Kind.ofFlag f.flag) buffer t' = .ok found) :
    ∃ chain h last, Leads t chain h last ∧ Source globals chain h last found := by
  generalize result : Except.ok found = r at read
  cases findPastTrace read with
  | unnamed named failed => cases result
  | renamed named inside =>
    cases result
    obtain ⟨chain, h, last, leads, source⟩ := behind _ _ inside
    let x : Extension := ⟨Kind.ofFlag f.flag, []⟩
    exact ⟨x :: chain, h, last, .extended ext rfl (.named named buffer) leads,
      source.named named buffer⟩
  | garbled other bad => cases result
  | unfound other records failed => cases result
  | undescribed other records inside failed => cases result
  | @shared rs inner _ globals' records inside described =>
    cases result
    obtain ⟨chain, h, last, leads, source⟩ := behind _ _ inside
    have holds : Extension.Holds ⟨Kind.ofFlag f.flag, rs⟩ buffer :=
      .records (by simp [globals']) records
    exact ⟨_, h, last, .extended ext rfl holds leads, .globals globals' source described⟩
  | @own rs inner _ _ other own' records inside described applied =>
    obtain ⟨chain, h, last, leads, source⟩ := behind _ _ inside
    have holds : Extension.Holds ⟨Kind.ofFlag f.flag, rs⟩ buffer := .records other records
    exact ⟨_, h, last, .extended ext rfl holds leads,
      .attributes (ext.attributes other own') source described (applied.trans result.symm)⟩

theorem findSource {globals : Attributes} {t : Tape} {found : Found}
    (read : find globals t = .ok found) :
    ∃ chain f last, Leads t chain f last ∧ Source globals chain f last found := by
  -- On what is left of the tape: each extended header takes its block and its payload off it.
  induction count : t.rest.length using Nat.strong_induction_on generalizing globals t found with
  | _ n ih =>
    generalize result : Except.ok found = r at read
    cases findTrace read with
    | flawed header => cases result
    | @sparse f lead _ header extents done =>
      have own : Leads t [] f t := .own header (by simp [extents])
      exact ⟨[], f, t, own, sparseSource extents (done.trans result.symm)⟩
    | @plain f _ header extents kind done =>
      exact ⟨[], f, t, .own header fun _ => kind, plainSource extents (done.trans result.symm)⟩
    | far header extents kind payload => cases result
    | past ext done =>
      exact findPastSource ext (fun g inner inside => ih _ (count ▸ ext.shorter) inside rfl)
        (done.trans result.symm)

end Member

namespace Sparse

theorem blockExtentsStops {count : Nat} {block : Bytes} {stop : Stop}
    (bad : blockExtents count block = .error stop) (r : Resume) : stop ≠ .badExtents r := by
  have numbers {block : Bytes} {stop : Stop} (bad : blockNumber block = .error stop) :
      stop ≠ .badExtents r := by
    unfold blockNumber at bad
    split at bad
    · cases bad
      simp
    · split at bad <;> cases bad
      simp
  induction count generalizing block with
  | zero => cases bad
  | succ count ih =>
    simp only [blockExtents, bind, Except.bind] at bad
    split at bad
    · next first =>
      cases bad
      exact numbers first
    · split at bad
      · next second =>
        cases bad
        exact numbers second
      · split at bad
        · next later =>
          cases bad
          exact ih later
        · cases bad

theorem moreExtentsStops {t : Tape} {stop : Stop} (bad : moreExtents t = .error stop) (r : Resume) :
    stop ≠ .badExtents r := by
  induction count : t.rest.length using Nat.strong_induction_on generalizing t stop with
  | _ n ih =>
    rw [moreExtentsStep] at bad
    split at bad
    · next failed =>
      cases bad
      exact blockExtentsStops failed r
    · split at bad
      · cases bad
        simp
      · next full =>
        split at bad
        · cases bad
        · split at bad
          · next failed =>
            cases bad
            have less : (t.skip blockSize).rest.length < n := by
              simp only [List.length_take, Tape.skip, List.length_drop, blockSize] at *
              omega
            exact ih _ less failed rfl
          · cases bad

theorem numbersFail {rs : List Record} : rs.mapM (Attributes.number? ·.value) = none ↔
    ∃ r ∈ rs, Attributes.number? r.value = none := by
  induction rs with
  | nil => simp
  | cons r rest ih =>
    rw [List.mapM_cons, List.exists_mem_cons_iff, ← ih]
    cases Attributes.number? r.value with
    | none => simp
    | some n => cases rest.mapM (Attributes.number? ·.value) <;> simp

theorem ofRecordsFails {rs : List Record} (bad : ofRecords? rs = none) :
    ∃ r ∈ rs, (r.keyword = Attributes.key "GNU.sparse.offset" ∨
      r.keyword = Attributes.key "GNU.sparse.numbytes") ∧ Attributes.number? r.value = none := by
  unfold ofRecords? at bad
  cases offsets : (rs.filter (·.keyword = Attributes.key "GNU.sparse.offset")).mapM
      (Attributes.number? ·.value) with
  | none =>
    obtain ⟨r, mem, none'⟩ := numbersFail.mp offsets
    obtain ⟨inside, word⟩ := List.mem_filter.mp mem
    exact ⟨r, inside, .inl (of_decide_eq_true word), none'⟩
  | some positions =>
    cases lengths : (rs.filter (·.keyword = Attributes.key "GNU.sparse.numbytes")).mapM
        (Attributes.number? ·.value) with
    | none =>
      obtain ⟨r, mem, none'⟩ := numbersFail.mp lengths
      obtain ⟨inside, word⟩ := List.mem_filter.mp mem
      exact ⟨r, inside, .inr (of_decide_eq_true word), none'⟩
    | some counts => simp [offsets, lengths] at bad

theorem describeBad {a : Attributes} {rs : List Record} {found : Found} {r : Resume}
    (bad : describe a rs found = .error (.badExtents r)) :
    Table.get? (Attributes.key "GNU.sparse.map") a = none ∧
      Table.has (Attributes.key "GNU.sparse.size") a = true ∧ ofRecords? rs = none := by
  unfold describe at bad
  split at bad
  · split at bad <;> cases bad
  · next map =>
    split at bad
    · next size =>
      split at bad
      · next records => exact ⟨map, size, records⟩
      · cases bad
    · split at bad
      · split at bad <;> cases bad
      · cases bad

end Sparse

namespace Member

theorem findPastBad {t t' : Tape} {f : Fields} {buffer : Bytes} {r : Resume}
    (ext : Extends t f buffer t')
    (bad : findPast [] (Kind.ofFlag f.flag) buffer t' = .error (.badExtents r)) :
    ∃ chain h last, Leads t chain h last ∧ BadExtents chain := by
  -- Bad extents behind another extended header come out as a flaw, so they are the outermost here.
  have outer {s : Stop} (h : .badExtents r = s.outer) : False := by cases s <;> cases h
  generalize stop : Except.error (Stop.badExtents r) = result at bad
  cases findPastTrace bad with
  | unnamed named failed => exact (outer (Except.error.inj stop)).elim
  | renamed named inside => cases stop
  | garbled other bad => cases stop
  | unfound other records failed => exact (outer (Except.error.inj stop)).elim
  | @undescribed rs inner _ other records inside failed =>
    cases stop
    obtain ⟨chain, h, last, leads, source⟩ := findSource inside
    let x : Extension := ⟨Kind.ofFlag f.flag, rs⟩
    have holds : x.Holds buffer := .records other records
    refine ⟨x :: chain, h, last, .extended ext rfl holds leads, ?_⟩
    obtain ⟨map, size, none'⟩ := Sparse.describeBad failed
    have looked : (if x.kind = .globals then sharedBy [] (x :: chain)
        else Attributes.add [] x.records) = if Kind.ofFlag f.flag = .globals
          then inner.resume.globals else Attributes.add [] rs := by
      by_cases shared : Kind.ofFlag f.flag = .globals
      · rw [if_pos shared] at source
        have kind : x.kind = .globals := shared
        rw [if_pos shared, if_pos kind, sharedBy, if_pos kind, source.shared]
      · rw [if_neg shared, if_neg shared]
    rw [BadExtents, looked]
    exact ⟨map, size, Sparse.ofRecordsFails none'⟩
  | shared globals' records inside described => cases stop
  | own other own' records inside described applied =>
    rw [← stop, describe] at applied
    split at applied <;> cases applied

theorem findBad {t : Tape} {r : Resume} (bad : find [] t = .error (.badExtents r)) :
    ∃ chain f last, Leads t chain f last ∧ BadExtents chain := by
  generalize stop : Except.error (Stop.badExtents r) = result at bad
  cases findTrace bad with
  | flawed header => cases stop
  | @sparse f lead _ header extents read =>
    rw [← stop, sparse] at read
    by_cases more : lead.more = true
    · simp only [more, if_true, bind, Except.bind] at read
      split at read
      · next failed =>
        cases read
        exact absurd rfl (Sparse.moreExtentsStops failed r)
      · cases read
    · simp only [if_neg more, bind, Except.bind, pure, Except.pure] at read
      cases read
  | plain header extents kind read =>
    rw [← stop, plain] at read
    split at read <;> cases read
  | far header extents kind payload => cases stop
  | past ext read => exact findPastBad ext (read.trans stop.symm)

end Member
end ContainerDriver.Archive
