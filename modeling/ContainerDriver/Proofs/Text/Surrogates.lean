import ContainerDriver.Text.Quoted
import Mathlib.Data.List.TakeWhile

/-! Which texts can be encoded. A codec refuses a text for a surrogate that it has no bytes for, and
for nothing else; valid Unicode has none. -/
namespace ContainerDriver.Text

variable {t : Text}

def Unicode (t : Text) : Prop := ∃ s : String, t = s

def Escapable (t : Text) : Prop := ∀ n, .surrogate n ∈ t → Utf8.standsForByte n = true

theorem unicodeIff : Unicode t ↔ ∀ n, .surrogate n ∉ t := by
  constructor
  · rintro ⟨s, rfl⟩ n mem
    obtain ⟨c, -, other⟩ := List.mem_map.mp mem
    cases other
  · intro plain
    refine ⟨String.ofList (t.filterMap Letter.char?), ?_⟩
    rw [ofString, String.toList_ofList]
    induction t with
    | nil => rfl
    | cons l rest ih =>
      obtain c | n := l
      · have later := ih fun n mem => plain n (List.mem_cons_of_mem _ mem)
        rw [List.filterMap_cons, Letter.char?, List.map_cons, ← later]
      · exact absurd List.mem_cons_self (plain n)

theorem unicodeString (s : String) : Unicode s := ⟨s, rfl⟩

theorem unicodeAppend {a b : Text} : Unicode (a ++ b) ↔ Unicode a ∧ Unicode b := by
  simp only [unicodeIff, List.mem_append, not_or, forall_and]

theorem unicodeIntercalate (separator : String) {ts : List Text} :
    Unicode (List.intercalate separator ts) ↔ ∀ t ∈ ts, Unicode t := by
  induction ts with
  | nil => exact ⟨fun _ t mem => (List.not_mem_nil mem).elim, fun _ => unicodeString ""⟩
  | cons t rest ih =>
    rw [List.forall_mem_cons, ← ih]
    cases rest with
    | nil =>
      rw [List.intercalate_singleton]
      exact ⟨fun unicode => ⟨unicode, unicodeString ""⟩, And.left⟩
    | cons t' more =>
      rw [List.intercalate_cons_cons, unicodeAppend, unicodeAppend]
      exact ⟨fun parts => ⟨parts.1.1, parts.2⟩, fun parts => ⟨⟨parts.1, unicodeString _⟩, parts.2⟩⟩

theorem takeWhileAll {α : Type} {p : α → Bool} {as : List α} :
    (as.takeWhile p).length = as.length ↔ ∀ a ∈ as, p a = true := by
  constructor
  · intro whole a mem
    have same := (List.takeWhile_prefix p).eq_of_length whole
    rw [← same] at mem
    exact List.mem_takeWhile_imp mem
  · intro all
    rw [List.takeWhile_eq_self_iff.mpr all]

theorem refusedNone {refuses : Fin 0x800 → Bool} :
    refused? refuses t = none ↔ ∀ n, .surrogate n ∈ t → refuses n = false := by
  unfold refused?
  dsimp only
  rw [ite_eq_left_iff]
  simp only [reduceCtorEq, imp_false, not_not, takeWhileAll]
  constructor
  · intro all n mem
    simpa using all _ mem
  · rintro all (c | n) mem
    · rfl
    · simpa using all n mem

theorem unescapableNone : unescapable? t = none ↔ Escapable t := by
  simp only [unescapable?, refusedNone, Escapable, Bool.not_eq_false']

theorem unencodableNone : unencodable? t = none ↔ Unicode t := by
  simp only [unencodable?, refusedNone, unicodeIff, Bool.true_eq_false, imp_false]

instance (t : Text) : Decidable (Unicode t) := decidable_of_iff _ unencodableNone

theorem ofStringEscapable (s : String) : Escapable s :=
  fun n mem => absurd mem (unicodeIff.mp (unicodeString s) n)

namespace Utf8

theorem ofTextOfString (s : String) : ofText s = ofString s := by
  rw [ofText, Text.ofString, List.flatMap_map]
  rfl

end Utf8
end ContainerDriver.Text
