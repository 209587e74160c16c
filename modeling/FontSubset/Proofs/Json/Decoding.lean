import Mathlib
import FontSubset.Json.Decode
/-! What a reader that ends well has done. A record that is filled member by member keeps
whatever each slot keeps. -/
namespace FontSubset

theorem bind_eq_ok {ε α β : Type} {x : Except ε α} {f : α → Except ε β} {b : β} :
    x.bind f = .ok b ↔ ∃ a, x = .ok a ∧ f a = .ok b := by
  cases x with
  | error e => simp [Except.bind]
  | ok a => simp [Except.bind]

theorem map_eq_ok {ε α β : Type} {x : Except ε α} {f : α → β} {b : β} :
    x.map f = .ok b ↔ ∃ a, x = .ok a ∧ f a = b := by
  cases x with
  | error e => simp [Except.map]
  | ok a => simp [Except.map]

theorem map_ok_iff {ε α β : Type} {x : Except ε α} {f : α → β} :
    (∃ b, x.map f = .ok b) ↔ ∃ a, x = .ok a := by
  cases x with
  | error e => simp [Except.map]
  | ok a => simp [Except.map]

theorem exists_bind_eq_ok {ε α β : Type} {x : Except ε α} {f : α → Except ε β} :
    (∃ b, x.bind f = .ok b) ↔ ∃ a, x = .ok a ∧ ∃ b, f a = .ok b := by
  cases x with
  | error e => simp [Except.bind]
  | ok a => simp [Except.bind]

namespace Json

theorem required_eq_ok {α : Type} {name : String} {field : Option α} {a : α} :
    required name field = .ok a ↔ field = some a := by
  cases field <;> simp [required]

theorem Draft.refuse_ne_ok {α : Type} (draft : Draft) (expected : String) (a : α) :
    draft.refuse expected ≠ .ok a := by
  unfold refuse
  split <;> exact nofun

theorem fillSlots_slot {α σ : Type} {slots : List (Slot α σ)} {isWhole : α → Bool}
    {slot : Slot α σ} {name : String} {value : α} {rest : List (Option String × α)}
    {record next : σ} (found : slots.find? (·.name == name) = some slot)
    (free : slot.isFilled record = false) (fill : slot.fill value record = .ok next) :
    fillSlots slots isWhole ((some name, value) :: rest) record =
      fillSlots slots isWhole rest next := by
  rw [fillSlots, found]
  simp only [free, fill, Except.bind, Bool.false_eq_true, if_false]

theorem fillSlots_keeps {α σ : Type} {slots : List (Slot α σ)} {isWhole : α → Bool}
    (Holds : σ → Prop)
    (keeps : ∀ slot ∈ slots, ∀ value record filled, slot.fill value record = .ok filled →
      Holds record → Holds filled)
    {members : List (Option String × α)} {record filled : σ}
    (h : fillSlots slots isWhole members record = .ok filled) (holds : Holds record) :
    Holds filled := by
  induction members generalizing record with
  | nil =>
    cases h
    exact holds
  | cons member rest ih =>
    obtain ⟨key, value⟩ := member
    cases key with
    | none => cases h
    | some name =>
      rw [fillSlots] at h
      split at h
      · rename_i slot found
        split_ifs at h
        obtain ⟨next, fill, h⟩ := bind_eq_ok.mp h
        exact ih h (keeps slot (List.mem_of_find?_eq_some found) value record next fill holds)
      · split_ifs at h
        exact ih h holds

theorem fillFromDraft_keeps {σ : Type} {slots : List (Slot Draft σ)} (Holds : σ → Prop)
    (keeps : ∀ slot ∈ slots, ∀ value record filled, slot.fill value record = .ok filled →
      Holds record → Holds filled)
    {members : List (Draft × Draft)} {closed : Bool} {record filled : σ}
    (h : fillFromDraft slots members closed record = .ok filled) (holds : Holds record) :
    Holds filled := by
  obtain ⟨last, h, closed⟩ := bind_eq_ok.mp h
  split_ifs at closed
  cases closed
  exact fillSlots_keeps Holds keeps h holds

/-- What a field holds in the end was read from some member, if it held nothing at first. -/
theorem fillFromDraft_field {σ β : Type} {slots : List (Slot Draft σ)} {field : σ → Option β}
    {decode : Draft → Decoded β}
    (fills : ∀ slot ∈ slots, ∀ value record filled, slot.fill value record = .ok filled →
      field filled = field record ∨ ∃ b, decode value = .ok b ∧ field filled = some b)
    {members : List (Draft × Draft)} {closed : Bool} {record filled : σ}
    (h : fillFromDraft slots members closed record = .ok filled) (empty : field record = none)
    {b : β} (found : field filled = some b) : ∃ value, decode value = .ok b := by
  refine fillFromDraft_keeps (fun record => ∀ b, field record = some b →
    ∃ value, decode value = .ok b) ?_ h (by simp [empty]) b found
  intro slot member value record filled fill holds b found
  obtain same | ⟨c, read, stored⟩ := fills slot member value record filled fill
  · exact holds b (same.symm.trans found)
  · obtain rfl := Option.some.inj (stored.symm.trans found)
    exact ⟨value, read⟩

end Json
end FontSubset
