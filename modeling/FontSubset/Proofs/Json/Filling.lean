import FontSubset.Proofs.Json.Decoding
import FontSubset.Proofs.Json.Parsing
/-! Which members fill a record. Each slot is filled from the one member of its name, wherever
it stands, and neither a second member of this name nor a value that the slot does not accept
leaves a record. Members without a slot make no difference. -/
namespace FontSubset.Json

variable {α β σ : Type}

def valuesOf (name : String) (members : List (String × α)) : List α :=
  (members.filter (·.1 == name)).map (·.2)

theorem valuesOf_cons_self (name : String) (value : α) (rest : List (String × α)) :
    valuesOf name ((name, value) :: rest) = value :: valuesOf name rest := by
  simp [valuesOf]

theorem valuesOf_cons_of_ne {name other : String} (h : other ≠ name) (value : α)
    (rest : List (String × α)) : valuesOf name ((other, value) :: rest) = valuesOf name rest := by
  simp [valuesOf, h]

theorem valuesOf_map (name : String) (f : α → β) (members : List (String × α)) :
    valuesOf name (members.map fun member => (member.1, f member.2)) =
      (valuesOf name members).map f := by
  induction members with
  | nil => rfl
  | cons member rest ih =>
    obtain ⟨other, value⟩ := member
    by_cases named : other = name
    · subst named
      rw [List.map_cons, valuesOf_cons_self, valuesOf_cons_self, ih, List.map_cons]
    · rw [List.map_cons, valuesOf_cons_of_ne named, valuesOf_cons_of_ne named, ih]

theorem mem_of_valuesOf {name : String} {value : α} {members : List (String × α)}
    (h : value ∈ valuesOf name members) : (name, value) ∈ members := by
  obtain ⟨⟨other, value⟩, here, rfl⟩ := List.mem_map.mp h
  obtain ⟨member, named⟩ := List.mem_filter.mp here
  obtain rfl : other = name := beq_iff_eq.mp named
  exact member

/-- There is one member of the name, and its value is such. -/
def ExactlyOne (members : List (String × α)) (name : String) (such : α → Prop) : Prop :=
  ∃ value, valuesOf name members = [value] ∧ such value

def AtMostOne (members : List (String × α)) (name : String) (such : α → Prop) : Prop :=
  valuesOf name members = [] ∨ ExactlyOne members name such

section

variable {members : List (String × α)} {name : String} {such other : α → Prop}

theorem exactlyOne_cons_self {value : α} :
    ExactlyOne ((name, value) :: members) name such ↔
      valuesOf name members = [] ∧ such value := by
  simp [ExactlyOne, valuesOf_cons_self]

theorem exactlyOne_cons_of_ne {first : String} (h : first ≠ name) {value : α} :
    ExactlyOne ((first, value) :: members) name such ↔ ExactlyOne members name such := by
  rw [ExactlyOne, valuesOf_cons_of_ne h, ExactlyOne]

theorem ExactlyOne.congr (h : ∀ value, (name, value) ∈ members → (such value ↔ other value)) :
    ExactlyOne members name such ↔ ExactlyOne members name other := by
  refine exists_congr fun value => and_congr_right fun only => h value (mem_of_valuesOf ?_)
  rw [only]
  exact List.mem_singleton_self value

theorem AtMostOne.congr (h : ∀ value, (name, value) ∈ members → (such value ↔ other value)) :
    AtMostOne members name such ↔ AtMostOne members name other :=
  or_congr_right (ExactlyOne.congr h)

theorem atMostOne_and_ne_nil :
    AtMostOne members name such ∧ valuesOf name members ≠ [] ↔ ExactlyOne members name such := by
  constructor
  · rintro ⟨none | one, some⟩
    · exact absurd none some
    · exact one
  · rintro ⟨value, only, h⟩
    exact ⟨.inr ⟨value, only, h⟩, by rw [only]; exact List.cons_ne_nil _ _⟩

theorem exactlyOne_map {f : β → α} {members : List (String × β)} :
    ExactlyOne (members.map fun member => (member.1, f member.2)) name such ↔
      ExactlyOne members name (such ∘ f) := by
  unfold ExactlyOne
  rw [valuesOf_map]
  constructor
  · rintro ⟨_, image, h⟩
    obtain ⟨value, only, rfl⟩ := List.map_eq_singleton_iff.mp image
    exact ⟨value, only, h⟩
  · rintro ⟨value, only, h⟩
    exact ⟨f value, by rw [only]; rfl, h⟩

end

/-- The slot takes the value into any record. -/
def Slot.Accepts (slot : Slot α σ) (value : α) : Prop :=
  ∀ record, ∃ next, slot.fill value record = .ok next

theorem Slot.accepts_iff {slot : Slot α σ} {decode : α → Decoded β} {put : σ → β → σ}
    (h : ∀ value record, slot.fill value record = (decode value).map (put record)) (record : σ)
    {value : α} : slot.Accepts value ↔ ∃ b, decode value = .ok b := by
  constructor
  · intro accepts
    obtain ⟨next, fill⟩ := accepts record
    rw [h] at fill
    obtain ⟨b, read, -⟩ := map_eq_ok.mp fill
    exact ⟨b, read⟩
  · rintro ⟨b, read⟩ record
    exact ⟨put record b, by rw [h, read]; rfl⟩

/-- Each slot has a name of its own, takes the same values into every record, and fills no
other. -/
structure Lawful (slots : List (Slot α σ)) : Prop where
  distinct : (slots.map (·.name)).Nodup
  accepts : ∀ slot ∈ slots, ∀ {value record next}, slot.fill value record = .ok next →
    slot.Accepts value
  fills : ∀ slot ∈ slots, ∀ {value record next}, slot.fill value record = .ok next →
    slot.isFilled next = true
  keeps : ∀ slot ∈ slots, ∀ {value record next}, slot.fill value record = .ok next →
    ∀ other ∈ slots, other.name ≠ slot.name → other.isFilled next = other.isFilled record

/-- What a slot makes of all values of its name: it takes one while it is free. -/
def Slot.Fits (slot : Slot α σ) (record : σ) (values : List α) : Prop :=
  values = [] ∨ ∃ value, values = [value] ∧ slot.isFilled record = false ∧ slot.Accepts value

/-- Slots are lawful that each decode a value and store the result. -/
theorem Lawful.of_stores {slots : List (Slot α σ)} (distinct : (slots.map (·.name)).Nodup)
    (stores : ∀ slot ∈ slots, ∃ (β : Type) (decode : α → Decoded β) (put : σ → β → σ),
      (∀ value record, slot.fill value record = (decode value).map (put record)) ∧
      ∀ record b, slot.isFilled (put record b) = true ∧
        ∀ other ∈ slots, other.name ≠ slot.name →
          other.isFilled (put record b) = other.isFilled record) : Lawful slots := by
  have inverted : ∀ slot ∈ slots, ∀ {value record next}, slot.fill value record = .ok next →
      slot.Accepts value ∧ slot.isFilled next = true ∧
        ∀ other ∈ slots, other.name ≠ slot.name →
          other.isFilled next = other.isFilled record := by
    intro slot member value record next fill
    obtain ⟨β, decode, put, eq, stored⟩ := stores slot member
    rw [eq] at fill
    obtain ⟨b, read, rfl⟩ := map_eq_ok.mp fill
    exact ⟨(Slot.accepts_iff eq record).mpr ⟨b, read⟩, stored record b⟩
  exact ⟨distinct, fun slot member _ _ _ fill => (inverted slot member fill).1,
    fun slot member _ _ _ fill => (inverted slot member fill).2.1,
    fun slot member _ _ _ fill => (inverted slot member fill).2.2⟩

theorem Lawful.of_subset {slots fewer : List (Slot α σ)} (lawful : Lawful slots)
    (subset : fewer ⊆ slots) (distinct : (fewer.map (·.name)).Nodup) : Lawful fewer where
  distinct := distinct
  accepts := fun _ member => lawful.accepts _ (subset member)
  fills := fun _ member => lawful.fills _ (subset member)
  keeps := fun _ member _ _ _ fill _ here => lawful.keeps _ (subset member) fill _ (subset here)

namespace Lawful

variable {slots : List (Slot α σ)} (lawful : Lawful slots)
include lawful

theorem eq_of_name {slot other : Slot α σ} (member : slot ∈ slots) (here : other ∈ slots)
    (same : slot.name = other.name) : slot = other :=
  List.inj_on_of_nodup_map lawful.distinct member here same

theorem find?_name {slot : Slot α σ} (member : slot ∈ slots) :
    slots.find? (·.name == slot.name) = some slot := by
  cases found : slots.find? (·.name == slot.name) with
  | none => exact absurd (List.find?_eq_none.mp found slot member) (by simp)
  | some other =>
    have same : other.name = slot.name := by simpa using List.find?_some found
    rw [lawful.eq_of_name (List.mem_of_find?_eq_some found) member same]

/-- What one member does: it goes into the slot of its name, if there is one and it is free. -/
theorem fillSlots_cons_ok_iff {isWhole : α → Bool} {name : String} {value : α}
    {rest : List (Option String × α)} {record filled : σ} :
    fillSlots slots isWhole ((some name, value) :: rest) record = .ok filled ↔
      (∃ slot ∈ slots, slot.name = name ∧ slot.isFilled record = false ∧
        ∃ next, slot.fill value record = .ok next ∧
          fillSlots slots isWhole rest next = .ok filled) ∨
      ((∀ slot ∈ slots, slot.name ≠ name) ∧ isWhole value = true ∧
        fillSlots slots isWhole rest record = .ok filled) := by
  by_cases slotted : ∃ slot ∈ slots, slot.name = name
  · obtain ⟨slot, member, rfl⟩ := slotted
    have taken : ¬∀ other ∈ slots, other.name ≠ slot.name := fun none => none slot member rfl
    have only : (∃ other ∈ slots, other.name = slot.name ∧ other.isFilled record = false ∧
        ∃ next, other.fill value record = .ok next ∧
          fillSlots slots isWhole rest next = .ok filled) ↔
        slot.isFilled record = false ∧ ∃ next, slot.fill value record = .ok next ∧
          fillSlots slots isWhole rest next = .ok filled := by
      constructor
      · rintro ⟨other, here, same, h⟩
        rwa [lawful.eq_of_name here member same] at h
      · exact fun h => ⟨slot, member, rfl, h⟩
    rw [only, or_iff_left fun none => taken none.1, fillSlots, lawful.find?_name member]
    dsimp only
    cases slot.isFilled record with
    | true =>
      refine iff_of_false ?_ fun h => Bool.noConfusion h.1
      rintro ⟨⟩
    | false => exact bind_eq_ok.trans (and_iff_right rfl).symm
  · have free : ∀ slot ∈ slots, slot.name ≠ name :=
      fun slot member named => slotted ⟨slot, member, named⟩
    have missing : slots.find? (·.name == name) = none :=
      List.find?_eq_none.mpr fun slot member => by simpa using free slot member
    have unslotted : ¬∃ slot ∈ slots, slot.name = name ∧ slot.isFilled record = false ∧
        ∃ next, slot.fill value record = .ok next ∧
          fillSlots slots isWhole rest next = .ok filled := by
      rintro ⟨slot, member, named, -⟩
      exact free slot member named
    rw [or_iff_right unslotted, fillSlots, missing]
    dsimp only
    cases isWhole value with
    | true => exact ⟨fun read => ⟨free, rfl, read⟩, fun h => h.2.2⟩
    | false =>
      refine iff_of_false ?_ fun h => Bool.noConfusion h.2.1
      rintro ⟨⟩

/-- A member with a slot leaves to the others what they had. -/
theorem fits_iff_of_fill {slot : Slot α σ} (member : slot ∈ slots) {value : α} {record next : σ}
    (free : slot.isFilled record = false) (fill : slot.fill value record = .ok next)
    (rest : List (String × α)) {other : Slot α σ} (here : other ∈ slots) :
    other.Fits next (valuesOf other.name rest) ↔
      other.Fits record (valuesOf other.name ((slot.name, value) :: rest)) := by
  by_cases same : slot.name = other.name
  · obtain rfl : slot = other := lawful.eq_of_name member here same
    have full := lawful.fills slot member fill
    rw [valuesOf_cons_self]
    constructor
    · rintro (none | ⟨other, -, free, -⟩)
      · rw [none]
        exact .inr ⟨value, rfl, free, lawful.accepts slot member fill⟩
      · rw [full] at free
        cases free
    · rintro (none | ⟨other, only, -⟩)
      · cases none
      · exact .inl (List.cons.inj only).2
  · rw [valuesOf_cons_of_ne same, Slot.Fits, Slot.Fits,
      lawful.keeps slot member fill other here (Ne.symm same)]

variable {isWhole : α → Bool} {members : List (String × α)}

theorem fillSlots_ok_iff (whole : ∀ member ∈ members, isWhole member.2 = true) (record : σ) :
    (∃ filled, fillSlots slots isWhole (members.map fun member => (some member.1, member.2))
      record = .ok filled) ↔ ∀ slot ∈ slots, slot.Fits record (valuesOf slot.name members) := by
  induction members generalizing record with
  | nil => exact iff_of_true ⟨record, rfl⟩ fun slot _ => .inl rfl
  | cons member rest ih =>
    obtain ⟨name, value⟩ := member
    obtain ⟨wholeValue, wholeRest⟩ := List.forall_mem_cons.mp whole
    have unslotted (free : ∀ slot ∈ slots, slot.name ≠ name) :
        (∀ slot ∈ slots, slot.Fits record (valuesOf slot.name rest)) ↔
          ∀ slot ∈ slots, slot.Fits record (valuesOf slot.name ((name, value) :: rest)) :=
      forall₂_congr fun slot member => by rw [valuesOf_cons_of_ne (free slot member).symm]
    simp only [List.map_cons, lawful.fillSlots_cons_ok_iff]
    constructor
    · rintro ⟨filled, ⟨slot, member, rfl, free, next, fill, read⟩ | ⟨free, -, read⟩⟩
      · exact fun other here => (lawful.fits_iff_of_fill member free fill rest here).mp
          ((ih wholeRest next).mp ⟨filled, read⟩ other here)
      · exact (unslotted free).mp ((ih wholeRest record).mp ⟨filled, read⟩)
    · intro fits
      by_cases slotted : ∃ slot ∈ slots, slot.name = name
      · obtain ⟨slot, member, rfl⟩ := slotted
        have fitsHere := fits slot member
        rw [valuesOf_cons_self] at fitsHere
        obtain none | ⟨other, only, free, accepts⟩ := fitsHere
        · cases none
        · cases (List.cons.inj only).1
          obtain ⟨next, fill⟩ := accepts record
          obtain ⟨filled, read⟩ := (ih wholeRest next).mpr fun other here =>
            (lawful.fits_iff_of_fill member free fill rest here).mpr (fits other here)
          exact ⟨filled, .inl ⟨slot, member, rfl, free, next, fill, read⟩⟩
      · have free : ∀ slot ∈ slots, slot.name ≠ name :=
          fun slot member named => slotted ⟨slot, member, named⟩
        obtain ⟨filled, read⟩ := (ih wholeRest record).mpr ((unslotted free).mpr fits)
        exact ⟨filled, .inr ⟨free, wholeValue, read⟩⟩

/-- A slot is filled in the end if it was before, or a member has its name. -/
theorem isFilled_iff {record filled : σ}
    (h : fillSlots slots isWhole (members.map fun member => (some member.1, member.2)) record =
      .ok filled) {slot : Slot α σ} (member : slot ∈ slots) :
    slot.isFilled filled = true ↔
      slot.isFilled record = true ∨ valuesOf slot.name members ≠ [] := by
  induction members generalizing record with
  | nil =>
    cases h
    exact (or_iff_left fun some => some rfl).symm
  | cons first rest ih =>
    obtain ⟨name, value⟩ := first
    rw [List.map_cons, lawful.fillSlots_cons_ok_iff] at h
    obtain ⟨other, here, rfl, free, next, fill, read⟩ | ⟨free, -, read⟩ := h
    · by_cases same : other.name = slot.name
      · obtain rfl : other = slot := lawful.eq_of_name here member same
        rw [ih read, valuesOf_cons_self]
        exact iff_of_true (.inl (lawful.fills other here fill)) (.inr (List.cons_ne_nil _ _))
      · rw [ih read, valuesOf_cons_of_ne same,
          lawful.keeps other here fill slot member (Ne.symm same)]
    · rw [ih read, valuesOf_cons_of_ne (free slot member).symm]

/-- An empty record takes all members, and fills the slots that are needed, just when no slot
has more than one member, this one is accepted, and each needed slot has one. -/
theorem fillSlots_needed_iff (whole : ∀ member ∈ members, isWhole member.2 = true) {record : σ}
    (empty : ∀ slot ∈ slots, slot.isFilled record = false) (needed : Slot α σ → Prop) :
    (∃ filled, fillSlots slots isWhole (members.map fun member => (some member.1, member.2))
        record = .ok filled ∧ ∀ slot ∈ slots, needed slot → slot.isFilled filled = true) ↔
      ∀ slot ∈ slots, AtMostOne members slot.name slot.Accepts ∧
        (needed slot → valuesOf slot.name members ≠ []) := by
  have fits : ∀ slot ∈ slots, (slot.Fits record (valuesOf slot.name members) ↔
      AtMostOne members slot.name slot.Accepts) := fun slot member => by
    simp only [Slot.Fits, AtMostOne, ExactlyOne, empty slot member, true_and]
  have filledIff {filled : σ} (read : fillSlots slots isWhole
      (members.map fun member => (some member.1, member.2)) record = .ok filled)
      {slot : Slot α σ} (member : slot ∈ slots) :
      slot.isFilled filled = true ↔ valuesOf slot.name members ≠ [] := by
    rw [lawful.isFilled_iff read member, empty slot member]
    exact or_iff_right Bool.false_ne_true
  constructor
  · rintro ⟨filled, read, all⟩ slot member
    have taken := (lawful.fillSlots_ok_iff whole record).mp ⟨filled, read⟩ slot member
    exact ⟨(fits slot member).mp taken,
      fun need => (filledIff read member).mp (all slot member need)⟩
  · intro h
    obtain ⟨filled, read⟩ := (lawful.fillSlots_ok_iff whole record).mpr fun slot member =>
      (fits slot member).mpr (h slot member).1
    exact ⟨filled, read, fun slot member need =>
      (filledIff read member).mpr ((h slot member).2 need)⟩

/-- An empty record is filled by just the members that have one for each slot. -/
theorem fillSlots_all_iff (whole : ∀ member ∈ members, isWhole member.2 = true) {record : σ}
    (empty : ∀ slot ∈ slots, slot.isFilled record = false) :
    (∃ filled, fillSlots slots isWhole (members.map fun member => (some member.1, member.2))
        record = .ok filled ∧ ∀ slot ∈ slots, slot.isFilled filled = true) ↔
      ∀ slot ∈ slots, ExactlyOne members slot.name slot.Accepts := by
  have h := lawful.fillSlots_needed_iff whole empty fun _ => True
  simpa only [true_imp_iff, atMostOne_and_ne_nil] using h

end Lawful

theorem Lawful.fillFromValues_needed_iff {slots : List (Slot Value σ)} (lawful : Lawful slots)
    (members : List (String × Value)) {record : σ}
    (empty : ∀ slot ∈ slots, slot.isFilled record = false) (needed : Slot Value σ → Prop) :
    (∃ filled, fillFromValues slots members record = .ok filled ∧
      ∀ slot ∈ slots, needed slot → slot.isFilled filled = true) ↔
      ∀ slot ∈ slots, AtMostOne members slot.name slot.Accepts ∧
        (needed slot → valuesOf slot.name members ≠ []) :=
  @Lawful.fillSlots_needed_iff _ _ slots lawful (fun _ => true) members (fun _ _ => rfl) record
    empty needed

theorem Lawful.fillFromDraft_all_iff {slots : List (Slot Draft σ)} (lawful : Lawful slots)
    (members : List (String × Value)) {record : σ}
    (empty : ∀ slot ∈ slots, slot.isFilled record = false) :
    (∃ filled, fillFromDraft slots (Value.memberDrafts members) true record = .ok filled ∧
      ∀ slot ∈ slots, slot.isFilled filled = true) ↔
      ∀ slot ∈ slots, ExactlyOne members slot.name fun value => slot.Accepts value.draft := by
  let drafted := members.map fun member => (member.1, member.2.draft)
  have whole : ∀ member ∈ drafted, member.2.isWhole = true := by
    intro member here
    obtain ⟨origin, -, rfl⟩ := List.mem_map.mp here
    exact origin.2.isWhole_draft
  have fill (filled : σ) : fillFromDraft slots (Value.memberDrafts members) true record =
      .ok filled ↔ fillSlots slots Draft.isWhole
        (drafted.map fun member => (some member.1, member.2)) record = .ok filled := by
    rw [fillFromDraft, Value.memberDrafts_eq_map, List.map_map, List.map_map, bind_eq_ok]
    constructor
    · rintro ⟨_, read, ⟨⟩⟩
      exact read
    · exact fun read => ⟨filled, read, rfl⟩
  simp only [fill, lawful.fillSlots_all_iff whole empty]
  exact forall₂_congr fun slot _ => exactlyOne_map

/-- An object whose record is finished from all its slots is read just when each slot has a member
of its own. -/
theorem Lawful.finish_ok_iff {slots : List (Slot Draft σ)} (lawful : Lawful slots)
    (members : List (String × Value)) {record : σ} {finish : σ → Decoded β}
    (empty : ∀ slot ∈ slots, slot.isFilled record = false)
    (finishes : ∀ filled, (∃ b, finish filled = .ok b) ↔
      ∀ slot ∈ slots, slot.isFilled filled = true) :
    (∃ b, (fillFromDraft slots (Value.memberDrafts members) true record).bind finish = .ok b) ↔
      ∀ slot ∈ slots, ExactlyOne members slot.name fun value => slot.Accepts value.draft := by
  simp only [exists_bind_eq_ok, finishes, lawful.fillFromDraft_all_iff members empty]

end FontSubset.Json
