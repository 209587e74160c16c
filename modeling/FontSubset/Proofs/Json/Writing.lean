import FontSubset.Proofs.Json.Grammar
/-! What is written is read. Both forms of a value, on one line and on many, are among the
spellings of the value. -/
namespace FontSubset.Json

theorem IsBlank.nil : IsBlank [] := nofun

theorem IsBlank.append {front back : List Char} (h : IsBlank front) (h' : IsBlank back) :
    IsBlank (front ++ back) :=
  List.forall_mem_append.mpr ⟨h, h'⟩

theorem isBlank_newLine (level : Nat) : IsBlank (Value.newLine level) :=
  List.forall_mem_cons.mpr ⟨by decide, fun _ member => .inl (List.eq_of_mem_replicate member)⟩

/-! Blanks may be added before and after. -/

variable {chars blank : List Char}

theorem Spells.padded {value : Value} (h : Spells value chars) : SpellsPadded value chars := by
  simpa using SpellsPadded.mk .nil h .nil

theorem SpellsPadded.after_blank {value : Value} (h : SpellsPadded value chars)
    (isBlank : IsBlank blank) : SpellsPadded value (blank ++ chars) := by
  obtain ⟨leading, h, trailing⟩ := h
  rw [← List.append_assoc]
  exact .mk (isBlank.append leading) h trailing

theorem SpellsPadded.before_blank {value : Value} (h : SpellsPadded value chars)
    (isBlank : IsBlank blank) : SpellsPadded value (chars ++ blank) := by
  obtain ⟨leading, h, trailing⟩ := h
  rw [List.append_assoc, List.append_assoc]
  exact .mk leading h (trailing.append isBlank)

theorem SpellsMember.before_blank {member : String × Value} (h : SpellsMember member chars)
    (isBlank : IsBlank blank) : SpellsMember member (chars ++ blank) := by
  obtain ⟨leading, named, trailing, h⟩ := h
  simp only [List.append_assoc, List.cons_append]
  exact .mk leading named trailing (h.before_blank isBlank)

/-- Blanks after the last of several things. -/
theorem Commas.before_blank {α : Type} {spells : α → List Char → Prop}
    (each : ∀ a chars, spells a chars → spells a (chars ++ blank)) {items : List α}
    (h : Commas spells items chars) : Commas spells items (chars ++ blank) := by
  induction h with
  | one h => exact .one (each _ _ h)
  | more h others ih =>
    rw [List.append_assoc]
    exact .more h ih

theorem commas_intercalate {α : Type} {spells : α → List Char → Prop} {spell : α → List Char}
    {items : List α} (some : items ≠ []) (each : ∀ item ∈ items, spells item (spell item)) :
    Commas spells items ([','].intercalate (items.map spell)) := by
  induction items with
  | nil => exact absurd rfl some
  | cons item rest ih =>
    obtain ⟨first, others⟩ := List.forall_mem_cons.mp each
    cases rest with
    | nil =>
      rw [List.map_singleton, List.intercalate_singleton]
      exact .one first
    | cons next rest =>
      rw [List.map_cons, List.map_cons, List.intercalate_cons_cons, List.append_assoc]
      exact .more first (ih (List.cons_ne_nil _ _) others)

namespace Value

/-- The numbers of a value are integers of 64 bits, signed or not. -/
inductive Plain : Value → Prop
  | null : Plain null
  | bool (b : Bool) : Plain (bool b)
  | int {n : Int} (h : Token.IsInteger n) : Plain (int n)
  | text (s : String) : Plain (text s)
  | array {items : List Value} (h : ∀ item ∈ items, Plain item) : Plain (array items)
  | object {members : List (String × Value)} (h : ∀ member ∈ members, Plain member.2) :
    Plain (object members)

/-! Both forms put commas between items and members. -/

theorem compactItems_eq (items : List Value) :
    compactItems items = [','].intercalate (items.map compact) := by
  induction items with
  | nil => rfl
  | cons item rest ih => cases rest <;> simp_all [compactItems]

def compactMember (member : String × Value) : List Char :=
  quoted member.1 ++ ':' :: member.2.compact

theorem compactMembers_eq (members : List (String × Value)) :
    compactMembers members = [','].intercalate (members.map compactMember) := by
  induction members with
  | nil => rfl
  | cons member rest ih => cases rest <;> simp_all [compactMembers, compactMember]

theorem prettyItems_eq (level : Nat) (items : List Value) :
    prettyItems level items =
      [','].intercalate (items.map fun item => newLine level ++ item.pretty level) := by
  induction items with
  | nil => rfl
  | cons item rest ih => cases rest <;> simp_all [prettyItems]

def prettyMember (level : Nat) (member : String × Value) : List Char :=
  newLine level ++ quoted member.1 ++ ':' :: ' ' :: member.2.pretty level

theorem prettyMembers_eq (level : Nat) (members : List (String × Value)) :
    prettyMembers level members = [','].intercalate (members.map (prettyMember level)) := by
  induction members with
  | nil => rfl
  | cons member rest ih => cases rest <;> simp_all [prettyMembers, prettyMember]

theorem spells_atom_bool (b : Bool) : Spells (bool b) (atom (bool b)) := by
  cases b
  · exact .false
  · exact .true

theorem spellsMember_compact {member : String × Value} (h : Spells member.2 member.2.compact) :
    SpellsMember member (compactMember member) :=
  .mk .nil (spells_quoted member.1) .nil h.padded

theorem spells_compact {value : Value} (plain : value.Plain) : Spells value value.compact := by
  induction plain with
  | null => exact .null
  | bool b => exact spells_atom_bool b
  | int h => exact .number (.integer h)
  | text s => exact .text (spells_quoted s)
  | @array items h ih =>
    rw [compact, compactItems_eq]
    cases items with
    | nil => exact .noItems .nil
    | cons item items =>
      exact .array (commas_intercalate (List.cons_ne_nil _ _) fun item here =>
        (ih item here).padded)
  | @object members h ih =>
    rw [compact, compactMembers_eq]
    cases members with
    | nil => exact .noMembers .nil
    | cons member members =>
      exact .object (commas_intercalate (List.cons_ne_nil _ _) fun member here =>
        spellsMember_compact (ih member here))

theorem spellsMember_pretty {level : Nat} {member : String × Value}
    (h : Spells member.2 (member.2.pretty level)) :
    SpellsMember member (prettyMember level member) := by
  have space : IsBlank [' '] := List.forall_mem_singleton.mpr (.inl rfl)
  rw [prettyMember, List.append_assoc]
  exact .mk (isBlank_newLine level) (spells_quoted member.1) .nil (h.padded.after_blank space)

theorem spells_pretty {value : Value} (plain : value.Plain) (level : Nat) :
    Spells value (value.pretty level) := by
  induction plain generalizing level with
  | null => exact .null
  | bool b => exact spells_atom_bool b
  | int h => exact .number (.integer h)
  | text s => exact .text (spells_quoted s)
  | @array items h ih =>
    cases items with
    | nil => exact .noItems .nil
    | cons item items =>
      rw [pretty, prettyItems_eq]
      refine .array (.before_blank (fun _ _ h => h.before_blank (isBlank_newLine level)) ?_)
      exact commas_intercalate (List.cons_ne_nil _ _) fun item here =>
        (ih item here (level + 1)).padded.after_blank (isBlank_newLine (level + 1))
  | @object members h ih =>
    cases members with
    | nil => exact .noMembers .nil
    | cons member members =>
      rw [pretty, prettyMembers_eq]
      refine .object (.before_blank (fun _ _ h => h.before_blank (isBlank_newLine level)) ?_)
      exact commas_intercalate (List.cons_ne_nil _ _) fun member here =>
        spellsMember_pretty (ih member here (level + 1))

/-- What is written of plain numbers and texts is read as it was. -/
theorem read_write {value : Value} (plain : value.Plain) :
    Draft.read value.write = (value.draft, true) := by
  apply SpellsPadded.read
  rw [write, String.toList_ofList]
  exact (spells_compact plain).padded

theorem read_writePretty {value : Value} (plain : value.Plain) :
    Draft.read value.writePretty = (value.draft, true) := by
  apply SpellsPadded.read
  rw [writePretty, String.toList_ofList]
  exact (spells_pretty plain 0).padded

end Value

end FontSubset.Json
