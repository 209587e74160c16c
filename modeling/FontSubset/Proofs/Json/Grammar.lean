import FontSubset.Proofs.Json.Numeral
import FontSubset.Proofs.Json.Parsing
import FontSubset.Proofs.Json.Quotes
/-! Every way to write a value in JSON: with blanks between any two tokens, each character plain
or escaped, each number as any of its numerals. However it is written, the value is read. -/
namespace FontSubset.Json
open Token (Lexes Stops)

/-- A number is an integer if it is written as one of 64 bits is, and otherwise what the reader
takes its numeral for. -/
inductive SpellsNumber : Number → List Char → Prop
  | integer {n : Int} (h : Token.IsInteger n) : SpellsNumber (.integer n) (toString n).toList
  | real {numeral : Numeral} {negative : Bool} {x : Decimal.Binary64}
      (h : numeral.number? = some (.real negative x)) :
    SpellsNumber (.real negative x) numeral.chars

/-- No numeral is left out that the reader takes for a number. -/
theorem Numeral.spells {numeral : Numeral} {n : Number} (h : numeral.number? = some n) :
    SpellsNumber n numeral.chars := by
  cases n with
  | integer n =>
    obtain ⟨isInteger, spelled⟩ := number?_eq_integer_iff.mp h
    rw [spelled]
    exact .integer isInteger
  | real negative x => exact .real h

def IsBlank (chars : List Char) : Prop :=
  ∀ c ∈ chars, c = ' ' ∨ c = '\n' ∨ c = '\t' ∨ c = '\r'

inductive Commas {α : Type} (spells : α → List Char → Prop) : List α → List Char → Prop
  | one {a : α} {chars : List Char} (h : spells a chars) : Commas spells [a] chars
  | more {a : α} {rest : List α} {front back : List Char} (h : spells a front)
      (others : Commas spells rest back) : Commas spells (a :: rest) (front ++ ',' :: back)

mutual

inductive Spells : Value → List Char → Prop
  | null : Spells .null ['n', 'u', 'l', 'l']
  | true : Spells (.bool true) ['t', 'r', 'u', 'e']
  | false : Spells (.bool false) ['f', 'a', 'l', 's', 'e']
  | number {n : Number} {chars : List Char} (h : SpellsNumber n chars) : Spells (.number n) chars
  | text {s : String} {chars : List Char} (h : SpellsText s chars) : Spells (.text s) chars
  | noItems {blank : List Char} (h : IsBlank blank) : Spells (.array []) ('[' :: (blank ++ [']']))
  | array {items : List Value} {chars : List Char} (h : Commas SpellsPadded items chars) :
    Spells (.array items) ('[' :: (chars ++ [']']))
  | noMembers {blank : List Char} (h : IsBlank blank) :
    Spells (.object []) ('{' :: (blank ++ ['}']))
  | object {members : List (String × Value)} {chars : List Char}
      (h : Commas SpellsMember members chars) : Spells (.object members) ('{' :: (chars ++ ['}']))

inductive SpellsPadded : Value → List Char → Prop
  | mk {value : Value} {before chars after : List Char} (leading : IsBlank before)
      (h : Spells value chars) (trailing : IsBlank after) :
    SpellsPadded value (before ++ (chars ++ after))

inductive SpellsMember : String × Value → List Char → Prop
  | mk {name : String} {value : Value} {before key after chars : List Char}
      (leading : IsBlank before) (named : SpellsText name key) (trailing : IsBlank after)
      (h : SpellsPadded value chars) :
    SpellsMember (name, value) (before ++ (key ++ (after ++ ':' :: chars)))

end

end FontSubset.Json

namespace FontSubset.Json.Token
open FontSubset.Json

theorem lexes_spellsNumber {n : Number} {chars : List Char} (h : SpellsNumber n chars) :
    Lexes chars [number (some n)] := by
  cases h with
  | integer isInteger => exact lexes_integer isInteger
  | @real numeral _ _ read =>
    rw [← read]
    exact numeral.lexes

end FontSubset.Json.Token

namespace FontSubset.Json
open Token (Lexes Stops)

theorem IsBlank.stops {c : Char} {blank : List Char} (h : IsBlank (c :: blank)) : Stops [c] := by
  obtain rfl | rfl | rfl | rfl := h c List.mem_cons_self <;> decide

namespace Token.Lexes

variable {blank chars : List Char} {tokens : List Token}

theorem after_blank (isBlank : IsBlank blank) (h : Lexes chars tokens) :
    Lexes (blank ++ chars) tokens := by
  induction blank with
  | nil => exact h
  | cons c blank ih =>
    obtain ⟨space, isBlank⟩ := List.forall_mem_cons.mp isBlank
    refine .space ?_ (ih isBlank)
    obtain rfl | rfl | rfl | rfl := space <;> rfl

theorem before_blank (h : Lexes chars tokens) (isBlank : IsBlank blank) :
    Lexes (chars ++ blank) tokens := by
  cases blank with
  | nil => rwa [List.append_nil]
  | cons c blank =>
    have rest : Lexes ((c :: blank) ++ []) [] := after_blank isBlank .nil
    rw [List.append_nil] at rest
    rw [← List.append_nil tokens]
    exact h.append isBlank.stops rest

theorem comma {front back : List Char} {first : List Token} {others : List (List Token)}
    (some : others ≠ []) (h : Lexes front first)
    (h' : Lexes back ([Token.comma].intercalate others)) :
    Lexes (front ++ ',' :: back) ([Token.comma].intercalate (first :: others)) := by
  obtain ⟨next, rest, rfl⟩ := List.exists_cons_of_ne_nil some
  rw [List.intercalate_cons_cons, List.append_assoc, List.singleton_append]
  exact h.append (by decide) (.mark (fun _ => rfl) rfl h')

/-- A closing bracket or brace stops what stands before it. -/
theorem closed {c : Char} {last : Token} (h : Lexes chars tokens) (stops : Stops [c])
    (next : ∀ rest, Token.next? c rest = some (last, rest)) (visible : Token.isSpace c = false) :
    Lexes (chars ++ [c]) (tokens ++ [last]) :=
  h.append stops (.mark next visible .nil)

end Token.Lexes

theorem Commas.ne_nil {α : Type} {spells : α → List Char → Prop} {items : List α}
    {chars : List Char} (h : Commas spells items chars) : items ≠ [] := by
  cases h <;> exact List.cons_ne_nil _ _

mutual

theorem Spells.lexes {value : Value} {chars : List Char} :
    Spells value chars → Lexes chars value.draft.tokens
  | .null => Token.lexes_null
  | .true => Token.lexes_bool true
  | .false => Token.lexes_bool false
  | .number h => Token.lexes_spellsNumber h
  | .text h => Token.lexes_spellsText h
  | .noItems blank =>
    .mark (fun _ => rfl) rfl (.after_blank blank (.mark (fun _ => rfl) rfl .nil))
  | @Spells.array items _ h => by
    rw [Value.draft, Draft.tokens, Value.drafts_eq_map, Draft.itemTokens_eq_map, List.map_map]
    exact .mark (fun _ => rfl) rfl ((lexes_items h).closed (by decide) (fun _ => rfl) rfl)
  | .noMembers blank =>
    .mark (fun _ => rfl) rfl (.after_blank blank (.mark (fun _ => rfl) rfl .nil))
  | @Spells.object members _ h => by
    rw [Value.draft, Draft.tokens, Value.memberDrafts_eq_map, Draft.memberTokens_eq_map,
      List.map_map]
    exact .mark (fun _ => rfl) rfl ((lexes_members h).closed (by decide) (fun _ => rfl) rfl)

theorem SpellsPadded.lexes {value : Value} {chars : List Char} :
    SpellsPadded value chars → Lexes chars value.draft.tokens
  | .mk leading h trailing => .after_blank leading (h.lexes.before_blank trailing)

theorem lexes_items {items : List Value} {chars : List Char} :
    Commas SpellsPadded items chars →
      Lexes chars ([Token.comma].intercalate (items.map (Draft.tokens ∘ Value.draft)))
  | .one h => by
    rw [List.map_singleton, List.intercalate_singleton]
    exact h.lexes
  | .more h others => by
    rw [List.map_cons]
    exact .comma (List.map_eq_nil_iff.not.mpr others.ne_nil) h.lexes (lexes_items others)

theorem lexes_members {members : List (String × Value)} {chars : List Char} :
    Commas SpellsMember members chars → Lexes chars ([Token.comma].intercalate (members.map
      fun member => .text (some member.1) :: .colon :: member.2.draft.tokens))
  | .one h => by
    rw [List.map_singleton, List.intercalate_singleton]
    exact h.lexes
  | .more h others => by
    rw [List.map_cons]
    exact .comma (List.map_eq_nil_iff.not.mpr others.ne_nil) h.lexes (lexes_members others)

theorem SpellsMember.lexes {member : String × Value} {chars : List Char} :
    SpellsMember member chars →
      Lexes chars (.text (some member.1) :: .colon :: member.2.draft.tokens)
  | .mk leading named trailing h => by
    have key := (Token.lexes_spellsText named).before_blank trailing
    have whole := key.append (c := ':') (by decide) (.mark (fun _ => rfl) rfl h.lexes)
    rw [List.append_assoc] at whole
    exact .after_blank leading whole

end

/-- Whatever spells a value is read as the value. -/
theorem SpellsPadded.read {value : Value} {source : String}
    (h : SpellsPadded value source.toList) : Draft.read source = (value.draft, true) :=
  Draft.read_of_tokens value.isWhole_draft h.lexes.ofChars_eq

namespace Value

mutual

/-- How many lists and objects stand around the innermost value. -/
def nesting : Value → Nat
  | null | bool _ | number _ | text _ => 0
  | array items => itemsNesting items + 1
  | object members => membersNesting members + 1

def itemsNesting : List Value → Nat
  | [] => 0
  | item :: rest => max item.nesting (itemsNesting rest)

def membersNesting : List (String × Value) → Nat
  | [] => 0
  | (_, value) :: rest => max value.nesting (membersNesting rest)

end

variable {depth : Nat}

theorem nesting_item_lt {items : List Value} (h : (array items).nesting < depth) :
    1 < depth ∧ ∀ item ∈ items, item.nesting < depth - 1 := by
  have each : ∀ item ∈ items, item.nesting ≤ itemsNesting items := by
    clear h
    induction items with
    | nil => exact nofun
    | cons item rest ih =>
      refine List.forall_mem_cons.mpr ⟨le_max_left _ _, fun other here => ?_⟩
      exact (ih other here).trans (le_max_right _ _)
  rw [nesting] at h
  refine ⟨by omega, fun item here => ?_⟩
  have := each item here
  omega

theorem nesting_member_lt {members : List (String × Value)}
    (h : (object members).nesting < depth) :
    1 < depth ∧ ∀ member ∈ members, member.2.nesting < depth - 1 := by
  have each : ∀ member ∈ members, member.2.nesting ≤ membersNesting members := by
    clear h
    induction members with
    | nil => exact nofun
    | cons member rest ih =>
      refine List.forall_mem_cons.mpr ⟨le_max_left _ _, fun other here => ?_⟩
      exact (ih other here).trans (le_max_right _ _)
  rw [nesting] at h
  refine ⟨by omega, fun member here => ?_⟩
  have := each member here
  omega

theorem values?_drafts {items : List Value}
    (h : ∀ item ∈ items, item.draft.value? depth = some item) :
    Draft.values? depth (drafts items) = some items := by
  induction items with
  | nil => rfl
  | cons item rest ih =>
    obtain ⟨first, others⟩ := List.forall_mem_cons.mp h
    rw [drafts, Draft.values?, first, ih others]
    rfl

theorem memberValues?_memberDrafts {members : List (String × Value)}
    (h : ∀ member ∈ members, member.2.draft.value? depth = some member.2) :
    Draft.memberValues? depth (memberDrafts members) = some members := by
  induction members with
  | nil => rfl
  | cons member rest ih =>
    obtain ⟨first, others⟩ := List.forall_mem_cons.mp h
    rw [memberDrafts, Draft.memberValues?, first, ih others]
    rfl

/-- A value that is not nested too deep is found in its draft. -/
theorem value?_draft {value : Value} (shallow : value.nesting < depth) :
    value.draft.value? depth = some value := by
  induction value using induction generalizing depth with
  | null | bool | number | text => rfl
  | array items ih =>
    obtain ⟨deep, inner⟩ := nesting_item_lt shallow
    rw [draft, Draft.value?, if_neg (not_le.mpr deep),
      values?_drafts fun item here => ih item here (inner item here)]
    rfl
  | object members ih =>
    obtain ⟨deep, inner⟩ := nesting_member_lt shallow
    rw [draft, Draft.value?, if_neg (not_le.mpr deep),
      memberValues?_memberDrafts fun member here => ih member here (inner member here)]
    rfl

end Value

/-- No text spells two values. -/
theorem SpellsPadded.unique {value other : Value} {source : String}
    (h : SpellsPadded value source.toList) (h' : SpellsPadded other source.toList) :
    value = other := by
  have same : value.draft = other.draft := (Prod.mk.inj (h.read.symm.trans h'.read)).1
  have found : value.draft.value? (max value.nesting other.nesting + 1) = some value :=
    Value.value?_draft (Nat.lt_succ_of_le (le_max_left _ _))
  rw [same, Value.value?_draft (Nat.lt_succ_of_le (le_max_right _ _))] at found
  exact (Option.some.inj found).symm

end FontSubset.Json
