import Mathlib
import FontSubset.Json.Draft
/-! The draft of tokens that were laid out for it, and the draft of a value. Two steps for each
token are enough, so the count of steps never breaks off a text. -/
namespace FontSubset.Json.Draft

theorem induction {motive : Draft → Prop} (broken : motive broken) (null : motive null)
    (bool : ∀ b, motive (bool b)) (number : ∀ n, motive (number n))
    (text : ∀ content, motive (text content))
    (array : ∀ items closed, (∀ item ∈ items, motive item) → motive (array items closed))
    (object : ∀ members closed, (∀ member ∈ members, motive member.1 ∧ motive member.2) →
      motive (object members closed))
    (draft : Draft) : motive draft := by
  refine @Draft.rec motive (fun items => ∀ item ∈ items, motive item)
    (fun members => ∀ member ∈ members, motive member.1 ∧ motive member.2)
    (fun member => motive member.1 ∧ motive member.2) broken null bool number text
    array object ?_ ?_ ?_ ?_ ?_ draft
  · intro item h
    cases h
  · intro item items first rest
    exact List.forall_mem_cons.mpr ⟨first, rest⟩
  · intro member h
    cases h
  · intro member members first rest
    exact List.forall_mem_cons.mpr ⟨first, rest⟩
  · intro key value h h'
    exact ⟨h, h'⟩

mutual

def tokens : Draft → List Token
  | broken => [.bad]
  | null => [.null]
  | bool b => [.bool b]
  | number n => [.number n]
  | text content => [.text content]
  | array items _ => .beginArray :: ([.comma].intercalate (itemTokens items) ++ [.endArray])
  | object members _ =>
    .beginObject :: ([.comma].intercalate (memberTokens members) ++ [.endObject])

def itemTokens : List Draft → List (List Token)
  | [] => []
  | item :: rest => item.tokens :: itemTokens rest

def memberTokens : List (Draft × Draft) → List (List Token)
  | [] => []
  | (key, value) :: rest => (key.tokens ++ .colon :: value.tokens) :: memberTokens rest

end

theorem itemTokens_eq_map (items : List Draft) : itemTokens items = items.map tokens := by
  induction items with
  | nil => rfl
  | cons item rest ih => rw [itemTokens, ih, List.map_cons]

theorem memberTokens_eq_map (members : List (Draft × Draft)) :
    memberTokens members =
      members.map fun member => member.1.tokens ++ .colon :: member.2.tokens := by
  induction members with
  | nil => rfl
  | cons member rest ih => rw [memberTokens, ih, List.map_cons]

theorem areWhole_eq (items : List Draft) : areWhole items = items.all isWhole := by
  induction items with
  | nil => rfl
  | cons item rest ih => rw [areWhole, ih, List.all_cons]

theorem membersWhole_eq (members : List (Draft × Draft)) :
    membersWhole members = members.all fun member => member.1.isText && member.2.isWhole := by
  induction members with
  | nil => rfl
  | cons member rest ih => rw [membersWhole, ih, List.all_cons]

/-- No draft begins as a list or an object ends. -/
theorem tokens_eq_cons (draft : Draft) :
    ∃ first rest, draft.tokens = first :: rest ∧ first ≠ .endArray ∧ first ≠ .endObject := by
  cases draft <;> exact ⟨_, _, rfl, Token.noConfusion, Token.noConfusion⟩

theorem itemTokens_open (item : Draft) (items : List Draft) (rest more : List Token) :
    [.comma].intercalate (itemTokens (item :: items)) ++ rest ≠ .endArray :: more := by
  obtain ⟨first, others, eq, open_, -⟩ := item.tokens_eq_cons
  rw [itemTokens, eq, List.intercalate_cons_cons_left, List.cons_append]
  exact fun h => open_ (List.cons.inj h).1

theorem memberTokens_open (member : Draft × Draft) (members : List (Draft × Draft))
    (rest more : List Token) :
    [.comma].intercalate (memberTokens (member :: members)) ++ rest ≠ .endObject :: more := by
  obtain ⟨first, others, eq, -, open_⟩ := member.1.tokens_eq_cons
  rw [memberTokens, eq, List.cons_append, List.intercalate_cons_cons_left, List.cons_append]
  exact fun h => open_ (List.cons.inj h).1

theorem tokens_length_pos (draft : Draft) : 0 < draft.tokens.length := by
  obtain ⟨first, rest, eq, -⟩ := draft.tokens_eq_cons
  rw [eq]
  exact Nat.succ_pos _

def Reads (draft : Draft) : Prop :=
  ∀ {steps : Nat} (rest : List Token), 2 * draft.tokens.length ≤ steps + 1 →
    ofTokens steps (draft.tokens ++ rest) = (draft, rest)

/-! A list takes one step for each item besides those that the item takes itself, and the comma
or bracket after it pays for this step. -/

theorem itemsOfTokens_tokens {items : List Draft} (some : items ≠ [])
    (reads : ∀ item ∈ items, item.Reads) {steps : Nat} (rest : List Token)
    (enough : 2 * ([.comma].intercalate (itemTokens items)).length ≤ steps) :
    itemsOfTokens steps ([.comma].intercalate (itemTokens items) ++ .endArray :: rest) =
      (items, true, rest) := by
  induction items generalizing steps with
  | nil => exact absurd rfl some
  | cons item items ih =>
    obtain ⟨read, reads⟩ := List.forall_mem_cons.mp reads
    have positive := item.tokens_length_pos
    cases items with
    | nil =>
      simp only [itemTokens, List.intercalate_singleton] at enough ⊢
      obtain ⟨steps, rfl⟩ := Nat.exists_eq_add_one_of_ne_zero (by omega : steps ≠ 0)
      rw [itemsOfTokens, read _ enough]
    | cons next items =>
      rw [itemTokens, itemTokens, List.intercalate_cons_cons, ← itemTokens] at enough ⊢
      simp only [List.length_append, List.length_singleton] at enough
      obtain ⟨steps, rfl⟩ := Nat.exists_eq_add_one_of_ne_zero (by omega : steps ≠ 0)
      rw [itemsOfTokens, List.append_assoc, List.append_assoc, read _ (by omega)]
      simp only [List.singleton_append]
      rw [ih (List.cons_ne_nil _ _) reads (by omega)]

theorem membersOfTokens_tokens {members : List (Draft × Draft)} (some : members ≠ [])
    (keys : ∀ member ∈ members, member.1.isText)
    (reads : ∀ member ∈ members, member.2.Reads) {steps : Nat} (rest : List Token)
    (enough : 2 * ([.comma].intercalate (memberTokens members)).length ≤ steps) :
    membersOfTokens steps ([.comma].intercalate (memberTokens members) ++ .endObject :: rest) =
      (members, true, rest) := by
  induction members generalizing steps with
  | nil => exact absurd rfl some
  | cons member members ih =>
    obtain ⟨key, value⟩ := member
    rw [List.forall_mem_cons] at keys reads
    obtain ⟨isText, keys⟩ := keys
    obtain ⟨read, reads⟩ : value.Reads ∧ _ := reads
    have positive := value.tokens_length_pos
    cases key <;> cases isText
    cases members with
    | nil =>
      simp only [memberTokens, List.intercalate_singleton, tokens, List.length_append,
        List.length_cons, List.length_nil] at enough ⊢
      obtain ⟨steps, rfl⟩ := Nat.exists_eq_add_one_of_ne_zero (by omega : steps ≠ 0)
      rw [List.append_assoc, List.singleton_append, List.cons_append, membersOfTokens,
        read _ (by omega)]
    | cons next members =>
      obtain ⟨nextKey, nextValue⟩ := next
      rw [memberTokens, memberTokens, List.intercalate_cons_cons, ← memberTokens] at enough ⊢
      simp only [tokens, List.length_append, List.length_cons, List.length_nil] at enough ⊢
      obtain ⟨steps, rfl⟩ := Nat.exists_eq_add_one_of_ne_zero (by omega : steps ≠ 0)
      simp only [List.append_assoc, List.nil_append, List.cons_append]
      rw [membersOfTokens, read _ (by omega)]
      simp only
      rw [ih (List.cons_ne_nil _ _) keys reads (by omega)]

/-- A draft without a mistake is read from its tokens. -/
theorem reads_of_isWhole {draft : Draft} (whole : draft.isWhole) : draft.Reads := by
  induction draft using induction with
  | broken => cases whole
  | null | bool | number | text =>
    intro steps rest enough
    rw [tokens, List.length_singleton] at enough
    obtain ⟨steps, rfl⟩ := Nat.exists_eq_add_one_of_ne_zero (by omega : steps ≠ 0)
    rfl
  | array items closed ih =>
    intro steps rest enough
    rw [isWhole, areWhole_eq, Bool.and_eq_true, List.all_eq_true] at whole
    obtain ⟨whole, rfl⟩ := whole
    rw [tokens, List.length_cons, List.length_append] at enough
    obtain ⟨steps, rfl⟩ := Nat.exists_eq_add_one_of_ne_zero (by omega : steps ≠ 0)
    cases items with
    | nil => rfl
    | cons item items =>
      have read := itemsOfTokens_tokens (List.cons_ne_nil item items)
        (fun item member => ih item member (whole item member)) rest (by omega : _ ≤ steps)
      rw [tokens, List.cons_append, List.append_assoc, List.singleton_append,
        ofTokens.eq_7 _ _ (itemTokens_open item items _), read]
  | object members closed ih =>
    intro steps rest enough
    rw [isWhole, membersWhole_eq, Bool.and_eq_true, List.all_eq_true] at whole
    obtain ⟨whole, rfl⟩ := whole
    rw [tokens, List.length_cons, List.length_append] at enough
    obtain ⟨steps, rfl⟩ := Nat.exists_eq_add_one_of_ne_zero (by omega : steps ≠ 0)
    cases members with
    | nil => rfl
    | cons member members =>
      have read := membersOfTokens_tokens (List.cons_ne_nil member members)
        (fun member here => (Bool.and_eq_true_iff.mp (whole member here)).1)
        (fun member here => (ih member here).2 (Bool.and_eq_true_iff.mp (whole member here)).2)
        rest (by omega : _ ≤ steps)
      rw [tokens, List.cons_append, List.append_assoc, List.singleton_append,
        ofTokens.eq_9 _ _ (memberTokens_open member members _), read]

/-- A text whose tokens are those of a draft without a mistake is read as it. -/
theorem read_of_tokens {draft : Draft} (whole : draft.isWhole) {source : String}
    (cut : Token.ofChars source.toList = draft.tokens) : read source = (draft, true) := by
  have all : ofTokens (2 * draft.tokens.length + 2) (draft.tokens ++ []) = (draft, []) :=
    reads_of_isWhole whole [] (by omega)
  rw [List.append_nil] at all
  simp only [read, cut, all, List.isEmpty_nil]

end FontSubset.Json.Draft

namespace FontSubset.Json.Value

theorem induction {motive : Value → Prop} (null : motive null) (bool : ∀ b, motive (bool b))
    (number : ∀ n, motive (number n)) (text : ∀ s, motive (text s))
    (array : ∀ items, (∀ item ∈ items, motive item) → motive (array items))
    (object : ∀ members, (∀ member ∈ members, motive member.2) → motive (object members))
    (value : Value) : motive value := by
  refine @Value.rec motive (fun items => ∀ item ∈ items, motive item)
    (fun members => ∀ member ∈ members, motive member.2) (fun member => motive member.2) null bool
    number text array object ?_ ?_ ?_ ?_ ?_ value
  · intro item h
    cases h
  · intro item items first rest
    exact List.forall_mem_cons.mpr ⟨first, rest⟩
  · intro member h
    cases h
  · intro member members first rest
    exact List.forall_mem_cons.mpr ⟨first, rest⟩
  · intro key value h
    exact h

mutual

/-- What a reader finds of a value that is all there. -/
def draft : Value → Draft
  | null => .null
  | bool b => .bool b
  | number n => .number (some n)
  | text s => .text (some s)
  | array items => .array (drafts items) true
  | object members => .object (memberDrafts members) true

def drafts : List Value → List Draft
  | [] => []
  | item :: rest => item.draft :: drafts rest

def memberDrafts : List (String × Value) → List (Draft × Draft)
  | [] => []
  | (key, value) :: rest => (.text (some key), value.draft) :: memberDrafts rest

end

theorem drafts_eq_map (items : List Value) : drafts items = items.map draft := by
  induction items with
  | nil => rfl
  | cons item rest ih => rw [drafts, ih, List.map_cons]

theorem memberDrafts_eq_map (members : List (String × Value)) :
    memberDrafts members =
      members.map fun member => (.text (some member.1), member.2.draft) := by
  induction members with
  | nil => rfl
  | cons member rest ih => rw [memberDrafts, ih, List.map_cons]

theorem isWhole_draft (value : Value) : value.draft.isWhole := by
  induction value using induction with
  | null | bool | number | text => rfl
  | array items ih =>
    rw [draft, Draft.isWhole, drafts_eq_map, Draft.areWhole_eq, Bool.and_true, List.all_map]
    exact List.all_eq_true.mpr ih
  | object members ih =>
    rw [draft, Draft.isWhole, memberDrafts_eq_map, Draft.membersWhole_eq, Bool.and_true,
      List.all_map]
    exact List.all_eq_true.mpr ih

end FontSubset.Json.Value
