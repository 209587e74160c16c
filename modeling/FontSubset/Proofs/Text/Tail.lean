import Mathlib
import FontSubset.Text.Tail
/-! The kept end of a text. What is kept has no blank at its end, is empty only for a blank
text, and is the longest end of whole characters that the limit admits. -/
namespace FontSubset.Text

theorem byteLength_eq_utf8Len (chars : List Char) : byteLength chars = String.utf8Len chars := by
  induction chars with
  | nil => rfl
  | cons c rest ih => simp [byteLength, ← ih, Nat.add_comm]

theorem byteLength_cons (c : Char) (rest : List Char) :
    byteLength (c :: rest) = c.utf8Size + byteLength rest := rfl

theorem byteLength_append (front back : List Char) :
    byteLength (front ++ back) = byteLength front + byteLength back := by
  simp [byteLength_eq_utf8Len]

theorem byteLength_le_of_suffix {back chars : List Char} (h : back <:+ chars) :
    byteLength back ≤ byteLength chars := by
  simpa [byteLength_eq_utf8Len] using String.utf8Len_le_of_suffix h

theorem byteLength_toList (text : String) : byteLength text.toList = text.utf8ByteSize := by
  rw [byteLength_eq_utf8Len, String.utf8Len_toList]

/-! Blanks at the end. -/

/-- The end of a text is no blank. -/
def EndsFirm (chars : List Char) : Prop := ∀ c, chars.getLast? = some c → isBlank c = false

theorem trimEnd_eq_rdropWhile (chars : List Char) : trimEnd chars = chars.rdropWhile isBlank := rfl

theorem trimEnd_append_blanks (chars : List Char) :
    trimEnd chars ++ chars.rtakeWhile isBlank = chars :=
  List.rdropWhile_append_rtakeWhile

theorem endsFirm_trimEnd (chars : List Char) : EndsFirm (trimEnd chars) := by
  intro c last
  rw [trimEnd_eq_rdropWhile] at last
  have nonempty : chars.rdropWhile isBlank ≠ [] := by
    intro empty
    simp [empty] at last
  have firm := List.rdropWhile_last_not isBlank chars nonempty
  rw [List.getLast?_eq_getLast_of_ne_nil nonempty] at last
  simpa [Option.some.inj last] using firm

theorem EndsFirm.append_left {back : List Char} (firm : EndsFirm back) (nonempty : back ≠ [])
    (front : List Char) : EndsFirm (front ++ back) := by
  intro c last
  apply firm
  simpa [List.getLast?_append_of_ne_nil _ nonempty] using last

theorem EndsFirm.of_suffix {chars back : List Char} (firm : EndsFirm chars)
    (h : back <:+ chars) : EndsFirm back := by
  obtain ⟨front, rfl⟩ := h
  intro c last
  apply firm
  simp [List.getLast?_append, last]

theorem EndsFirm.eq_nil {chars : List Char} (firm : EndsFirm chars)
    (blank : ∀ c ∈ chars, isBlank c = true) : chars = [] := by
  by_contra nonempty
  have last := firm _ (List.getLast?_eq_getLast_of_ne_nil nonempty)
  simp [blank _ (List.getLast_mem nonempty)] at last

/-! Whole characters dropped from the front. -/

theorem dropBytes_suffix (count : Nat) (chars : List Char) : dropBytes count chars <:+ chars := by
  induction chars generalizing count with
  | nil => simp [dropBytes]
  | cons c rest ih =>
    unfold dropBytes
    split
    · simp
    · exact (ih _).trans (List.suffix_cons c rest)

theorem byteLength_dropBytes_le (count : Nat) (chars : List Char) :
    byteLength (dropBytes count chars) ≤ byteLength chars - count := by
  induction chars generalizing count with
  | nil => simp [dropBytes, byteLength]
  | cons c rest ih =>
    unfold dropBytes
    split
    · omega
    · have := ih (count - c.utf8Size)
      rw [byteLength_cons]
      omega

/-- No end of whole characters that is short enough is longer. -/
theorem suffix_dropBytes {count : Nat} {chars back : List Char} (h : back <:+ chars)
    (short : byteLength back + count ≤ byteLength chars) : back <:+ dropBytes count chars := by
  induction chars generalizing count with
  | nil => simpa [dropBytes] using h
  | cons c rest ih =>
    unfold dropBytes
    split
    · exact h
    · rcases List.suffix_cons_iff.mp h with rfl | later
      · omega
      · have fits := byteLength_le_of_suffix later
        rw [byteLength_cons] at short
        apply ih later
        omega

/-! What is kept. -/

/-- What a text is cut down to: itself without the blanks at its end if that is within the
limit, else three dots and the longest end of it that is. -/
inductive CutTo (limit : Nat) : List Char → List Char → Prop
  | whole {firm blanks : List Char} (ends : EndsFirm firm) (blank : ∀ c ∈ blanks, isBlank c = true)
    (short : byteLength firm ≤ limit) : CutTo limit (firm ++ blanks) firm
  | back {firm blanks back : List Char} (ends : EndsFirm firm)
    (blank : ∀ c ∈ blanks, isBlank c = true) (long : limit < byteLength firm)
    (suffix : back <:+ firm) (short : byteLength back ≤ limit)
    (longest : ∀ other, other <:+ firm → byteLength other ≤ limit → other <:+ back) :
    CutTo limit (firm ++ blanks) ("...".toList ++ back)

theorem cutTo_tailChars (chars : List Char) (limit : Nat) :
    CutTo limit chars (tailChars chars limit) := by
  have ends := endsFirm_trimEnd chars
  have blank : ∀ c ∈ chars.rtakeWhile isBlank, isBlank c = true :=
    fun c member => List.mem_rtakeWhile_imp member
  have split := trimEnd_append_blanks chars
  unfold tailChars
  dsimp only
  split_ifs with short
  · simpa [split] using CutTo.whole ends blank short
  · let excess := byteLength (trimEnd chars) - limit
    have size := byteLength_dropBytes_le excess (trimEnd chars)
    have cut : CutTo limit (trimEnd chars ++ chars.rtakeWhile isBlank)
        ("...".toList ++ dropBytes excess (trimEnd chars)) := by
      apply CutTo.back ends blank
      · omega
      · exact dropBytes_suffix excess (trimEnd chars)
      · omega
      · intro other suffix fits
        apply suffix_dropBytes suffix
        omega
    rwa [split] at cut

namespace CutTo

variable {limit : Nat} {chars kept : List Char} (h : CutTo limit chars kept)
include h

theorem byteLength_le : byteLength kept ≤ limit + 3 := by
  cases h with
  | whole ends blank short => omega
  | back ends blank long suffix short longest =>
    rw [byteLength_append]
    have dots : byteLength "...".toList = 3 := rfl
    omega

theorem endsFirm : EndsFirm kept := by
  cases h with
  | whole ends blank short => exact ends
  | @back firm blanks back ends blank long suffix short longest =>
    by_cases empty : back = []
    · intro c last
      rw [empty] at last
      obtain rfl : '.' = c := by simpa using last
      rfl
    · exact (ends.of_suffix suffix).append_left empty _

theorem eq_nil_iff : kept = [] ↔ ∀ c ∈ chars, isBlank c = true := by
  cases h with
  | @whole firm blanks ends blank short =>
    constructor
    · rintro rfl
      simpa using blank
    · intro all
      exact ends.eq_nil fun c member => all c (List.mem_append_left _ member)
  | @back firm blanks back ends blank long suffix short longest =>
    refine iff_of_false (by simp) fun all => ?_
    have empty := ends.eq_nil fun c member => all c (List.mem_append_left _ member)
    simp [empty, byteLength] at long

end CutTo

@[simp] theorem toList_tail (text : String) (limit : Nat) :
    (tail text limit).toList = tailChars text.toList limit :=
  String.toList_ofList

theorem utf8ByteSize_tail_le (text : String) (limit : Nat) :
    (tail text limit).utf8ByteSize ≤ limit + 3 := by
  rw [← byteLength_toList, toList_tail]
  exact (cutTo_tailChars text.toList limit).byteLength_le

theorem tail_eq_empty_iff {text : String} {limit : Nat} :
    tail text limit = "" ↔ ∀ c ∈ text.toList, isBlank c = true := by
  rw [← (cutTo_tailChars text.toList limit).eq_nil_iff, ← String.toList_eq_nil_iff, toList_tail]

end FontSubset.Text
