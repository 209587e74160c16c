import FontSubset.Proofs.Text.Tail
/-! Where a text is cut. The cut is looked for byte by byte from the place that the limit gives;
the search comes to an end within the text, at most three bytes on, and what stands behind that
place is what is kept. -/
namespace FontSubset.Text

/-- The search for a place at which no character is cut apart, one byte after the other, and the
place at which it ends. -/
inductive Seeks (text : String) : Nat → Nat → Prop
  | found {place : Nat} (whole : String.Pos.Raw.IsValid text ⟨place⟩) : Seeks text place place
  | onward {place stop : Nat} (cut : ¬ String.Pos.Raw.IsValid text ⟨place⟩)
    (later : Seeks text (place + 1) stop) : Seeks text place stop

theorem seeks_of_first {text : String} {start stop : Nat} (within : start ≤ stop)
    (whole : String.Pos.Raw.IsValid text ⟨stop⟩)
    (first : ∀ place, start ≤ place → String.Pos.Raw.IsValid text ⟨place⟩ → stop ≤ place) :
    Seeks text start stop := by
  induction within using Nat.decreasingInduction with
  | self => exact .found whole
  | of_succ place before ih =>
    refine .onward (fun here => ?_) (ih fun other later => first other (by omega))
    exact absurd (first place le_rfl here) (by omega)

theorem isValid_iff {chars : List Char} {place : Nat} :
    String.Pos.Raw.IsValid (String.ofList chars) ⟨place⟩ ↔
      ∃ front back, chars = front ++ back ∧ byteLength front = place := by
  rw [String.Pos.Raw.isValid_iff_exists_append]
  constructor
  · rintro ⟨front, back, split, size⟩
    refine ⟨front.toList, back.toList, ?_, ?_⟩
    · simpa using congrArg String.toList split
    · rw [byteLength_toList]
      exact congrArg String.Pos.Raw.byteIdx size.symm
  · rintro ⟨front, back, rfl, rfl⟩
    refine ⟨String.ofList front, String.ofList back, String.ofList_append, ?_⟩
    rw [String.Pos.Raw.ext_iff, byteLength_eq_utf8Len]
    exact (String.utf8ByteSize_ofList front).symm

/-! Whole characters dropped from the front, once more: how many bytes too many. -/

@[simp] theorem dropBytes_zero (chars : List Char) : dropBytes 0 chars = chars := by
  cases chars <;> rfl

theorem le_byteLength_dropBytes (count : Nat) (chars : List Char) :
    byteLength chars - count ≤ byteLength (dropBytes count chars) + 3 := by
  induction chars generalizing count with
  | nil => simp [byteLength]
  | cons c rest ih =>
    have size := c.utf8Size_le_four
    unfold dropBytes
    split
    · omega
    · rw [byteLength_cons]
      by_cases last : count < c.utf8Size
      · rw [Nat.sub_eq_zero_of_le last.le, dropBytes_zero]
        omega
      · have later := ih (count - c.utf8Size)
        omega

theorem dropBytes_append (front back : List Char) (count : Nat) :
    dropBytes (byteLength front + count) (front ++ back) = dropBytes count back := by
  induction front with
  | nil => simp [byteLength]
  | cons c rest ih =>
    have size := c.utf8Size_pos
    rw [List.cons_append, dropBytes, if_neg (by rw [byteLength_cons]; omega), byteLength_cons,
      Nat.add_assoc, Nat.add_sub_cancel_left, ih]

theorem seeks_dropBytes {count : Nat} {chars : List Char} (within : count ≤ byteLength chars) :
    ∃ front, chars = front ++ dropBytes count chars ∧
      Seeks (String.ofList chars) count (byteLength front) := by
  obtain ⟨front, split⟩ := dropBytes_suffix count chars
  have sizes := byteLength_append front (dropBytes count chars)
  rw [split] at sizes
  have short := byteLength_dropBytes_le count chars
  refine ⟨front, split.symm, seeks_of_first (by omega) ?_ ?_⟩
  · exact isValid_iff.mpr ⟨front, _, split.symm, rfl⟩
  · intro place after whole
    obtain ⟨front', back, split', rfl⟩ := isValid_iff.mp whole
    have sizes' := byteLength_append front' back
    rw [← split'] at sizes'
    have longest := byteLength_le_of_suffix
      (suffix_dropBytes ⟨front', split'.symm⟩ (by omega : byteLength back + count ≤ _))
    omega

/-! Blanks behind and text in front. -/

theorem trimEnd_append_of_blank (chars : List Char) {blanks : List Char}
    (blank : ∀ c ∈ blanks, isBlank c = true) : trimEnd (chars ++ blanks) = trimEnd chars := by
  have reversed : ∀ c ∈ blanks.reverse, isBlank c = true :=
    fun c member => blank c (List.mem_reverse.mp member)
  rw [trimEnd, List.reverse_append, List.dropWhile_append_of_pos reversed, trimEnd]

theorem trimEnd_append {back : List Char} (firm : trimEnd back ≠ []) (front : List Char) :
    trimEnd (front ++ back) = front ++ trimEnd back := by
  have some : (back.reverse.dropWhile isBlank).isEmpty = false := by
    simpa [trimEnd] using firm
  rw [trimEnd, List.reverse_append, List.dropWhile_append, some]
  simp [trimEnd]

theorem EndsFirm.trimEnd_eq {chars : List Char} (firm : EndsFirm chars) :
    trimEnd chars = chars := by
  rw [trimEnd_eq_rdropWhile, List.rdropWhile_eq_self_iff]
  intro nonempty
  simp [firm _ (List.getLast?_eq_getLast_of_ne_nil nonempty)]

theorem tail_of_short {text : String} {limit : Nat}
    (short : byteLength (trimEnd text.toList) ≤ limit) :
    tail text limit = String.ofList (trimEnd text.toList) := by
  rw [tail, tailChars, if_pos short]

theorem tail_of_long {text : String} {limit : Nat}
    (long : limit < byteLength (trimEnd text.toList)) :
    tail text limit = "..." ++ String.ofList
      (dropBytes (byteLength (trimEnd text.toList) - limit) (trimEnd text.toList)) := by
  rw [tail, tailChars, if_neg (by omega), String.ofList_append, String.ofList_toList]

theorem tail_append_of_blank (text : String) {blanks : String}
    (blank : ∀ c ∈ blanks.toList, isBlank c = true) (limit : Nat) :
    tail (text ++ blanks) limit = tail text limit := by
  rw [tail, tail, tailChars, tailChars, String.toList_append, trimEnd_append_of_blank _ blank]

theorem tail_append_of_long {text : String} {limit : Nat}
    (long : limit < byteLength (trimEnd text.toList)) (front : String) :
    tail (front ++ text) limit = tail text limit := by
  have firm : trimEnd text.toList ≠ [] := by
    intro empty
    simp [empty, byteLength] at long
  have whole : trimEnd (front ++ text).toList = front.toList ++ trimEnd text.toList := by
    rw [String.toList_append, trimEnd_append firm]
  have excess : byteLength front.toList + byteLength (trimEnd text.toList) - limit =
      byteLength front.toList + (byteLength (trimEnd text.toList) - limit) := by
    omega
  rw [tail_of_long long, tail_of_long (by rw [whole, byteLength_append]; omega), whole,
    byteLength_append, excess, dropBytes_append]

/-- The longest end of a text within a limit, and the search that comes upon it. -/
structure KeepsEnd (text : String) (limit : Nat) (front back : String) : Prop where
  split : text = front ++ back
  sought : Seeks text (text.utf8ByteSize - limit) front.utf8ByteSize
  short : back.utf8ByteSize ≤ limit
  almost : limit - 3 ≤ back.utf8ByteSize
  longest : ∀ front' back' : String, text = front' ++ back' → back'.utf8ByteSize ≤ limit →
    back'.utf8ByteSize ≤ back.utf8ByteSize

theorem utf8ByteSize_eq (chars : List Char) :
    (String.ofList chars).utf8ByteSize = byteLength chars := by
  rw [String.utf8ByteSize_ofList, byteLength_eq_utf8Len]

theorem keepsEnd_dropBytes {chars : List Char} {limit : Nat} (long : limit < byteLength chars) :
    ∃ front, KeepsEnd (String.ofList chars) limit front
      (String.ofList (dropBytes (byteLength chars - limit) chars)) := by
  have short := byteLength_dropBytes_le (byteLength chars - limit) chars
  have almost := le_byteLength_dropBytes (byteLength chars - limit) chars
  obtain ⟨front, split, sought⟩ := seeks_dropBytes (Nat.sub_le (byteLength chars) limit)
  refine ⟨String.ofList front, ?_, ?_, ?_, ?_, ?_⟩
  · rw [← String.ofList_append, ← split]
  · simpa only [utf8ByteSize_eq] using sought
  · rw [utf8ByteSize_eq]
    omega
  · rw [utf8ByteSize_eq]
    omega
  · intro front' back' split' short'
    have whole : chars = front'.toList ++ back'.toList := by
      simpa using congrArg String.toList split'
    rw [← byteLength_toList] at short' ⊢
    rw [utf8ByteSize_eq]
    exact byteLength_le_of_suffix (suffix_dropBytes ⟨_, whole.symm⟩ (by omega))

/-- A text is kept up to the blanks at its end if that is within the limit; else it is cut at the
first place from the limit on that cuts no character, and the longest end within the limit is
kept behind three dots. Blanks behind the text do not matter, nor does what stands in front of a
text that is cut. -/
theorem tail_keeps_longest_end (text : String) (limit : Nat) :
    ∃ firm blanks : String, text = firm ++ blanks ∧ EndsFirm firm.toList ∧
      (∀ c ∈ blanks.toList, isBlank c = true) ∧
      (firm.utf8ByteSize ≤ limit → tail text limit = firm) ∧
      (limit < firm.utf8ByteSize → ∃ front back, KeepsEnd firm limit front back ∧
        tail text limit = "..." ++ back) ∧
      (tail text limit).utf8ByteSize ≤ limit + 3 ∧
      EndsFirm (tail text limit).toList ∧
      (tail text limit = "" ↔ ∀ c ∈ text.toList, isBlank c = true) ∧
      (∀ more : String, (∀ c ∈ more.toList, isBlank c = true) →
        tail (text ++ more) limit = tail text limit) ∧
      (limit < firm.utf8ByteSize → ∀ more : String,
        tail (more ++ text) limit = tail text limit) := by
  refine ⟨String.ofList (trimEnd text.toList), String.ofList (text.toList.rtakeWhile isBlank),
    ?_, ?_, ?_, ?_, ?_, utf8ByteSize_tail_le text limit, ?_, tail_eq_empty_iff, ?_, ?_⟩
  · rw [← String.ofList_append, trimEnd_append_blanks, String.ofList_toList]
  · rw [String.toList_ofList]
    exact endsFirm_trimEnd text.toList
  · rw [String.toList_ofList]
    exact fun c member => List.mem_rtakeWhile_imp member
  · rw [utf8ByteSize_eq]
    exact tail_of_short
  · rw [utf8ByteSize_eq]
    intro long
    obtain ⟨front, keeps⟩ := keepsEnd_dropBytes long
    exact ⟨front, _, keeps, tail_of_long long⟩
  · rw [toList_tail]
    exact (cutTo_tailChars text.toList limit).endsFirm
  · exact fun more blank => tail_append_of_blank text blank limit
  · rw [utf8ByteSize_eq]
    exact fun long more => tail_append_of_long long more

/-- Four characters of three bytes each with a line end behind, of which a limit of four bytes
keeps one. -/
theorem tail_keeps_longest_end_wide :
    let text := "字字字字\n"
    (∀ c ∈ "\t ".toList, isBlank c = true) ∧ 4 < "字字字字".utf8ByteSize ∧
      tail text 4 = "...字" ∧ tail (text ++ "\t ") 4 = "...字" ∧
      tail ("é" ++ text) 4 = "...字" ∧
      ∃ front back, KeepsEnd "字字字字" 4 front back ∧ "...字" = "..." ++ back := by
  intro text
  have blank : ∀ c ∈ "\t ".toList, isBlank c = true := by simp [isBlank]
  have cut : tail text 4 = "...字" := by decide
  obtain ⟨firm, blanks, split, ends, rest, -, back, -, -, -, behind, ahead⟩ :=
    tail_keeps_longest_end text 4
  obtain rfl : firm = "字字字字" := by
    rw [← firm.toList_inj, ← ends.trimEnd_eq, ← trimEnd_append_of_blank _ rest,
      ← String.toList_append, ← split]
    decide
  have long : 4 < "字字字字".utf8ByteSize := by
    rw [← byteLength_toList]
    decide
  refine ⟨blank, long, cut, (behind _ blank).trans cut, (ahead long _).trans cut, ?_⟩
  rw [← cut]
  exact back long

end FontSubset.Text
