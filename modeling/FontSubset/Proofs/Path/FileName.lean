import FontSubset.Proofs.Path.Relative
/-! The name that a path ends in. It is found from the end of the path, behind which nothing but
slashes and dots may stand, and it alone decides whether the path is that of a font. -/
namespace FontSubset
namespace Path

/-- What says nothing at the end of a path: slashes, each with or without a dot behind. -/
def IsPadding (bytes : Bytes) : Prop :=
  ∃ pieces : List Bytes, (∀ piece ∈ pieces, piece = [slash] ∨ piece = [slash, dot]) ∧
    bytes = pieces.flatten

theorem IsPadding.nil : IsPadding [] := ⟨[], by simp, rfl⟩

theorem IsPadding.append_segment {padding segment : Bytes} (h : IsPadding padding)
    (idle : segment = [] ∨ segment = [dot]) : IsPadding (padding ++ slash :: segment) := by
  obtain ⟨pieces, each, rfl⟩ := h
  refine ⟨pieces ++ [slash :: segment], ?_, by simp⟩
  intro piece member
  rcases List.mem_append.mp member with before | last
  · exact each piece before
  · rw [List.mem_singleton.mp last]
    rcases idle with rfl | rfl
    · exact .inl rfl
    · exact .inr rfl

theorem stepOf_eq_none_iff {segment : Bytes} :
    stepOf segment = none ↔ segment = [] ∨ segment = [dot] := by
  unfold stepOf
  split_ifs <;> simp_all

theorem stepOf_eq_name_iff {segment name : Bytes} (slashless : slash ∉ segment) :
    stepOf segment = some (.name name) ↔ segment = name ∧ IsName name := by
  constructor
  · intro step
    unfold stepOf at step
    split_ifs at step with idle parent
    · cases step
    · obtain ⟨nonempty, ne_dot⟩ := not_or.mp idle
      obtain rfl := Component.name.inj (Option.some.inj step)
      exact ⟨rfl, nonempty, slashless, ne_dot, parent⟩
  · rintro ⟨rfl, isName⟩
    exact isName.stepOf

theorem components_append_padding {bytes padding : Bytes} (nonempty : bytes ≠ [])
    (h : IsPadding padding) :
    (Path.mk (bytes ++ padding)).components = (Path.mk bytes).components := by
  obtain ⟨pieces, each, rfl⟩ := h
  induction pieces generalizing bytes with
  | nil => simp
  | cons piece rest ih =>
    rw [List.forall_mem_cons] at each
    rw [List.flatten_cons, ← List.append_assoc, ih (by simp [nonempty]) each.2]
    have slashless : slash ∉ ([] : Bytes) ∧ slash ∉ [dot] := by decide
    rcases each.1 with rfl | rfl
    · simpa [stepOf] using components_append_segment nonempty slashless.1
    · simpa [stepOf] using components_append_segment nonempty slashless.2

theorem components_slash {segment : Bytes} (slashless : slash ∉ segment) :
    (Path.mk (slash :: segment)).components = .root :: (stepOf segment).toList := by
  have segments : segmentsOf (slash :: segment) = [[], segment] := by
    rw [segmentsOf_slash, segmentsOf_of_slashless slashless]
  cases step : stepOf segment <;> simp [components, segments, isAbsolute, step]

theorem components_of_slashless {bytes : Bytes} (slashless : slash ∉ bytes) :
    (Path.mk bytes).components = if bytes = [dot] then [.here] else (stepOf bytes).toList := by
  have relative : (Path.mk bytes).isAbsolute = false := by
    simpa [isAbsolute] using fun first => slashless (List.mem_of_head? first)
  simp [components, segmentsOf_of_slashless slashless, relative]

theorem getLast?_of_stepOf (before : Bytes) {segment : Bytes} {component : Component}
    (slashless : slash ∉ segment) (step : stepOf segment = some component) :
    (Path.mk (before ++ slash :: segment)).components.getLast? = some component := by
  by_cases empty : before = []
  · simp [empty, components_slash slashless, step]
  · simp [components_append_segment empty slashless, step]

theorem exists_last_segment {bytes : Bytes} (slashes : slash ∈ bytes) :
    ∃ front segment, bytes = front ++ slash :: segment ∧ slash ∉ segment := by
  obtain ⟨back, front, split, slashless⟩ :=
    List.eq_append_cons_of_mem (List.mem_reverse.mpr slashes)
  refine ⟨front.reverse, back.reverse, ?_, by simpa using slashless⟩
  rw [← List.reverse_reverse bytes, split]
  simp

theorem fileName?_eq_some_iff_getLast? {path : Path} {name : Bytes} :
    path.fileName? = some name ↔ path.components.getLast? = some (.name name) := by
  unfold fileName?
  split
  · simp_all
  · next other => exact iff_of_false nofun fun last => other name last

/-- A name with a directory in front and padding behind is what a path ends in. -/
theorem fileName?_spelled {front name padding : Bytes} (isName : IsName name)
    (leads : front = [] ∨ front.getLast? = some slash) (idle : IsPadding padding) :
    (Path.mk (front ++ name ++ padding)).fileName? = some name := by
  have joined : (Path.mk front).join ⟨name⟩ = ⟨front ++ name⟩ := by
    simp [join, isName.not_isAbsolute, leads]
  have nonempty : front ++ name ≠ [] := by simp [isName.nonempty]
  rw [fileName?_eq_some_iff_getLast?, components_append_padding nonempty idle, ← joined,
    ← fileName?_eq_some_iff_getLast?]
  exact fileName?_join _ isName

/-- Read from its end, a path that ends in a name has nothing but padding before it comes to that
name, and there a slash or its front. -/
theorem exists_spelling (bytes : Bytes) {name : Bytes}
    (ends : (Path.mk bytes).components.getLast? = some (.name name)) :
    IsName name ∧ ∃ front padding, bytes = front ++ name ++ padding ∧
      (front = [] ∨ front.getLast? = some slash) ∧ IsPadding padding := by
  by_cases slashes : slash ∈ bytes
  · obtain ⟨before, segment, rfl, slashless⟩ := exists_last_segment slashes
    cases step : stepOf segment with
    | none =>
      have idle := stepOf_eq_none_iff.mp step
      have nonempty : before ≠ [] := by
        rintro rfl
        simp [components_slash slashless, step] at ends
      rw [components_append_segment nonempty slashless, step] at ends
      obtain ⟨isName, front, padding, rfl, leads, padded⟩ :=
        exists_spelling before (by simpa using ends)
      exact ⟨isName, front, padding ++ slash :: segment, by simp, leads,
        padded.append_segment idle⟩
    | some component =>
      have last := getLast?_of_stepOf before slashless step
      obtain rfl : component = .name name := Option.some.inj (last.symm.trans ends)
      obtain ⟨rfl, isName⟩ := (stepOf_eq_name_iff slashless).mp step
      exact ⟨isName, before ++ [slash], [], by simp, .inr (by simp), .nil⟩
  · rw [components_of_slashless slashes] at ends
    split_ifs at ends
    · cases ends
    · have step : stepOf bytes = some (.name name) := by
        cases step : stepOf bytes <;> simp_all
      obtain ⟨rfl, isName⟩ := (stepOf_eq_name_iff slashes).mp step
      exact ⟨isName, [], [], by simp, .inl rfl, .nil⟩
termination_by bytes.length

theorem fileName?_eq_some_iff {path : Path} {name : Bytes} :
    path.fileName? = some name ↔ IsName name ∧ ∃ front padding,
      path.bytes = front ++ name ++ padding ∧ (front = [] ∨ front.getLast? = some slash) ∧
        IsPadding padding := by
  constructor
  · intro ends
    exact exists_spelling path.bytes (fileName?_eq_some_iff_getLast?.mp ends)
  · obtain ⟨bytes⟩ := path
    rintro ⟨isName, front, padding, rfl, leads, idle⟩
    exact fileName?_spelled isName leads idle

/-- Where a path is seen from does not change the name it ends in. -/
theorem fileName?_join_of_fileName? {path : Path} {name : Bytes} (root : Path)
    (ends : path.fileName? = some name) : (root.join path).fileName? = some name := by
  by_cases absolute : path.isAbsolute = true
  · simpa [join, absolute] using ends
  · obtain ⟨before, leads', join_eq⟩ := root.exists_join_eq
    obtain ⟨isName, front, padding, spelled, leads, idle⟩ := fileName?_eq_some_iff.mp ends
    rw [join_eq path (Bool.eq_false_iff.mpr absolute), spelled, ← List.append_assoc,
      ← List.append_assoc]
    refine fileName?_spelled isName ?_ idle
    rcases leads with rfl | last
    · simpa using leads'
    · simp [last]

theorem extensionOf_eq_some_iff {name extension : Bytes} :
    extensionOf name = some extension ↔
      ∃ stem, name = stem ++ dot :: extension ∧ stem ≠ [] ∧ dot ∉ extension := by
  have split :
      name.reverse.takeWhile (· ≠ dot) ++ name.reverse.dropWhile (· ≠ dot) = name.reverse :=
    List.takeWhile_append_dropWhile
  unfold extensionOf
  constructor
  · intro h
    split at h
    · next b c rest cut =>
      have isDot : b = dot := by
        have head := List.head?_dropWhile_not (fun b => decide (b ≠ dot)) name.reverse
        rw [cut] at head
        simpa using head
      obtain rfl := Option.some.inj h
      refine ⟨(c :: rest).reverse, ?_, by simp, ?_⟩
      · calc name = (name.reverse.takeWhile (· ≠ dot) ++ b :: c :: rest).reverse := by
              rw [← cut, split, List.reverse_reverse]
          _ = _ := by simp [isDot]
      · intro member
        simpa using List.mem_takeWhile_imp (List.mem_reverse.mp member)
    · cases h
  · rintro ⟨stem, rfl, nonempty, dotless⟩
    obtain ⟨c, rest, reversed⟩ := List.exists_cons_of_ne_nil (List.reverse_ne_nil_iff.mpr nonempty)
    have all : ∀ b ∈ extension.reverse, decide (b ≠ dot) = true := by
      intro b member
      simp only [decide_eq_true_eq]
      rintro rfl
      exact dotless (List.mem_reverse.mp member)
    have word : (stem ++ dot :: extension).reverse = extension.reverse ++ dot :: c :: rest := by
      simp [reversed]
    rw [word, List.dropWhile_append_of_pos all, List.takeWhile_append_of_pos all]
    simp

end Path

namespace Font
open FontSubset.Path (dot slash IsName IsPadding fileName?_eq_some_iff extensionOf_eq_some_iff)

/-- The extension, each letter of it small or capital. -/
def SpellsExtension (bytes : Bytes) : Prop :=
  List.Forall₂ (fun b letter => b = letter ∨ b = letter - 0x20) bytes (Text.encode "ttf")

theorem lowerByte_eq_iff {b letter : UInt8} (small : 0x61 ≤ letter ∧ letter ≤ 0x7A) :
    lowerByte b = letter ↔ b = letter ∨ b = letter - 0x20 := by
  have capital : (letter - 0x20).toNat = letter.toNat - 0x20 := by
    apply UInt8.toNat_sub_of_le
    simp only [UInt8.le_iff_toNat_le, UInt8.reduceToNat] at *
    omega
  unfold lowerByte
  simp only [UInt8.le_iff_toNat_le, UInt8.reduceToNat, ← UInt8.toNat_inj, capital] at *
  split_ifs <;> simp <;> omega

theorem map_lowerByte_eq_extension_iff {bytes : Bytes} :
    bytes.map lowerByte = Text.encode extension ↔ SpellsExtension bytes := by
  have letters : Text.encode "ttf" = [0x74, 0x74, 0x66] := by decide
  rw [← List.forall₂_eq_eq_eq, List.forall₂_map_left_iff, SpellsExtension, extension, letters]
  have t (b : UInt8) : lowerByte b = 0x74 ↔ _ := lowerByte_eq_iff (by decide)
  have f (b : UInt8) : lowerByte b = 0x66 ↔ _ := lowerByte_eq_iff (by decide)
  simp only [List.forall₂_cons_right_iff, List.forall₂_nil_right_iff, t, f]

theorem SpellsExtension.notMem {ext : Bytes} (spells : SpellsExtension ext) {b : UInt8}
    (other : lowerByte b ∉ Text.encode extension) : b ∉ ext := by
  intro member
  rw [← map_lowerByte_eq_extension_iff.mpr spells] at other
  exact other (List.mem_map_of_mem member)

theorem isName_of_spellsExtension {stem ext : Bytes} (slashless : slash ∉ stem)
    (spells : SpellsExtension ext) : IsName (stem ++ dot :: ext) := by
  have length : ext.length = 3 := spells.length_eq
  constructor
  · simp
  · have other : slash ∉ ext := spells.notMem (by decide)
    simpa [slashless, other] using (by decide : slash ≠ dot)
  all_goals
    intro same
    have lengths := congrArg List.length same
    simp [length] at lengths

theorem qualifies_iff {path : Path} :
    qualifies path = true ↔ ∃ stem ext, path.fileName? = some (stem ++ dot :: ext) ∧ stem ≠ [] ∧
      SpellsExtension ext := by
  simp only [qualifies, Path.extension?, Option.any_eq_true, Option.bind_eq_some_iff, beq_iff_eq,
    map_lowerByte_eq_extension_iff, extensionOf_eq_some_iff]
  constructor
  · rintro ⟨ext, ⟨_, ends, stem, rfl, nonempty, -⟩, spells⟩
    exact ⟨stem, ext, ends, nonempty, spells⟩
  · rintro ⟨stem, ext, ends, nonempty, spells⟩
    exact ⟨ext, ⟨_, ends, stem, rfl, nonempty, spells.notMem (by decide)⟩, spells⟩

theorem qualifies_congr {path other : Path} (same : path.fileName? = other.fileName?) :
    qualifies path = qualifies other := by
  rw [qualifies, qualifies, Path.extension?, Path.extension?, same]

/-- A font's path is spelled as a directory or nothing, a stem, a dot, the extension in any case
and, at the end, padding. Of a path that ends in a name, only that name counts, wherever the path
is seen from. -/
theorem qualifies_iff_spelled (path : Path) :
    (qualifies path = true ↔ ∃ front stem ext padding,
      path.bytes = front ++ stem ++ [dot] ++ ext ++ padding ∧
      (front = [] ∨ front.getLast? = some slash) ∧ stem ≠ [] ∧ slash ∉ stem ∧
      SpellsExtension ext ∧ IsPadding padding) ∧
    ∀ name, path.components.getLast? = some (.name name) →
      qualifies path = qualifies ⟨name⟩ ∧
      ∀ root : Path, qualifies (root.join path) = qualifies path := by
  constructor
  · rw [qualifies_iff]
    constructor
    · rintro ⟨stem, ext, ends, nonempty, spells⟩
      obtain ⟨isName, front, padding, spelled, leads, idle⟩ := fileName?_eq_some_iff.mp ends
      refine ⟨front, stem, ext, padding, by simp [spelled], leads, nonempty, ?_, spells, idle⟩
      exact fun member => isName.slashless (List.mem_append_left _ member)
    · rintro ⟨front, stem, ext, padding, spelled, leads, nonempty, slashless, spells, idle⟩
      have isName := isName_of_spellsExtension slashless spells
      refine ⟨stem, ext, fileName?_eq_some_iff.mpr ⟨isName, front, padding, ?_, leads, idle⟩,
        nonempty, spells⟩
      simp [spelled]
  · intro name last
    have ends := Path.fileName?_eq_some_iff_getLast?.mpr last
    have isName := (fileName?_eq_some_iff.mp ends).1
    constructor
    · exact qualifies_congr (ends.trans isName.fileName?.symm)
    · intro root
      exact qualifies_congr ((Path.fileName?_join_of_fileName? root ends).trans ends.symm)

/-- A stem that is a dot, in a directory whose name has the extension too, with padding behind. -/
theorem qualifies_iff_spelled_dots :
    let path : Path := "x.ttf/..TtF/.//"
    path.components.getLast? = some (.name (Text.encode "..TtF")) ∧ qualifies path = true ∧
      ∀ root : Path, qualifies (root.join path) = true := by
  intro path
  have last : path.components.getLast? = some (.name (Text.encode "..TtF")) := by decide +kernel
  obtain ⟨spelled, name⟩ := qualifies_iff_spelled path
  have font : qualifies path = true := by
    refine spelled.mpr ⟨Text.encode "x.ttf/", [dot], Text.encode "TtF", Text.encode "/.//",
      by decide +kernel, .inr (by decide +kernel), by simp, by decide, ?_, ?_⟩
    · unfold SpellsExtension
      decide +kernel
    · exact ⟨[[slash, dot], [slash], [slash]], by simp, by decide +kernel⟩
  exact ⟨last, font, fun root => ((name _ last).2 root).trans font⟩

end Font
end FontSubset
