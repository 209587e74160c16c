import Mathlib
import FontSubset.Host.Machine
import FontSubset.Proofs.Text.Utf8
/-! What a list of names lets through of an environment. The variables that are passed on form a
map, which is in the order of the names, so that two of them with the same entries are equal. -/
namespace FontSubset.Environment

variable {name value : Bytes} {environment : Environment}

@[simp] theorem get?_nil (name : Bytes) : get? [] name = none := rfl

@[simp] theorem get?_concat (environment : Environment) (entry : Bytes × Bytes) (name : Bytes) :
    get? (environment ++ [entry]) name =
      if entry.1 = name then some entry.2 else environment.get? name := by
  unfold get?
  rw [List.reverse_concat, List.find?_cons]
  cases h : entry.1 == name <;> simp_all

/-- The last entry of a name holds its value. -/
theorem get?_eq_some_iff : environment.get? name = some value ↔
    ∃ earlier later, environment = earlier ++ (name, value) :: later ∧
      ∀ entry ∈ later, entry.1 ≠ name := by
  unfold get?
  simp only [Option.map_eq_some_iff, List.find?_eq_some_iff_append, beq_iff_eq]
  constructor
  · rintro ⟨entry, ⟨rfl, back, front, split, others⟩, rfl⟩
    refine ⟨front.reverse, back.reverse, ?_, by simpa using others⟩
    rw [← List.reverse_reverse environment, split]
    simp
  · rintro ⟨earlier, later, rfl, others⟩
    exact ⟨(name, value), ⟨rfl, later.reverse, earlier.reverse, by simp, by simpa using others⟩, rfl⟩

theorem get?_filter (kept : Bytes → Bool) (environment : Environment) (name : Bytes) :
    get? (environment.filter fun entry => kept entry.1) name =
      if kept name then environment.get? name else none := by
  induction environment using List.reverseRecOn with
  | nil => simp
  | append_singleton front entry ih =>
    rw [List.filter_append, get?_concat]
    by_cases h : kept entry.1 = true
    · have one : [entry].filter (fun entry => kept entry.1) = [entry] := by simp [h]
      rw [one, get?_concat, ih]
      by_cases same : entry.1 = name
      · subst same
        simp [h]
      · simp [same]
    · have none : [entry].filter (fun entry => kept entry.1) = [] := by simp [h]
      rw [none, List.append_nil, ih]
      by_cases same : entry.1 = name
      · simp [← same, h]
      · simp [same]

/-- The names are in strict order, so that each comes once. -/
def IsMap (environment : Environment) : Prop :=
  environment.Pairwise fun a b => compare a.1 b.1 = .lt

theorem ne_of_compare_lt {a b : Bytes} (h : compare a b = .lt) : a ≠ b := by
  rintro rfl
  simp at h

theorem IsMap.mem_put {map : Environment} (h : map.IsMap) (entry : Bytes × Bytes) :
    entry ∈ map.put name value ↔ entry = (name, value) ∨ entry ∈ map ∧ entry.1 ≠ name := by
  induction map with
  | nil => simp [put]
  | cons first rest ih =>
    obtain ⟨behind, rest_isMap⟩ := List.pairwise_cons.mp h
    unfold put
    split
    · next before =>
      have others : ∀ other ∈ first :: rest, other.1 ≠ name := by
        intro other member
        apply Ne.symm
        rcases List.mem_cons.mp member with rfl | later
        · exact ne_of_compare_lt before
        · exact ne_of_compare_lt (Std.TransCmp.lt_trans before (behind other later))
      rw [List.mem_cons]
      apply or_congr_right
      exact (and_iff_left_of_imp (others entry)).symm
    · next same =>
      have first_name : name = first.1 := Std.LawfulEqOrd.eq_of_compare same
      have others : ∀ other ∈ rest, other.1 ≠ name := by
        intro other member
        rw [first_name]
        exact (ne_of_compare_lt (behind other member)).symm
      rw [List.mem_cons, List.mem_cons]
      apply or_congr_right
      constructor
      · exact fun member => ⟨.inr member, others entry member⟩
      · rintro ⟨rfl | member, different⟩
        · exact absurd first_name.symm different
        · exact member
    · next after =>
      have different : first.1 ≠ name := by
        rintro rfl
        simp at after
      rw [List.mem_cons, List.mem_cons, ih rest_isMap]
      constructor
      · rintro (rfl | rfl | member)
        · exact .inr ⟨.inl rfl, different⟩
        · exact .inl rfl
        · exact .inr ⟨.inr member.1, member.2⟩
      · rintro (rfl | ⟨rfl | member, ne⟩)
        · exact .inr (.inl rfl)
        · exact .inl rfl
        · exact .inr (.inr ⟨member, ne⟩)

theorem IsMap.put {map : Environment} (h : map.IsMap) (name value : Bytes) :
    (map.put name value).IsMap := by
  induction map with
  | nil => exact List.pairwise_singleton _ _
  | cons first rest ih =>
    obtain ⟨behind, rest_isMap⟩ := List.pairwise_cons.mp h
    unfold Environment.put
    split
    · next before =>
      refine List.pairwise_cons.mpr ⟨?_, h⟩
      intro other member
      rcases List.mem_cons.mp member with rfl | later
      · exact before
      · exact Std.TransCmp.lt_trans before (behind other later)
    · next same =>
      refine List.pairwise_cons.mpr ⟨?_, rest_isMap⟩
      rw [Std.LawfulEqOrd.eq_of_compare same]
      exact behind
    · next after =>
      refine List.pairwise_cons.mpr ⟨?_, ih rest_isMap⟩
      intro other member
      rcases (IsMap.mem_put rest_isMap other).mp member with rfl | later
      · exact Std.OrientedCmp.gt_iff_lt.mp after
      · exact behind other later.1

@[simp] theorem toMap_concat (environment : Environment) (entry : Bytes × Bytes) :
    toMap (environment ++ [entry]) = (toMap environment).put entry.1 entry.2 := by
  simp [toMap]

theorem isMap_toMap (environment : Environment) : (toMap environment).IsMap := by
  induction environment using List.reverseRecOn with
  | nil => exact .nil
  | append_singleton front entry ih =>
    rw [toMap_concat]
    exact ih.put entry.1 entry.2

theorem mem_toMap (environment : Environment) (entry : Bytes × Bytes) :
    entry ∈ toMap environment ↔ environment.get? entry.1 = some entry.2 := by
  induction environment using List.reverseRecOn with
  | nil => simp [toMap]
  | append_singleton front last ih =>
    rw [toMap_concat, (isMap_toMap front).mem_put, ih, get?_concat]
    by_cases same : last.1 = entry.1
    · simp [same, Prod.ext_iff, eq_comm]
    · simp [same, Prod.ext_iff, Ne.symm same]

theorem IsMap.eq_of_mem_iff {map map' : Environment} (h : map.IsMap) (h' : map'.IsMap)
    (same : ∀ entry, entry ∈ map ↔ entry ∈ map') : map = map' := by
  have nodup {map : Environment} (h : map.IsMap) : map.Nodup :=
    h.imp fun before => ne_of_apply_ne Prod.fst (ne_of_compare_lt before)
  apply List.Perm.eq_of_pairwise _ h h'
  · exact (List.perm_ext_iff_of_nodup (nodup h) (nodup h')).mpr same
  · intro a b _ _ before after
    exact absurd before (by simp [Std.OrientedCmp.gt_of_lt after])

/-- In a map the only entry of a name is the last one. -/
theorem IsMap.get?_eq_some_iff {map : Environment} (h : map.IsMap) :
    map.get? name = some value ↔ (name, value) ∈ map := by
  rw [Environment.get?_eq_some_iff]
  constructor
  · rintro ⟨earlier, later, rfl, -⟩
    simp
  · intro member
    obtain ⟨earlier, later, rfl⟩ := List.append_of_mem member
    refine ⟨earlier, later, rfl, ?_⟩
    intro entry behind
    have after := List.rel_of_pairwise_cons (List.pairwise_append.mp h).2.1 behind
    exact (ne_of_compare_lt after).symm

theorem isMap_restrict (allowed : List String) (environment : Environment) :
    (environment.restrict allowed).IsMap := isMap_toMap _

theorem mem_restrict {allowed : List String} {environment : Environment} {entry : Bytes × Bytes} :
    entry ∈ environment.restrict allowed ↔
      (∃ listed ∈ allowed, Text.encode listed = entry.1) ∧
        environment.get? entry.1 = some entry.2 := by
  unfold restrict
  rw [mem_toMap, get?_filter fun name => allowed.any fun listed => Text.encode listed == name]
  simp

theorem restrict_congr {allowed allowed' : List String} {environment environment' : Environment}
    (listed : ∀ text, text ∈ allowed ↔ text ∈ allowed')
    (values : ∀ text ∈ allowed,
      environment.get? (Text.encode text) = environment'.get? (Text.encode text)) :
    environment.restrict allowed = environment'.restrict allowed' := by
  apply (isMap_restrict allowed environment).eq_of_mem_iff (isMap_restrict allowed' environment')
  intro entry
  rw [mem_restrict, mem_restrict]
  simp only [← listed]
  apply and_congr_right
  rintro ⟨text, member, spelled⟩
  rw [← spelled, values text member]

theorem mem_restrict_append {allowed others : List String} {entry : Bytes × Bytes} :
    entry ∈ environment.restrict (allowed ++ others) ↔
      entry ∈ environment.restrict allowed ∨ entry ∈ environment.restrict others := by
  simp only [mem_restrict, List.mem_append, or_and_right, exists_or]

theorem restrict_restrict (allowed others : List String) (environment : Environment) :
    (environment.restrict allowed).restrict others = environment.restrict (allowed ∩ others) := by
  apply (isMap_restrict _ _).eq_of_mem_iff (isMap_restrict _ _)
  rintro ⟨name, value⟩
  rw [mem_restrict, (isMap_restrict allowed environment).get?_eq_some_iff, mem_restrict,
    mem_restrict]
  simp only [List.mem_inter_iff]
  constructor
  · rintro ⟨⟨other, second, rfl⟩, ⟨text, first, spelled⟩, here⟩
    obtain rfl : text = other := Text.encode_injective spelled
    exact ⟨⟨text, ⟨first, second⟩, rfl⟩, here⟩
  · rintro ⟨⟨text, ⟨first, second⟩, spelled⟩, here⟩
    exact ⟨⟨text, second, spelled⟩, ⟨text, first, spelled⟩, here⟩

open Host (Machine)

/-- A child process sees of the machine's variables only what it is given. -/
theorem start_congr {machine machine' : Machine} {child : Subprocess} {arguments : List Bytes}
    (files : machine.files = machine'.files)
    (environments : machine.childEnvironment child = machine'.childEnvironment child) :
    (Machine.start child arguments machine).1 = (Machine.start child arguments machine').1 ∧
      (Machine.start child arguments machine).2.files =
        (Machine.start child arguments machine').2.files := by
  unfold Machine.start
  simp only [files, environments]
  split
  · exact ⟨rfl, files⟩
  · split
    · exact ⟨rfl, files⟩
    · exact ⟨rfl, rfl⟩

/-- Of an environment just the listed variables are passed on, as a map from each name to its last
value. The order and number of the listings do not count, lists add up and cut each other down, and
a tool that is given a list of names goes by the values of these alone. -/
theorem restrict_passes_exactly_listed (allowed : List String) (environment : Environment) :
    let passed := environment.restrict allowed
    passed.IsMap ∧
    (∀ name value, passed.get? name = some value ↔
      (∃ listed ∈ allowed, Text.encode listed = name) ∧
        ∃ earlier later, environment = earlier ++ (name, value) :: later ∧
          ∀ entry ∈ later, entry.1 ≠ name) ∧
    (∀ allowed', (∀ text, text ∈ allowed' ↔ text ∈ allowed) →
      environment.restrict allowed' = passed) ∧
    (∀ others entry, entry ∈ environment.restrict (allowed ++ others) ↔
      entry ∈ passed ∨ entry ∈ environment.restrict others) ∧
    (∀ others, passed.restrict others = environment.restrict (allowed ∩ others)) ∧
    ∀ environment', (∀ listed ∈ allowed, environment'.get? (Text.encode listed) =
        environment.get? (Text.encode listed)) →
      environment'.restrict allowed = passed ∧
      ∀ (child : Subprocess) (arguments : List Bytes) (files : Files) (clock : Clock),
        child.allowed = some allowed →
        let run (environment : Environment) :=
          Machine.start child arguments ⟨files, environment, clock⟩
        (run environment').1 = (run environment).1 ∧
          (run environment').2.files = (run environment).2.files := by
  intro passed
  refine ⟨isMap_restrict allowed environment, ?_, ?_, ?_, ?_, ?_⟩
  · intro name value
    rw [(isMap_restrict allowed environment).get?_eq_some_iff, mem_restrict, get?_eq_some_iff]
  · intro allowed' same
    exact restrict_congr same fun _ _ => rfl
  · intro others entry
    exact mem_restrict_append
  · intro others
    exact restrict_restrict allowed others environment
  · intro environment' values
    have same : environment'.restrict allowed = passed := restrict_congr (fun _ => Iff.rfl) values
    refine ⟨same, ?_⟩
    intro child arguments files clock restricted
    have given : Machine.childEnvironment ⟨files, environment', clock⟩ child =
        Machine.childEnvironment ⟨files, environment, clock⟩ child := by
      simp only [Machine.childEnvironment, restricted]
      exact same
    exact start_congr rfl given

/-- A name that is listed and set twice beside one that is no text, and an environment in which
only other variables differ. -/
theorem restrict_passes_exactly_listed_twice :
    let entry (name value : String) : Bytes × Bytes := (Text.encode name, Text.encode value)
    let environment : Environment :=
      [entry "A" "1", ([0xFF], [0xFE]), entry "B" "2", entry "A" "3"]
    let environment' : Environment := [entry "B" "4", entry "A" "3", entry "D" "5"]
    let allowed := ["A", "C", "A"]
    (∀ listed ∈ allowed, environment'.get? (Text.encode listed) =
      environment.get? (Text.encode listed)) ∧
    (environment.restrict allowed).get? (Text.encode "A") = some (Text.encode "3") ∧
    environment.restrict ["C", "A"] = environment.restrict allowed ∧
    environment'.restrict allowed = environment.restrict allowed := by
  intro entry environment environment' allowed
  have values : ∀ listed ∈ allowed, environment'.get? (Text.encode listed) =
      environment.get? (Text.encode listed) := by decide +kernel
  obtain ⟨-, value, respelled, -, -, others⟩ := restrict_passes_exactly_listed allowed environment
  refine ⟨values, ?_, respelled _ (by simp [allowed, or_comm]), (others _ values).1⟩
  refine (value _ _).mpr ⟨⟨"A", by simp [allowed], rfl⟩, ?_⟩
  exact ⟨environment.dropLast, [], rfl, by simp⟩

end FontSubset.Environment
