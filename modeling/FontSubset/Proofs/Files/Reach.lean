import FontSubset.Proofs.Path.Order
import FontSubset.Files.Scan
/-! What a scan sees. It sees what is reached from the root by names, each in a directory
that can be listed, and nothing else; links are ends of the way. -/
namespace FontSubset.Files

theorem Node.induction {motive : Node → Prop} (file : ∀ bytes run, motive (.file bytes run))
    (program : ∀ name, motive (.program name))
    (directory : ∀ entries, (∀ entry ∈ entries, motive entry.2) → motive (.directory entries))
    (link : ∀ target, motive (.link target)) (device : ∀ device, motive (.device device))
    (node : Node) : motive node := by
  refine @Node.rec motive (fun entries => ∀ entry ∈ entries, motive entry.2)
    (fun entry => motive entry.2) file program directory link device ?_ ?_ ?_ node
  · intro entry h
    cases h
  · intro entry entries first rest
    exact List.forall_mem_cons.mpr ⟨first, rest⟩
  · intro name node h
    exact h

/-- A tree as a file system has them: the entries of a directory have names, no two the
same. -/
inductive Node.Sound : Node → Prop
  | leaf {node : Node} (h : node.isDirectory = false) : Sound node
  | directory {entries : List (Bytes × Node)} (distinct : (entries.map Prod.fst).Nodup)
    (named : ∀ entry ∈ entries, Path.IsName entry.1) (below : ∀ entry ∈ entries, Sound entry.2) :
    Sound (.directory entries)

/-- The same tree, its directories listed in another order. -/
inductive Node.Rearranged : Node → Node → Prop
  | leaf {node : Node} (h : node.isDirectory = false) : Rearranged node node
  | directory {entries entries' : List (Bytes × Node)} (other : Bytes × Node → Node)
    (perm : (entries.map fun entry => (entry.1, other entry)).Perm entries')
    (below : ∀ entry ∈ entries, Rearranged entry.2 (other entry)) :
    Rearranged (.directory entries) (.directory entries')

theorem Node.Rearranged.sound {node node' : Node} (same : node.Rearranged node')
    (sound : node.Sound) : node'.Sound := by
  induction same with
  | leaf h => exact sound
  | @directory entries entries' other perm below ih =>
    rcases sound with ⟨⟨⟩⟩ | ⟨distinct, named, below⟩
    refine .directory ?_ ?_ ?_
    · rw [← (perm.map Prod.fst).nodup_iff]
      simpa [Function.comp_def] using distinct
    · intro entry member
      obtain ⟨entry, here, rfl⟩ := List.mem_map.mp (perm.mem_iff.mpr member)
      exact named entry here
    · intro entry member
      obtain ⟨entry, here, rfl⟩ := List.mem_map.mp (perm.mem_iff.mpr member)
      exact ih entry here (below entry here)

/-- From a node at a path, names lead through directories that can be listed. -/
inductive Leads (refused : Path → Option Fault) : Path → Node → List Bytes → Node → Prop
  | here (path : Path) (node : Node) : Leads refused path node [] node
  | down {path : Path} {entries : List (Bytes × Node)} {name : Bytes} {child last : Node}
    {names : List Bytes} (listed : refused path = none) (entry : (name, child) ∈ entries)
    (rest : Leads refused (path.join ⟨name⟩) child names last) :
    Leads refused path (.directory entries) (name :: names) last

variable {refused : Path → Option Fault} {path : Path} {node last : Node} {names : List Bytes}

theorem Leads.isName (way : Leads refused path node names last) (sound : node.Sound) :
    ∀ name ∈ names, Path.IsName name := by
  induction way with
  | here => exact fun _ h => absurd h List.not_mem_nil
  | down listed entry rest ih =>
    cases sound with
    | leaf h => cases h
    | directory distinct named below =>
      exact List.forall_mem_cons.mpr ⟨named _ entry, ih (below _ entry)⟩

theorem leads_leaf_iff (leaf : node.isDirectory = false) :
    Leads refused path node names last ↔ names = [] ∧ last = node := by
  constructor
  · rintro (_ | _)
    · exact ⟨rfl, rfl⟩
    · cases leaf
  · rintro ⟨rfl, rfl⟩
    exact .here path _

theorem leads_directory_iff {entries : List (Bytes × Node)} :
    Leads refused path (.directory entries) names last ↔
      (names = [] ∧ last = .directory entries) ∨
        (refused path = none ∧ ∃ entry ∈ entries, ∃ rest, names = entry.1 :: rest ∧
          Leads refused (path.join ⟨entry.1⟩) entry.2 rest last) := by
  constructor
  · rintro (_ | ⟨listed, entry, rest⟩)
    · exact .inl ⟨rfl, rfl⟩
    · exact .inr ⟨listed, _, entry, _, rfl, rest⟩
  · rintro (⟨rfl, rfl⟩ | ⟨listed, ⟨name, child⟩, entry, rest, rfl, way⟩)
    · exact .here path _
    · exact .down listed entry way

variable (refused) in
/-- A way that would be open if all directories could be listed is open, or else it ends early
at one that cannot. -/
theorem Leads.open_or_refused (way : Leads (fun _ => none) path node names last) :
    Leads refused path node names last ∨ ∃ front more entries fault, names = front ++ more ∧
      Leads refused path node front (.directory entries) ∧
      refused (path.joinAll front) = some fault := by
  induction way with
  | here path node => exact .inl (.here path node)
  | @down path entries name child last names listed entry rest ih =>
    cases listing : refused path with
    | some fault => exact .inr ⟨[], _, _, fault, rfl, .here _ _, listing⟩
    | none =>
      rcases ih with way | ⟨front, more, below, fault, rfl, way, refusal⟩
      · exact .inl (.down listing entry way)
      · exact .inr ⟨name :: front, more, below, fault, rfl, .down listing entry way, refusal⟩

theorem Leads.unrefused (way : Leads refused path node names last) :
    Leads (fun _ => none) path node names last := by
  induction way with
  | here path node => exact .here path node
  | down listed entry rest ih => exact .down rfl entry ih

/-- What a scan has to say of a node at the end of a way. -/
inductive Noted (refused : Path → Option Fault) (path : Path) : Node → ScanEvent → Prop
  | found {node : Node} (regular : node.isFile = true) (font : Font.qualifies path = true) :
    Noted refused path node (.found path)
  | unreadable {entries : List (Bytes × Node)} {fault : Fault} (h : refused path = some fault) :
    Noted refused path (.directory entries) (.unreadable path fault.message)

theorem entrySightings_eq (refused : Path → Option Fault) (path : Path)
    (entries : List (Bytes × Node)) :
    entrySightings refused path entries =
      entries.map fun entry => (entry.1, sightings refused (path.join ⟨entry.1⟩) entry.2) := by
  induction entries with
  | nil => rfl
  | cons entry rest ih => rw [entrySightings, ih, List.map_cons]

theorem mem_inNameOrder {seen : List (Bytes × List ScanEvent)} {event : ScanEvent} :
    event ∈ inNameOrder seen ↔ ∃ part ∈ seen, event ∈ part.2 := by
  simp [inNameOrder, List.mem_mergeSort]

theorem noted_isFile {event : ScanEvent} (regular : node.isFile = true) :
    Noted refused path node event ↔ Font.qualifies path = true ∧ event = .found path := by
  constructor
  · rintro (⟨-, font⟩ | _)
    · exact ⟨font, rfl⟩
    · cases regular
  · rintro ⟨font, rfl⟩
    exact .found regular font

theorem noted_found {spelled : Path} :
    Noted refused path node (.found spelled) ↔
      spelled = path ∧ node.isFile = true ∧ Font.qualifies path = true := by
  constructor
  · rintro (⟨regular, font⟩ | _)
    exact ⟨rfl, regular, font⟩
  · rintro ⟨rfl, regular, font⟩
    exact .found regular font

theorem noted_directory {entries : List (Bytes × Node)} {event : ScanEvent} :
    Noted refused path (.directory entries) event ↔
      ∃ fault, refused path = some fault ∧ event = .unreadable path fault.message := by
  constructor
  · rintro (⟨⟨⟩, -⟩ | h)
    exact ⟨_, h, rfl⟩
  · rintro ⟨fault, h, rfl⟩
    exact .unreadable h

theorem mem_sightings_leaf {event : ScanEvent} (leaf : node.isDirectory = false) :
    event ∈ sightings refused path node ↔ Noted refused path node event := by
  cases node with
  | file | program =>
    rw [noted_isFile rfl, sightings]
    split <;> simp_all
  | link | device =>
    rw [sightings]
    refine ⟨fun h => absurd h List.not_mem_nil, ?_⟩
    rintro ⟨⟨⟩, -⟩
  | directory => cases leaf

theorem mem_sightings_of_leaf {event : ScanEvent} (leaf : node.isDirectory = false) :
    event ∈ sightings refused path node ↔
      ∃ names last, Leads refused path node names last ∧
        Noted refused (path.joinAll names) last event := by
  simp [mem_sightings_leaf leaf, leads_leaf_iff leaf]

theorem sightings_directory (refused : Path → Option Fault) (path : Path)
    (entries : List (Bytes × Node)) :
    sightings refused path (.directory entries) =
      match refused path with
      | some fault => [.unreadable path fault.message]
      | none => inNameOrder (entries.map fun entry =>
          (entry.1, sightings refused (path.join ⟨entry.1⟩) entry.2)) := by
  cases h : refused path <;> simp only [sightings, entrySightings_eq, h]

/-- A scan sees what some way leads to and it has something to say of. -/
theorem mem_sightings {event : ScanEvent} :
    event ∈ sightings refused path node ↔
      ∃ names last, Leads refused path node names last ∧
        Noted refused (path.joinAll names) last event := by
  induction node using Node.induction generalizing path with
  | file | program | link | device => exact mem_sightings_of_leaf rfl
  | directory entries ih =>
    rw [sightings_directory]
    cases listing : refused path with
    | some fault => simp [leads_directory_iff, listing, noted_directory]
    | none =>
      simp only [mem_inNameOrder, List.mem_map, exists_exists_and_eq_and]
      constructor
      · rintro ⟨entry, member, seen⟩
        obtain ⟨names, last, way, noted⟩ := (ih entry member).mp seen
        exact ⟨_, last, .down listing member way, noted⟩
      · rintro ⟨names, last, way, noted⟩
        rcases leads_directory_iff.mp way with ⟨rfl, rfl⟩ | ⟨-, entry, member, rest, rfl, below⟩
        · obtain ⟨fault, refusal, -⟩ := noted_directory.mp noted
          cases listing.symm.trans refusal
        · exact ⟨entry, member, (ih entry member).mpr ⟨rest, last, below, noted⟩⟩

/-- What is seen does not hang on the order of listing. -/
theorem Node.Rearranged.mem_sightings_iff {node node' : Node} (same : node.Rearranged node')
    {event : ScanEvent} :
    event ∈ sightings refused path node ↔ event ∈ sightings refused path node' := by
  induction same generalizing path with
  | leaf h => exact Iff.rfl
  | @directory entries entries' other perm below ih =>
    rw [sightings_directory, sightings_directory]
    cases refused path with
    | some fault => exact Iff.rfl
    | none =>
      simp only [mem_inNameOrder, List.mem_map, exists_exists_and_eq_and, ← perm.mem_iff]
      exact exists_congr fun entry => and_congr_right fun here => ih entry here

end FontSubset.Files
