import FontSubset.Proofs.Batch.Alike
import FontSubset.Proofs.Files.Walk
import FontSubset.Proofs.Path.Relative
import FontSubset.Rehearsal
/-! Candidates in place of a tree. A scanner that is told the files of a tree, as they are seen
from its root and in the order of a walk, answers as the walk does, and so runs with either come
to the same report. -/
namespace FontSubset.Files

def waysByName (parts : List (Bytes × List (List Bytes))) : List (List Bytes) :=
  (parts.mergeSort fun a b => (compare a.1 b.1).isLE).flatMap fun (name, ways) =>
    ways.map (name :: ·)

mutual

/-- The ways from a node down to the regular files in it, in the order of a walk. Links are not
followed. -/
def Node.ways : Node → List (List Bytes)
  | .file .. | .program _ => [[]]
  | .directory entries => waysByName (entryWays entries)
  | .link _ | .device _ => []

def Node.entryWays : List (Bytes × Node) → List (Bytes × List (List Bytes))
  | [] => []
  | (name, node) :: rest => (name, ways node) :: entryWays rest

end

/-- No directory that is reached refuses to be listed. -/
def Listed (refused : Path → Option Fault) (path : Path) (node : Node) : Prop :=
  ∀ names below, Leads (fun _ => none) path node names (.directory below) →
    refused (path.joinAll names) = none

variable {refused : Path → Option Fault} {path : Path} {node last : Node} {names : List Bytes}

theorem Node.entryWays_eq (entries : List (Bytes × Node)) :
    entryWays entries = entries.map fun entry => (entry.1, entry.2.ways) := by
  induction entries with
  | nil => rfl
  | cons entry rest ih => rw [entryWays, ih, List.map_cons]

def byName (entries : List (Bytes × Node)) : List (Bytes × Node) :=
  entries.mergeSort fun a b => (compare a.1 b.1).isLE

theorem mergeSort_map {β : Type} (entries : List (Bytes × Node)) (see : Bytes × Node → β) :
    ((entries.map fun entry => (entry.1, see entry)).mergeSort fun a b =>
      (compare a.1 b.1).isLE) = (byName entries).map fun entry => (entry.1, see entry) := by
  rw [byName]
  symm
  apply List.map_mergeSort
  intro a _ b _
  rfl

theorem Node.ways_directory (entries : List (Bytes × Node)) :
    (Node.directory entries).ways =
      (byName entries).flatMap fun entry => entry.2.ways.map (entry.1 :: ·) := by
  rw [ways, entryWays_eq, waysByName, mergeSort_map, List.flatMap_map]

theorem inNameOrder_map (entries : List (Bytes × Node)) (see : Bytes × Node → List ScanEvent) :
    inNameOrder (entries.map fun entry => (entry.1, see entry)) = (byName entries).flatMap see := by
  rw [inNameOrder, mergeSort_map, List.flatMap_map]

theorem mem_ways_of_leaf (leaf : node.isDirectory = false) : names ∈ node.ways ↔
    ∃ last, Leads (fun _ => none) path node names last ∧ last.isFile = true := by
  have regular : names ∈ node.ways ↔ names = [] ∧ node.isFile = true := by
    cases node with
    | directory => cases leaf
    | file | program => exact List.mem_singleton.trans (and_iff_left rfl).symm
    | link | device => exact iff_of_false List.not_mem_nil fun h => Bool.false_ne_true h.2
  rw [regular]
  constructor
  · rintro ⟨rfl, file⟩
    exact ⟨node, .here path node, file⟩
  · rintro ⟨last, way, file⟩
    obtain ⟨rfl, rfl⟩ := (leads_leaf_iff leaf).mp way
    exact ⟨rfl, file⟩

theorem mem_ways (path : Path) : names ∈ node.ways ↔
    ∃ last, Leads (fun _ => none) path node names last ∧ last.isFile = true := by
  induction node using Node.induction generalizing path names with
  | file | program | link | device => exact mem_ways_of_leaf rfl
  | directory entries ih =>
    rw [Node.ways_directory, List.mem_flatMap]
    simp only [byName, List.mem_mergeSort, List.mem_map]
    constructor
    · rintro ⟨entry, member, rest, below, rfl⟩
      obtain ⟨last, way, regular⟩ := (ih entry member _).mp below
      exact ⟨last, .down rfl member way, regular⟩
    · rintro ⟨last, way, regular⟩
      rcases leads_directory_iff.mp way with ⟨-, rfl⟩ | ⟨-, entry, member, rest, rfl, below⟩
      · cases regular
      · exact ⟨entry, member, rest, (ih entry member _).mpr ⟨last, below, regular⟩, rfl⟩

theorem pairwise_ways (sound : node.Sound) :
    node.ways.Pairwise fun a b => compare a b = .lt := by
  induction node using Node.induction with
  | file | program => exact List.pairwise_singleton _ _
  | link | device => exact .nil
  | directory entries ih =>
    rcases sound with ⟨⟨⟩⟩ | ⟨distinct, named, below⟩
    rw [Node.ways_directory, List.pairwise_flatMap]
    constructor
    · intro entry member
      have here : entry ∈ entries := List.mem_mergeSort.mp member
      refine List.pairwise_map.mpr ((ih entry here (below entry here)).imp ?_)
      intro a b order
      simpa [List.compare_cons_cons] using order
    · refine (pairwise_sorted distinct).imp ?_
      intro a b order x memberX y memberY
      obtain ⟨restX, -, rfl⟩ := List.mem_map.mp memberX
      obtain ⟨restY, -, rfl⟩ := List.mem_map.mp memberY
      rw [List.compare_cons_cons, order]
      rfl

theorem fontsSeen_flatMap {α : Type} (items : List α) (see : α → List ScanEvent) :
    fontsSeen (items.flatMap see) = items.flatMap fun item => fontsSeen (see item) :=
  List.filterMap_flatMap

theorem fontsSeen_sightings (listed : Listed refused path node) :
    fontsSeen (sightings refused path node) =
      (node.ways.filter fun names => Font.qualifies (path.joinAll names)).map fun names =>
        ⟨path.joinAll names⟩ := by
  induction node using Node.induction generalizing path with
  | file | program =>
    simp only [sightings, Node.ways]
    split <;> simp_all [fontsSeen]
  | link | device => simp [sightings, Node.ways, fontsSeen]
  | directory entries ih =>
    have open_here : refused path = none := listed [] entries (.here _ _)
    simp only [sightings_directory, open_here, inNameOrder_map, fontsSeen_flatMap]
    rw [Node.ways_directory, List.filter_flatMap, List.map_flatMap]
    refine List.flatMap_congr fun entry member => ?_
    have here : entry ∈ entries := List.mem_mergeSort.mp member
    have deeper : Listed refused (path.join ⟨entry.1⟩) entry.2 :=
      fun names below way => listed (entry.1 :: names) below (.down rfl here way)
    rw [ih entry here deeper, List.filter_map, List.map_map]
    rfl

/-- The candidates of a tree: its files as seen from the root, in the order of a walk. -/
def Node.candidates (node : Node) : Rehearsal.Scanner :=
  .candidates (node.ways.map Path.relative)

theorem scan_candidates {files : Files} {root : Path} {entries : List (Bytes × Node)}
    (resolved : files.find root = .ok (.directory entries))
    (sound : (Node.directory entries).Sound) (listed : Listed refused root (.directory entries)) :
    (Node.directory entries).candidates.scan root = (files.scan refused root).1 := by
  have down : ∀ names ∈ (Node.directory entries).ways,
      (∀ name ∈ names, Path.IsName name) ∧ names ≠ [] := by
    intro names member
    obtain ⟨last, way, regular⟩ := (mem_ways root).mp member
    refine ⟨way.isName sound, ?_⟩
    rintro rfl
    rcases leads_directory_iff.mp way with ⟨-, rfl⟩ | ⟨-, _, -, _, ⟨⟩, -⟩
    cases regular
  rw [scan_directory resolved, fontsSeen_sightings listed]
  simp only [Node.candidates, Rehearsal.Scanner.scan, List.filter_map, List.map_map]
  congr 1
  have same : (Node.directory entries).ways.filter (Font.qualifies ∘ Path.relative) =
      (Node.directory entries).ways.filter fun names => Font.qualifies (root.joinAll names) := by
    refine List.filter_congr fun names member => ?_
    exact Path.qualifies_relative root (down names member).1 (down names member).2
  rw [same]
  refine List.map_congr_left fun names member => ?_
  obtain ⟨named, some⟩ := down names (List.mem_of_mem_filter member)
  rw [Function.comp_apply, Path.join_relative root named some]

/-- A scanner that has the candidates of a tree all of whose directories can be listed answers as
a scan of the tree does, font for font. So where the clock and the tool answer alike, a batch comes
to the same report with either. -/
theorem candidates_stand_for_tree {files : Files} {root : Path} {entries : List (Bytes × Node)}
    (resolved : files.find root = .ok (.directory entries))
    (sound : (Node.directory entries).Sound) (listed : Listed refused root (.directory entries)) :
    let ways := (Node.directory entries).ways
    (∀ names, names ∈ ways ↔ ∃ node, Leads (fun _ => none) root (.directory entries) names node ∧
      node.isFile = true) ∧
    (ways.Pairwise fun a b => compare a b = .lt) ∧
    (Rehearsal.Scanner.candidates (ways.map Path.relative)).scan root =
      (files.scan refused root).1 ∧
    ∀ (σ τ : Type) (R : σ → τ → Prop) (real : Backend σ) (double : Backend τ) (batch : Batch)
      (session : Session σ) (session' : Session τ), batch.root = root →
      real.ServeAlike R double → R session.world session'.world →
      (batch.strict = true →
        batch.textFilePresence real session = batch.textFilePresence double session') →
      (∀ v w, R v w →
        (real.scan root v).1.1 = (files.scan refused root).1 ∧
        (double.scan root w).1.1 =
          (Rehearsal.Scanner.candidates (ways.map Path.relative)).scan root ∧
        R (real.scan root v).2 (double.scan root w).2) →
      (batch.run real session).1 = (batch.run double session').1 := by
  intro ways
  have same := scan_candidates resolved sound listed
  refine ⟨fun _ => mem_ways root, pairwise_ways sound, same, ?_⟩
  rintro σ τ R real double batch session session' rfl alike related sights scans
  refine (Batch.run_related_of_scan alike ?_ session session' related sights).1
  intro v w related
  obtain ⟨walked, told, worlds⟩ := scans v w related
  exact ⟨walked.trans (same.symm.trans told.symm), worlds⟩

/-- A font beside a directory of almost its name, with a font in it and a link to one. -/
def nestedEntries : List (Bytes × Node) :=
  [(Text.encode "b.ttf", .file [] false),
    (Text.encode "b", .directory
      [(Text.encode "c.TTF", .file [] false), (Text.encode "d.ttf", .link (Text.encode "c.TTF"))]),
    (Text.encode "a.otf", .file [] false)]

theorem candidates_stand_for_tree_nested :
    let files : Files := ⟨.directory nestedEntries, []⟩
    let refused : Path → Option Fault := fun _ => none
    let ways := (Node.directory nestedEntries).ways
    let batch : Batch := ⟨".//", .ofTextFile "chars.txt", false, false⟩
    let double := Rehearsal.backend (fun _ => .missing) (.candidates (ways.map Path.relative)) .succeed
    let real := { double with scan := fun root => pure (files.scan refused root) }
    let session : Session Rehearsal.Stage := ⟨⟨⟨0, 5⟩, []⟩, []⟩
    files.find ".//" = .ok (.directory nestedEntries) ∧ (Node.directory nestedEntries).Sound ∧
      Listed refused ".//" (.directory nestedEntries) ∧
      [Text.encode "b", Text.encode "c.TTF"] ∈ ways ∧
      (Rehearsal.Scanner.candidates (ways.map Path.relative)).scan ".//" =
        (files.scan refused ".//").1 ∧
      real.ServeAlike Eq double ∧
      (batch.run real session).1 = (batch.run double session).1 := by
  intro files refused ways batch double real session
  have resolved : files.find ".//" = .ok (.directory nestedEntries) := by
    cbv
  have sound : (Node.directory nestedEntries).Sound := by
    refine .directory (by decide +kernel) (by decide +kernel) ?_
    intro entry member
    simp only [nestedEntries, List.mem_cons, List.not_mem_nil, or_false] at member
    rcases member with rfl | rfl | rfl
    · exact .leaf rfl
    · refine .directory (by decide +kernel) (by decide +kernel) ?_
      simpa using And.intro (Node.Sound.leaf rfl) (Node.Sound.leaf rfl)
    · exact .leaf rfl
  have listed : Listed refused ".//" (.directory nestedEntries) := fun _ _ _ => rfl
  have alike : real.ServeAlike Eq double :=
    ⟨by rintro stage _ rfl; exact ⟨rfl, rfl⟩, by rintro path stage _ rfl; rfl,
      by rintro font options stage _ rfl; exact ⟨rfl, rfl⟩⟩
  obtain ⟨files_of, -, scanned, runs⟩ := candidates_stand_for_tree resolved sound listed
  refine ⟨resolved, sound, listed, (files_of _).mpr ⟨.file [] false, ?_, rfl⟩, scanned, alike, ?_⟩
  · exact .down rfl (.tail _ (.head _)) (.down rfl (.head _) (.here _ _))
  · have lax : ¬ batch.strict = true := Bool.false_ne_true
    refine runs _ _ Eq real double batch session session rfl alike rfl (absurd · lax) ?_
    rintro stage _ rfl
    exact ⟨rfl, rfl, rfl⟩

end FontSubset.Files
