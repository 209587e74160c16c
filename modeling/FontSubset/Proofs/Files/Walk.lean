import FontSubset.Proofs.Files.Reach
/-! The order of a scan. The entries of each directory are taken by the bytes of their names,
a file where it stands and a directory with all that is in it, and that is the order of
paths by components. So the order in which the system lists a directory leaves no trace. -/
namespace FontSubset

namespace ScanEvent

def path : ScanEvent → Path
  | found path => path
  | unreadable path _ => path

/-- Strictly before by the order of the paths. -/
def Before (a b : ScanEvent) : Prop := compare a.path.components b.path.components = .lt

instance : Std.Irrefl Before where
  irrefl a h := by
    rw [Before, Std.ReflOrd.compare_self] at h
    cases h

instance : Std.Antisymm Before where
  antisymm a b h h' := by
    exact absurd h (Std.OrientedCmp.not_lt_of_lt h')

end ScanEvent

namespace Files

open ScanEvent (Before)

variable {refused : Path → Option Fault} {path : Path} {node last : Node} {names : List Bytes}

theorem Noted.path_eq {event : ScanEvent} (h : Noted refused path node event) :
    event.path = path := by
  cases h <;> rfl

/-- What is seen below an entry has the entry's name next in its path. -/
theorem components_of_mem_sightings {event : ScanEvent} {name : Bytes} (sound : node.Sound)
    (isName : Path.IsName name) (seen : event ∈ sightings refused (path.join ⟨name⟩) node) :
    ∃ more, event.path.components = path.components ++ Component.name name :: more := by
  obtain ⟨names, last, way, noted⟩ := mem_sightings.mp seen
  refine ⟨names.map .name, ?_⟩
  rw [noted.path_eq, Path.components_joinAll _ (way.isName sound), Path.components_join _ isName]
  simp

/-- Parts of different names stand in strict order once they are sorted. -/
theorem pairwise_sorted {β : Type} {parts : List (Bytes × β)}
    (distinct : (parts.map Prod.fst).Nodup) :
    (parts.mergeSort fun a b => (compare a.1 b.1).isLE).Pairwise
      fun a b => compare a.1 b.1 = .lt := by
  let le (a b : Bytes × β) : Bool := (compare a.1 b.1).isLE
  have total (a b : Bytes × β) : le a b || le b a := by
    simp only [le]
    rw [Std.OrientedOrd.eq_swap (a := b.1)]
    cases compare a.1 b.1 <;> rfl
  have transitive (a b c : Bytes × β) : le a b → le b c → le a c := Std.TransOrd.isLE_trans
  have ordered := List.pairwise_mergeSort transitive total parts
  have different := ((List.mergeSort_perm parts fun a b => (compare a.1 b.1).isLE).map
    Prod.fst).nodup_iff.mpr distinct
  rw [List.Nodup, List.pairwise_map] at different
  refine (ordered.and different).imp ?_
  rintro a b ⟨upward, ne⟩
  cases order : compare a.1 b.1 with
  | lt => rfl
  | eq => exact absurd (Std.LawfulEqOrd.eq_of_compare order) ne
  | gt =>
    simp only [le, order] at upward
    cases upward

/-- A scan goes up in path order, below each name as between names. -/
theorem pairwise_sightings (sound : node.Sound) :
    (sightings refused path node).Pairwise Before := by
  induction node using Node.induction generalizing path with
  | file | program =>
    rw [sightings]
    split <;> simp
  | link | device =>
    rw [sightings]
    exact .nil
  | directory entries ih =>
    rw [sightings_directory]
    split
    · exact List.pairwise_singleton _ _
    rcases sound with ⟨⟨⟩⟩ | ⟨distinct, named, below⟩
    let parts := entries.map fun entry =>
      (entry.1, sightings refused (path.join ⟨entry.1⟩) entry.2)
    have names : (parts.map Prod.fst).Nodup := by simpa [parts, Function.comp_def] using distinct
    rw [inNameOrder, List.pairwise_flatMap]
    constructor
    · intro part member
      obtain ⟨entry, here, rfl⟩ := List.mem_map.mp (List.mem_mergeSort.mp member)
      exact ih entry here (below entry here)
    · refine (pairwise_sorted names).imp_of_mem ?_
      intro a b memberA memberB order x seenX y seenY
      obtain ⟨first, here, rfl⟩ := List.mem_map.mp (List.mem_mergeSort.mp memberA)
      obtain ⟨second, there, rfl⟩ := List.mem_map.mp (List.mem_mergeSort.mp memberB)
      obtain ⟨moreX, pathX⟩ :=
        components_of_mem_sightings (below first here) (named first here) seenX
      obtain ⟨moreY, pathY⟩ :=
        components_of_mem_sightings (below second there) (named second there) seenY
      rw [Before, pathX, pathY, Path.compare_append_left, List.compare_cons_cons,
        Component.compare_name, order]
      rfl

theorem Node.Rearranged.sightings_eq {node' : Node} (same : node.Rearranged node')
    (sound : node.Sound) : sightings refused path node' = sightings refused path node :=
  List.Pairwise.eq_of_mem_iff (pairwise_sightings (same.sound sound)) (pairwise_sightings sound)
    fun _ => same.mem_sightings_iff.symm

theorem font_of_event {event : ScanEvent} {font : Font} :
    (match event with
      | .found path => some ⟨path⟩
      | .unreadable .. => none) = some font ↔ event = .found font.path := by
  cases event with
  | found path => constructor <;> rintro ⟨⟩ <;> rfl
  | unreadable => constructor <;> rintro ⟨⟩

theorem mem_fontsSeen {events : List ScanEvent} {font : Font} :
    font ∈ fontsSeen events ↔ ScanEvent.found font.path ∈ events := by
  rw [fontsSeen, List.mem_filterMap]
  refine (exists_congr fun event => and_congr_right fun _ => font_of_event).trans ?_
  rw [exists_eq_right]

theorem pairwise_fontsSeen {events : List ScanEvent} (ordered : events.Pairwise Before) :
    (fontsSeen events).Pairwise fun a b => compare a b = .lt := by
  rw [fontsSeen, List.pairwise_filterMap]
  refine ordered.imp ?_
  intro a b before font fontA font' fontB
  obtain rfl := font_of_event.mp fontA
  obtain rfl := font_of_event.mp fontB
  exact before

theorem mem_fonts_iff {entries : List (Bytes × Node)} (sound : (Node.directory entries).Sound)
    {font : Font} :
    font ∈ fontsSeen (sightings refused path (.directory entries)) ↔ ∃ names name node,
      Leads refused path (.directory entries) (names ++ [name]) node ∧ node.isFile = true ∧
        Font.qualifies ⟨name⟩ = true ∧ font.path = path.joinAll (names ++ [name]) := by
  rw [mem_fontsSeen, mem_sightings]
  constructor
  · rintro ⟨names, node, way, noted⟩
    obtain ⟨spelled, regular, qualified⟩ := noted_found.mp noted
    rcases List.eq_nil_or_concat' names with rfl | ⟨names, name, rfl⟩
    · -- the directory itself is no font
      rcases leads_directory_iff.mp way with ⟨-, rfl⟩ | ⟨-, _, -, _, ⟨⟩, -⟩
      cases regular
    · have isName := way.isName sound name (by simp)
      rw [Path.joinAll_concat, Path.qualifies_join _ isName] at qualified
      exact ⟨names, name, node, way, regular, qualified, spelled⟩
  · rintro ⟨names, name, node, way, regular, qualified, spelled⟩
    have isName := way.isName sound name (by simp)
    refine ⟨_, node, way, noted_found.mpr ⟨spelled, regular, ?_⟩⟩
    rw [Path.joinAll_concat, Path.qualifies_join _ isName]
    exact qualified

theorem mem_warnings_iff {event : ScanEvent} :
    event ∈ (sightings refused path node).filter (·.level = .warn) ↔ ∃ names entries fault,
      Leads refused path node names (.directory entries) ∧
        refused (path.joinAll names) = some fault ∧
        event = .unreadable (path.joinAll names) fault.message := by
  rw [List.mem_filter, mem_sightings]
  constructor
  · rintro ⟨⟨names, last, way, _ | refusal⟩, warn⟩
    · cases warn
    · exact ⟨names, _, _, way, refusal, rfl⟩
  · rintro ⟨names, entries, fault, way, refusal, rfl⟩
    exact ⟨⟨names, _, way, .unreadable refusal⟩, rfl⟩

theorem scan_directory {files : Files} {root : Path} {entries : List (Bytes × Node)}
    (resolved : files.find root = .ok (.directory entries)) :
    files.scan refused root =
      (.ok (fontsSeen (sightings refused root (.directory entries))),
        sightings refused root (.directory entries)) := by
  rw [scan, resolved]
  rfl

/-- A scan of a directory finds the regular files whose names make them fonts, wherever real
directories that can be listed lead to them, each once and in path order. It notes each
directory that it comes to and cannot list, once, and the order in which directories are
listed makes no difference. -/
theorem scan_finds_every_font {files : Files} {root : Path} {entries : List (Bytes × Node)}
    (resolved : files.find root = .ok (.directory entries))
    (sound : (Node.directory entries).Sound) :
    ∃ fonts events, files.scan refused root = (.ok fonts, events) ∧
      (∀ font, font ∈ fonts ↔ ∃ names name node,
        Leads refused root (.directory entries) (names ++ [name]) node ∧ node.isFile = true ∧
          Font.qualifies ⟨name⟩ = true ∧ font.path = root.joinAll (names ++ [name])) ∧
      fonts.Pairwise (fun a b => compare a b = .lt) ∧
      fonts.Nodup ∧
      (events.filter (·.level = .warn)).Nodup ∧
      (∀ event, event ∈ events.filter (·.level = .warn) ↔ ∃ names below fault,
        Leads refused root (.directory entries) names (.directory below) ∧
          refused (root.joinAll names) = some fault ∧
          event = .unreadable (root.joinAll names) fault.message) ∧
      (∀ names names' node node', Leads refused root (.directory entries) names node →
        Leads refused root (.directory entries) names' node' →
        root.joinAll names = root.joinAll names' → names = names') ∧
      (∃ all events', files.scan (fun _ => none) root = (.ok all, events') ∧
        (∀ font ∈ fonts, font ∈ all) ∧
        ∀ font ∈ all, font ∉ fonts → ∃ front more below fault,
          Leads refused root (.directory entries) front (.directory below) ∧
            refused (root.joinAll front) = some fault ∧ font.path = root.joinAll (front ++ more)) ∧
      ∀ (files' : Files) entries', files'.find root = .ok (.directory entries') →
        (Node.directory entries).Rearranged (.directory entries') →
        files'.scan refused root = files.scan refused root := by
  have ordered : (sightings refused root (.directory entries)).Pairwise ScanEvent.Before :=
    pairwise_sightings sound
  refine ⟨_, _, scan_directory resolved, fun _ => mem_fonts_iff sound,
    pairwise_fontsSeen ordered, ?_, ?_, fun _ => mem_warnings_iff, ?_, ?_, ?_⟩
  · refine (pairwise_fontsSeen ordered).imp ?_
    rintro font _ before rfl
    exact absurd (Std.ReflOrd.compare_self.symm.trans before) (by decide)
  · refine (ordered.filter _).imp ?_
    rintro event _ before rfl
    exact Std.Irrefl.irrefl event before
  · intro names names' node node' way way'
    exact Path.joinAll_injective (way.isName sound) (way'.isName sound)
  · refine ⟨_, _, scan_directory resolved, ?_, ?_⟩
    · intro font seen
      obtain ⟨names, name, node, way, rest⟩ := (mem_fonts_iff sound).mp seen
      exact (mem_fonts_iff sound).mpr ⟨names, name, node, way.unrefused, rest⟩
    · intro font seen lost
      obtain ⟨names, name, node, way, rest⟩ := (mem_fonts_iff sound).mp seen
      rcases way.open_or_refused refused with
        way | ⟨front, more, below, fault, split, way, refusal⟩
      · exact absurd ((mem_fonts_iff sound).mpr ⟨names, name, node, way, rest⟩) lost
      · exact ⟨front, more, below, fault, way, refusal, split ▸ rest.2.2⟩
  · intro files' entries' resolved' same
    rw [scan_directory resolved, scan_directory resolved', same.sightings_eq sound]

/-- A directory named like a font, a font beside a directory of almost its name, a link, and a
directory that cannot be listed. -/
def mixedEntries : List (Bytes × Node) :=
  [(Text.encode "a.ttf", .file [] false),
    (Text.encode "shut", .directory [(Text.encode "b.ttf", .file [] false)]),
    (Text.encode "a", .directory [(Text.encode "c.TTF", .file [] false)]),
    (Text.encode "d.ttf", .link (Text.encode "a.ttf"))]

theorem scan_finds_every_font_mixed :
    let files : Files := ⟨.directory mixedEntries, []⟩
    let refused : Path → Option Fault := fun path =>
      if path = "./shut" then some .permissionDenied else none
    files.find "." = .ok (.directory mixedEntries) ∧ (Node.directory mixedEntries).Sound ∧
      ∃ events, files.scan refused "." = (.ok [⟨"./a/c.TTF"⟩, ⟨"./a.ttf"⟩], events) ∧
        events.filter (·.level = .warn) =
          [.unreadable "./shut" "Permission denied (os error 13)"] ∧
        ([⟨"./a/c.TTF"⟩, ⟨"./a.ttf"⟩] : List Font).Nodup := by
  intro files refused
  have resolved : files.find "." = .ok (.directory mixedEntries) := by
    cbv
  have single (name : Bytes) (h : Path.IsName name) :
      (Node.directory [(name, .file [] false)]).Sound :=
    .directory (List.nodup_singleton _) (by simpa using h) (by simpa using .leaf rfl)
  have sound : (Node.directory mixedEntries).Sound := by
    refine .directory (by decide +kernel) (by decide +kernel) ?_
    intro entry member
    simp only [mixedEntries, List.mem_cons, List.not_mem_nil, or_false] at member
    rcases member with rfl | rfl | rfl | rfl
    · exact .leaf rfl
    · exact single _ (by decide +kernel)
    · exact single _ (by decide +kernel)
    · exact .leaf rfl
  have atRoot : refused "." = none := by decide +kernel
  have atA : refused "./a" = none := by decide +kernel
  have atShut : refused "./shut" = some .permissionDenied := by decide +kernel
  have sighted : sightings refused "." (.directory mixedEntries) =
      [.found "./a/c.TTF", .found "./a.ttf",
        .unreadable "./shut" "Permission denied (os error 13)"] := by
    simp only [mixedEntries, sightings, entrySightings, atRoot]
    rw [show (Path.ofString ".").join ⟨Text.encode "a"⟩ = "./a" by decide +kernel, atA,
      show (Path.ofString ".").join ⟨Text.encode "shut"⟩ = "./shut" by decide +kernel, atShut]
    cbv
  have scanned := @scan_directory refused _ _ _ resolved
  rw [sighted] at scanned
  obtain ⟨fonts, events, result, -, -, once, -⟩ :=
    @scan_finds_every_font refused _ _ _ resolved sound
  obtain ⟨found, rfl⟩ := Prod.mk.inj (result.symm.trans scanned)
  obtain rfl := Except.ok.inj found
  exact ⟨resolved, sound, _, result, by decide, once⟩

end Files
end FontSubset
