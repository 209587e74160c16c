import FontSubset.Proofs.Files.Resolution
import FontSubset.Proofs.Files.Walk
/-! Roots that cannot be scanned. A root that is no directory, one that is not there and one that
is out of reach are told apart by how the walk along them ends. A character list is missing at
a path that is not there and at one that is out of reach alike. -/
namespace FontSubset.Files

variable {files : Files} {refused : Path → Option Fault} {root : Path}

/-! What a scan answers. -/

theorem scan_of_not_found (h : files.find root = .error .notFound) :
    files.scan refused root = (.error (.rootNotFound root), []) := by
  rw [scan, h]

theorem scan_of_fault {fault : Fault} (h : files.find root = .error fault)
    (other : fault ≠ .notFound) :
    files.scan refused root = (.error (.io fault.message), []) := by
  rw [scan, h]
  cases fault <;> first | rfl | exact absurd rfl other

theorem scan_of_not_directory {node : Node} (h : files.find root = .ok node)
    (other : node.isDirectory = false) :
    files.scan refused root = (.error (.notADirectory root), []) := by
  rw [scan, h]
  simp only [other, Bool.false_eq_true, if_false]

theorem Node.isDirectory_iff {node : Node} :
    node.isDirectory = true ↔ ∃ entries, node = .directory entries := by
  cases node <;> simp [isDirectory]

/-- A character list is found missing just when nothing is found at its path. -/
theorem check_missing_iff : Preflight.check root (files.presence root) = [.textFileMissing root] ↔
    ¬ ∃ node, files.Resolves root (.ok node) := by
  simp only [← find_eq_iff]
  unfold presence
  cases files.find root with
  | error fault => simp [Preflight.check]
  | ok node => cases h : node.isFile <;> simp [h, Preflight.check]

/-- A scan gives fonts just when its root resolves to a directory, and says that it is none just
when it resolves to something else. A root is not found if its path is empty or leads to a
directory without the next name; any other fault is passed on. A character list at the path of
the root is missing in either case, so scan and check agree just when there is no other fault. -/
theorem scan_tells_roots_apart (files : Files) (refused : Path → Option Fault) (root : Path) :
    let answer := (files.scan refused root).1
    ((∃ fonts, answer = .ok fonts) ↔
      ∃ entries, files.Resolves root (.ok (.directory entries))) ∧
    (answer = .error (.notADirectory root) ↔
      ∃ node, files.Resolves root (.ok node) ∧ node.isDirectory = false) ∧
    (answer = .error (.rootNotFound root) ↔ files.IsAbsent root) ∧
    (∀ reason, answer = .error (.io reason) ↔
      ∃ fault, fault ≠ .notFound ∧ files.Resolves root (.error fault) ∧
        fault.message = reason) ∧
    (Preflight.check root (files.presence root) = [.textFileMissing root] ↔
      ¬ ∃ node, files.Resolves root (.ok node)) ∧
    ((answer = .error (.rootNotFound root) ↔
        Preflight.check root (files.presence root) = [.textFileMissing root]) ↔
      ∀ fault, files.Resolves root (.error fault) → fault = .notFound) := by
  intro answer
  rw [check_missing_iff, ← resolves_notFound_iff]
  simp only [← find_eq_iff]
  cases found : files.find root with
  | error fault =>
    by_cases absent : fault = .notFound
    · subst absent
      have h : answer = .error (.rootNotFound root) := congrArg Prod.fst (scan_of_not_found found)
      simp [h]
    · have h : answer = .error (.io fault.message) := congrArg Prod.fst (scan_of_fault found absent)
      simp [h, absent]
  | ok node =>
    by_cases directory : node.isDirectory = true
    · obtain ⟨entries, rfl⟩ := Node.isDirectory_iff.mp directory
      have h : answer = .ok _ := congrArg Prod.fst (scan_directory found)
      simp [h, directory]
    · have h : answer = .error (.notADirectory root) :=
        congrArg Prod.fst (scan_of_not_directory found (Bool.eq_false_of_not_eq_true directory))
      simp [h, directory, ← Node.isDirectory_iff]

/-- Behind a file nothing can be found, but a scan does not say so, while a character list is
missing there. -/
theorem scan_disagrees_behind_file :
    let files : Files := ⟨.directory [(Text.encode "notes.txt", .file [] false)], []⟩
    let root : Path := "notes.txt/sub"
    (files.scan longPath root).1 = .error (.io "Not a directory (os error 20)") ∧
      Preflight.check root (files.presence root) = [.textFileMissing root] := by
  intro files root
  have offer : Offers files.top [] (Text.encode "notes.txt") (some (.file [] false)) :=
    ⟨⟨by decide, by decide, by decide⟩, _, rfl, rfl⟩
  have blocked : files.Resolves root (.error .notADirectory) :=
    .walked rfl .refl (.blocked offer rfl (List.cons_ne_nil _ _))
  have found := find_eq_iff.mpr blocked
  refine ⟨congrArg Prod.fst (scan_of_fault found (by decide)), check_missing_iff.mpr ?_⟩
  rintro ⟨node, there⟩
  cases found.symm.trans (find_eq_iff.mpr there)

end FontSubset.Files
