import Mathlib
import FontSubset.Proofs.Path.Components
import FontSubset.Files.Place
/-! Resolution of a path as a walk of single steps. In a directory the walk stays, goes up, goes
down or takes a link for what it stands for, until it is at a node or something keeps it from
going on. Every path that may be looked up has one end, and it is the one that is found. -/
namespace FontSubset.Files

/-- How far a walk has come: how many links it may still follow, the directory that it is in, and
the steps ahead. -/
structure Position where
  links : Nat
  here : Location
  steps : List Bytes

/-- A step that is looked up among the entries of a directory. -/
structure IsLookup (step : Bytes) : Prop where
  moves : ¬ (step = [] ∨ step = [Path.dot])
  ne_dots : step ≠ [Path.dot, Path.dot]
  short : step.length ≤ nameLimit

def HasDirectory (top : Node) (here : Location) : Prop :=
  ∃ entries, top.at? here = some (.directory entries)

/-- What a directory has by a name, `none` being nothing. -/
def Offers (top : Node) (here : Location) (name : Bytes) (entry : Option Node) : Prop :=
  IsLookup name ∧ ∃ entries, top.at? here = some (.directory entries) ∧
    (Node.directory entries).child? name = entry

/-- Neither to be entered nor to be followed. -/
def Node.isLeaf : Node → Bool
  | directory _ | link _ => false
  | _ => true

inductive Advances (top : Node) : Position → Position → Prop
  | stay {links : Nat} {here : Location} {step : Bytes} {rest : List Bytes}
    (inside : HasDirectory top here) (still : step = [] ∨ step = [Path.dot]) :
    Advances top ⟨links, here, step :: rest⟩ ⟨links, here, rest⟩
  | up {links : Nat} {here : Location} {rest : List Bytes} (inside : HasDirectory top here) :
    Advances top ⟨links, here, [Path.dot, Path.dot] :: rest⟩ ⟨links, here.dropLast, rest⟩
  | down {links : Nat} {here : Location} {name : Bytes} {rest : List Bytes}
    {entries : List (Bytes × Node)} (offer : Offers top here name (some (.directory entries))) :
    Advances top ⟨links, here, name :: rest⟩ ⟨links, here ++ [name], rest⟩
  | follow {links : Nat} {here : Location} {name target : Bytes} {rest : List Bytes}
    (offer : Offers top here name (some (.link target))) :
    Advances top ⟨links + 1, here, name :: rest⟩
      ⟨links, if (Path.mk target).isAbsolute then [] else here, Path.segmentsOf target ++ rest⟩

/-- The ends of a walk. What is no directory blocks it unless no step is ahead, and it may begin
outside, where no directory is. -/
inductive Ends (top : Node) : Position → Except Fault Node → Prop
  | inside {links : Nat} {here : Location} {entries : List (Bytes × Node)}
    (h : top.at? here = some (.directory entries)) :
    Ends top ⟨links, here, []⟩ (.ok (.directory entries))
  | leaf {links : Nat} {here : Location} {name : Bytes} {node : Node}
    (offer : Offers top here name (some node)) (isLeaf : node.isLeaf = true) :
    Ends top ⟨links, here, [name]⟩ (.ok node)
  | absent {links : Nat} {here : Location} {name : Bytes} {rest : List Bytes}
    (offer : Offers top here name none) :
    Ends top ⟨links, here, name :: rest⟩ (.error .notFound)
  | blocked {links : Nat} {here : Location} {name : Bytes} {rest : List Bytes} {node : Node}
    (offer : Offers top here name (some node)) (isLeaf : node.isLeaf = true) (more : rest ≠ []) :
    Ends top ⟨links, here, name :: rest⟩ (.error .notADirectory)
  | outside {links : Nat} {here : Location} {step : Bytes} {rest : List Bytes}
    (h : ¬ HasDirectory top here) :
    Ends top ⟨links, here, step :: rest⟩ (.error .notADirectory)
  | long {links : Nat} {here : Location} {name : Bytes} {rest : List Bytes}
    (inside : HasDirectory top here) (h : nameLimit < name.length) :
    Ends top ⟨links, here, name :: rest⟩ (.error .nameTooLong)
  | exhausted {here : Location} {name target : Bytes} {rest : List Bytes}
    (offer : Offers top here name (some (.link target))) :
    Ends top ⟨0, here, name :: rest⟩ (.error .tooManyLinks)

def Place.node (place : Place) : Except Fault Node :=
  match place.node? with
  | some node => .ok node
  | none => .error .notFound

def Position.found (top : Node) (position : Position) : Except Fault Node :=
  (walk top true position.links position.here position.steps).bind Place.node

variable {top : Node} {position next : Position} {result : Except Fault Node}

theorem IsLookup.not_long {step : Bytes} (lookup : IsLookup step) : ¬ nameLimit < step.length :=
  Nat.not_lt.mpr lookup.short

theorem moves_of_long {step : Bytes} (long : nameLimit < step.length) :
    ¬ (step = [] ∨ step = [Path.dot]) ∧ step ≠ [Path.dot, Path.dot] := by
  unfold nameLimit at long
  constructor
  · rintro (rfl | rfl) <;> simp at long
  · rintro rfl
    simp at long

/-! One step. -/

theorem found_entry {here : Location} {name : Bytes} {entries : List (Bytes × Node)}
    (lookup : IsLookup name) (inside : top.at? here = some (.directory entries)) (links : Nat)
    (rest : List Bytes) :
    Position.found top ⟨links, here, name :: rest⟩ =
      match (Node.directory entries).child? name, links with
      | none, _ => .error .notFound
      | some (.directory _), links => Position.found top ⟨links, here ++ [name], rest⟩
      | some (.link _), 0 => .error .tooManyLinks
      | some (.link target), links + 1 => Position.found top
          ⟨links, if (Path.mk target).isAbsolute then [] else here,
            Path.segmentsOf target ++ rest⟩
      | some node, _ => if rest = [] then .ok node else .error .notADirectory := by
  unfold Position.found
  rw [walk]
  simp only [inside, if_neg lookup.moves, if_neg lookup.ne_dots, if_neg lookup.not_long]
  rcases (Node.directory entries).child? name with - | (- | - | - | target | -)
  case some.directory => rfl
  case some.link => cases links <;> simp [Except.bind]
  all_goals cases rest <;> rfl

theorem Advances.found_eq (h : Advances top position next) :
    position.found top = next.found top := by
  cases h with
  | stay inside still =>
    obtain ⟨entries, inside⟩ := inside
    unfold Position.found
    rw [walk]
    simp only [inside, if_pos still]
  | up inside =>
    obtain ⟨entries, inside⟩ := inside
    unfold Position.found
    rw [walk]
    simp [inside]
  | down offer =>
    obtain ⟨lookup, entries, inside, child⟩ := offer
    simp only [found_entry lookup inside, child]
  | follow offer =>
    obtain ⟨lookup, entries, inside, child⟩ := offer
    simp only [found_entry lookup inside, child]

theorem found_leaf {links : Nat} {here : Location} {name : Bytes} {node : Node}
    (offer : Offers top here name (some node)) (isLeaf : node.isLeaf = true) (rest : List Bytes) :
    Position.found top ⟨links, here, name :: rest⟩ =
      if rest = [] then .ok node else .error .notADirectory := by
  obtain ⟨lookup, entries, inside, child⟩ := offer
  rw [found_entry lookup inside, child]
  cases node with
  | directory | link => cases isLeaf
  | file | program | device => rfl

theorem Ends.found_eq (h : Ends top position result) : position.found top = result := by
  cases h with
  | inside h =>
    unfold Position.found
    rw [walk, h]
    rfl
  | leaf offer isLeaf => rw [found_leaf offer isLeaf, if_pos rfl]
  | absent offer =>
    obtain ⟨lookup, entries, inside, child⟩ := offer
    simp only [found_entry lookup inside, child]
  | blocked offer isLeaf more => rw [found_leaf offer isLeaf, if_neg more]
  | @outside links here step rest h =>
    unfold Position.found
    rw [walk]
    split
    · rename_i entries inside
      exact absurd ⟨entries, inside⟩ h
    · rfl
  | long inside h =>
    obtain ⟨entries, inside⟩ := inside
    obtain ⟨moves, notUp⟩ := moves_of_long h
    unfold Position.found
    rw [walk]
    simp only [inside, if_neg moves, if_neg notUp, if_pos h]
    rfl
  | exhausted offer =>
    obtain ⟨lookup, entries, inside, child⟩ := offer
    simp only [found_entry lookup inside, child]

/-! A whole walk. -/

/-- With no step ahead, a walk is in a directory. -/
def Position.OnTrack (top : Node) (position : Position) : Prop :=
  position.steps = [] → HasDirectory top position.here

theorem Node.at?_concat (here : Location) (name : Bytes) (node : Node) :
    node.at? (here ++ [name]) = (node.at? here).bind (child? name) := by
  induction here generalizing node with
  | nil => simp [at?]
  | cons first rest ih => cases h : node.child? first <;> simp [at?, h, ih]

theorem Node.isDirectory_of_child? {name : Bytes} {node child : Node}
    (h : node.child? name = some child) : ∃ entries, node = .directory entries := by
  cases node with
  | directory entries => exact ⟨entries, rfl⟩
  | file | program | link | device => cases h

theorem HasDirectory.dropLast {here : Location} (h : HasDirectory top here) :
    HasDirectory top here.dropLast := by
  rcases here.eq_nil_or_concat' with rfl | ⟨above, name, rfl⟩
  · exact h
  · obtain ⟨entries, inside⟩ := h
    rw [Node.at?_concat] at inside
    obtain ⟨node, there, child⟩ := Option.bind_eq_some_iff.mp inside
    obtain ⟨others, rfl⟩ := Node.isDirectory_of_child? child
    rw [List.dropLast_concat]
    exact ⟨others, there⟩

theorem Offers.hasDirectory {here : Location} {name : Bytes} {entries : List (Bytes × Node)}
    (offer : Offers top here name (some (.directory entries))) :
    HasDirectory top (here ++ [name]) := by
  obtain ⟨-, others, inside, child⟩ := offer
  refine ⟨entries, ?_⟩
  rw [Node.at?_concat, inside]
  exact child

theorem Advances.onTrack (h : Advances top position next) : next.OnTrack top := by
  cases h with
  | stay inside => exact fun _ => inside
  | up inside => exact fun _ => inside.dropLast
  | down offer => exact fun _ => offer.hasDirectory
  | @follow links here name target rest offer =>
    intro noSteps
    exact absurd (List.append_eq_nil_iff.mp noSteps).1 (Path.segmentsOf_ne_nil target)

theorem advances_or_ends_of_offer {here : Location} {name : Bytes} {entry : Option Node}
    (offer : Offers top here name entry) (links : Nat) (rest : List Bytes) :
    (∃ next, Advances top ⟨links, here, name :: rest⟩ next) ∨
      ∃ result, Ends top ⟨links, here, name :: rest⟩ result := by
  have ends_of_leaf {node : Node} (offer : Offers top here name (some node))
      (isLeaf : node.isLeaf = true) : ∃ result, Ends top ⟨links, here, name :: rest⟩ result := by
    cases rest with
    | nil => exact ⟨_, .leaf offer isLeaf⟩
    | cons => exact ⟨_, .blocked offer isLeaf (List.cons_ne_nil _ _)⟩
  cases entry with
  | none => exact .inr ⟨_, .absent offer⟩
  | some node =>
    cases node with
    | directory => exact .inl ⟨_, .down offer⟩
    | link =>
      cases links with
      | zero => exact .inr ⟨_, .exhausted offer⟩
      | succ => exact .inl ⟨_, .follow offer⟩
    | file | program | device => exact .inr (ends_of_leaf offer rfl)

/-- A walk that is on track goes on or has come to its end. -/
theorem advances_or_ends (onTrack : position.OnTrack top) :
    (∃ next, Advances top position next) ∨ ∃ result, Ends top position result := by
  obtain ⟨links, here, steps⟩ := position
  cases steps with
  | nil =>
    obtain ⟨entries, inside⟩ := onTrack rfl
    exact .inr ⟨_, .inside inside⟩
  | cons step rest =>
    by_cases inside : HasDirectory top here
    case neg => exact .inr ⟨_, .outside inside⟩
    by_cases still : step = [] ∨ step = [Path.dot]
    case pos => exact .inl ⟨_, .stay inside still⟩
    by_cases dots : step = [Path.dot, Path.dot]
    case pos =>
      subst dots
      exact .inl ⟨_, .up inside⟩
    by_cases long : nameLimit < step.length
    case pos => exact .inr ⟨_, .long inside long⟩
    -- What is left is a name that may be looked up.
    obtain ⟨entries, inside⟩ := inside
    have offer : Offers top here step ((Node.directory entries).child? step) :=
      ⟨⟨still, dots, Nat.not_lt.mp long⟩, entries, inside, rfl⟩
    exact advances_or_ends_of_offer offer links rest

/-- A step follows a link or leaves fewer steps ahead. -/
theorem Advances.shorter (h : Advances top position next) :
    next.links < position.links ∨
      next.links = position.links ∧ next.steps.length < position.steps.length := by
  cases h with
  | stay | up | down => exact .inr ⟨rfl, Nat.lt_succ_self _⟩
  | follow => exact .inl (Nat.lt_succ_self _)

/-- Every walk that is on track has an end. A link may lead to any number of steps, so links count
before steps. -/
theorem exists_end (position : Position) (onTrack : position.OnTrack top) :
    ∃ last result, Relation.ReflTransGen (Advances top) position last ∧ Ends top last result := by
  rcases advances_or_ends onTrack with ⟨next, step⟩ | ⟨result, ends⟩
  · have shorter := step.shorter
    obtain ⟨last, result, run, ends⟩ := exists_end next step.onTrack
    exact ⟨last, result, run.head step, ends⟩
  · exact ⟨position, result, .refl, ends⟩
termination_by (position.links, position.steps.length)
decreasing_by simpa [Prod.lex_def] using shorter

/-- A walk ends with what is found, and with nothing else. -/
theorem found_eq_iff (onTrack : position.OnTrack top) :
    position.found top = result ↔
      ∃ last, Relation.ReflTransGen (Advances top) position last ∧ Ends top last result := by
  have found_of_run {last : Position} {result : Except Fault Node}
      (run : Relation.ReflTransGen (Advances top) position last) (ends : Ends top last result) :
      position.found top = result := by
    induction run using Relation.ReflTransGen.head_induction_on with
    | refl => exact ends.found_eq
    | head step _ ih => exact step.found_eq.trans (ih step.onTrack)
  constructor
  · rintro rfl
    obtain ⟨last, result, run, ends⟩ := exists_end position onTrack
    rw [found_of_run run ends]
    exact ⟨last, run, ends⟩
  · rintro ⟨last, run, ends⟩
    exact found_of_run run ends

/-! The walk of a path. -/

def start (files : Files) (path : Path) : Position :=
  ⟨linkLimit, if path.isAbsolute then [] else files.here, Path.segmentsOf path.bytes⟩

/-- What a path comes to. It cannot be looked up as it is spelled, or a walk along it ends so. -/
inductive Resolves (files : Files) (path : Path) : Except Fault Node → Prop
  | misspelled {fault : Fault} (h : spellingFault? path = some fault) :
    Resolves files path (.error fault)
  | walked {last : Position} {result : Except Fault Node} (spelled : spellingFault? path = none)
    (run : Relation.ReflTransGen (Advances files.top) (files.start path) last)
    (ends : Ends files.top last result) : Resolves files path result

/-- A path is empty, or leads to a directory that has nothing by the next name. -/
inductive IsAbsent (files : Files) (path : Path) : Prop
  | empty (h : path.bytes = [])
  | entry {links : Nat} {here : Location} {name : Bytes} {rest : List Bytes}
    (spelled : spellingFault? path = none)
    (run : Relation.ReflTransGen (Advances files.top) (files.start path)
      ⟨links, here, name :: rest⟩)
    (offer : Offers files.top here name none)

variable {files : Files} {path : Path}

theorem start_onTrack (files : Files) (path : Path) : (files.start path).OnTrack files.top :=
  fun noSteps => absurd noSteps (Path.segmentsOf_ne_nil path.bytes)

theorem find_eq_of_spelled (spelled : spellingFault? path = none) :
    files.find path = (files.start path).found files.top := by
  unfold find place Position.found start
  rw [spelled]
  cases walk files.top true linkLimit (if path.isAbsolute then [] else files.here)
    (Path.segmentsOf path.bytes) with
  | error fault => rfl
  | ok place => cases h : place.node? <;> simp [Except.bind, bind, Place.node, h]; rfl

theorem find_eq_of_misspelled {fault : Fault} (h : spellingFault? path = some fault) :
    files.find path = .error fault := by
  unfold find place
  rw [h]
  rfl

theorem find_eq_iff : files.find path = result ↔ files.Resolves path result := by
  cases spelling : spellingFault? path with
  | some fault =>
    rw [find_eq_of_misspelled spelling]
    constructor
    · rintro rfl
      exact .misspelled spelling
    · rintro (h | ⟨spelled, -, -⟩)
      · rw [Option.some.inj (spelling.symm.trans h)]
      · cases spelling.symm.trans spelled
  | none =>
    rw [find_eq_of_spelled spelling, found_eq_iff (start_onTrack files path)]
    constructor
    · rintro ⟨last, run, ends⟩
      exact .walked spelling run ends
    · rintro (h | ⟨-, run, ends⟩)
      · cases spelling.symm.trans h
      · exact ⟨_, run, ends⟩

theorem spellingFault?_eq_notFound_iff : spellingFault? path = some .notFound ↔ path.bytes = [] := by
  unfold spellingFault?
  split_ifs with nul empty long
  · have nonempty : path.bytes ≠ [] := List.ne_nil_of_mem (List.contains_iff_mem.mp nul)
    simp [nonempty]
  all_goals simp [empty]

theorem resolves_notFound_iff : files.Resolves path (.error .notFound) ↔ files.IsAbsent path := by
  constructor
  · rintro (h | ⟨spelled, run, ⟨⟩⟩)
    · exact .empty (spellingFault?_eq_notFound_iff.mp h)
    · rename_i offer
      exact .entry spelled run offer
  · rintro (h | ⟨spelled, run, offer⟩)
    · exact .misspelled (spellingFault?_eq_notFound_iff.mpr h)
    · exact .walked spelled run (.absent offer)

end FontSubset.Files
