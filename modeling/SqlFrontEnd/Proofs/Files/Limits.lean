import Mathlib
import SqlFrontEnd.Files.Tree
import SqlFrontEnd.Proofs.Files.Regular

/-!
# What a file tree refuses

A path that leads nowhere is an ordinary answer of a file tree, whichever way it fails.  Two
obstacles are told apart, since whoever asks for a file must expect them: a name or a path beyond
the limits, and a locked directory on the way.  Neither depends on the path alone.  A name is
measured when it is looked up, so one that is too long does no harm behind a name that is not there.

* `Path.Fits` — a path within both limits.
* `FileTree.walk`, `FileTree.TooLong`, `FileTree.Barred` — following names, and the paths on which
  an obstacle is met.
* `walk_eq_error_iff` — a walk fails at the first name that cannot be followed.
* **`refuses_iff`** — a tree refuses to answer on those paths and on no others.
* `Path.Fits.not_refuses` — a path within the limits is answered, if no directory is locked.
* `Path.ofString_name`, `FileTree.tooLong_name` — the path of a name alone, and of a long one.
-/

namespace SqlFrontEnd

/-- A path within the limits: neither the whole nor any of its names is too long. -/
structure Path.Fits (path : Path) : Prop where
  path_le : (Text.Utf8.encode path.toString.toList).length ≤ FileTree.maxPath
  name_le : ∀ name ∈ path.names, (Text.Utf8.encode name.toList).length ≤ FileTree.maxName

namespace FileTree

variable {tree : FileTree} {path : Path} {location : List String} {error : FileError}

/-- Follows names from a location on. -/
def walk (tree : FileTree) (location names : List String) : Except FileError (List String) :=
  names.foldlM tree.step location

/-- A name that is too long, at a location where it would be looked up. -/
def Oversized (tree : FileTree) (location : List String) (name : String) : Prop :=
  tree.entry? location = some .directory ∧ maxName < (Text.Utf8.encode name.toList).length

/-- The names of a path lead to a location, where one more is to be followed. -/
def Passes (tree : FileTree) (path : Path) (location : List String) (name : String) : Prop :=
  ∃ before after, components path = before ++ name :: after ∧
    tree.walk (tree.origin path) before = .ok location

/-- A path on which a limit is met: it is too long itself, or passes a name that is. -/
def TooLong (tree : FileTree) (path : Path) : Prop :=
  maxPath < (Text.Utf8.encode path.toString.toList).length ∨
    ∃ location name, tree.Passes path location name ∧ tree.Oversized location name

/-- A path that a locked directory bars. -/
def Barred (tree : FileTree) (path : Path) : Prop :=
  (Text.Utf8.encode path.toString.toList).length ≤ maxPath ∧
    ∃ location name, tree.Passes path location name ∧
      tree.entry? location = some .lockedDirectory

/-! ## Walks -/

lemma walk_cons (name : String) (names : List String) :
    tree.walk location (name :: names) = tree.step location name >>= (tree.walk · names) := by
  rw [walk, List.foldlM_cons]
  rfl

/-- **A walk fails** at the first name that cannot be followed. -/
lemma walk_eq_error_iff {names : List String} :
    tree.walk location names = .error error ↔
      ∃ before name after found, names = before ++ name :: after ∧
        tree.walk location before = .ok found ∧ tree.step found name = .error error := by
  induction names generalizing location with
  | nil =>
      constructor
      · intro h
        cases h
      · rintro ⟨before, name, after, found, heq, -⟩
        simp at heq
  | cons first names ih =>
      rw [walk_cons]
      cases hstep : tree.step location first with
      | error e =>
          constructor
          · intro h
            cases h
            exact ⟨[], first, names, location, rfl, rfl, hstep⟩
          · rintro ⟨_ | ⟨_, before⟩, name, after, found, heq, hwalk, hname⟩
            · obtain ⟨rfl, rfl⟩ := List.cons.inj heq
              cases hwalk
              rw [← hname, hstep]
              rfl
            · obtain ⟨rfl, rfl⟩ := List.cons.inj heq
              rw [walk_cons, hstep] at hwalk
              cases hwalk
      | ok next =>
          rw [show (Except.ok next >>= (tree.walk · names)) = tree.walk next names from rfl, ih]
          constructor
          · rintro ⟨before, name, after, found, rfl, hwalk, hname⟩
            refine ⟨first :: before, name, after, found, rfl, ?_, hname⟩
            rw [walk_cons, hstep]
            exact hwalk
          · rintro ⟨_ | ⟨_, before⟩, name, after, found, heq, hwalk, hname⟩
            · obtain ⟨rfl, rfl⟩ := List.cons.inj heq
              cases hwalk
              rw [hstep] at hname
              cases hname
            · obtain ⟨rfl, rfl⟩ := List.cons.inj heq
              rw [walk_cons, hstep] at hwalk
              exact ⟨before, name, after, found, rfl, hwalk, hname⟩

/-- A name is answered as too long where it is looked up and is, and with a lack of permission in a
locked directory.  Every other error means that there is nothing of that name. -/
lemma step_eq_error_iff {name : String} (h : error.leadsNowhere = false) :
    tree.step location name = .error error ↔
      error = .nameTooLong ∧ tree.Oversized location name ∨
        error = .permissionDenied ∧ tree.entry? location = some .lockedDirectory := by
  have hnowhere {other : FileError} (hother : other.leadsNowhere = true) : other ≠ error := by
    rintro rfl
    exact Bool.noConfusion (h.symm.trans hother)
  have hmissing : FileError.notFound ≠ error := hnowhere (by decide)
  have hleaf : FileError.notADirectory ≠ error := hnowhere (by decide)
  have hpoint : (Text.Utf8.encode ".".toList).length ≤ maxName := by decide
  have hup : (Text.Utf8.encode "..".toList).length ≤ maxName := by decide
  unfold step Oversized
  cases tree.entry? location with
  | none => simp [hmissing]
  | some entry =>
      cases entry with
      | file content => simp [hleaf]
      | lockedFile => simp [hleaf]
      | lockedDirectory => simp [eq_comm]
      | directory =>
          by_cases hname : name = "." ∨ name = ".."
          · obtain rfl | rfl := hname
            · simpa using fun _ : error = .nameTooLong => hpoint
            · simpa using fun _ : error = .nameTooLong => hup
          · obtain ⟨hname, hname'⟩ := not_or.1 hname
            simp only [if_neg hname, if_neg hname', true_and]
            split
            · next hlong => simp [hlong, eq_comm]
            · next hlong => split <;> simp [hlong, hmissing]

/-! ## Refusals -/

/-- What a tree tells of a path is an error where resolving it is. -/
lemma regular_eq_error_iff : tree.system.regular path = .error error ↔
    tree.resolve path = .error error := by
  unfold FileTree.system
  dsimp only
  cases tree.resolve path with
  | error e => simp
  | ok entry => cases entry <;> simp

/-- Resolving a path meets an obstacle on the way, or the path leads nowhere. -/
lemma resolve_eq_error_iff (h : error.leadsNowhere = false) :
    tree.resolve path = .error error ↔
      error = .nameTooLong ∧ tree.TooLong path ∨ error = .permissionDenied ∧ tree.Barred path := by
  have hwalk : (components path).foldlM tree.step (tree.origin path) =
      tree.walk (tree.origin path) (components path) := rfl
  have hfails : tree.walk (tree.origin path) (components path) = .error error ↔
      ∃ location name, tree.Passes path location name ∧ tree.step location name = .error error := by
    rw [walk_eq_error_iff]
    constructor
    · rintro ⟨before, name, after, location, hnames, hbefore, hstep⟩
      exact ⟨location, name, ⟨before, after, hnames, hbefore⟩, hstep⟩
    · rintro ⟨location, name, ⟨before, after, hnames, hbefore⟩, hstep⟩
      exact ⟨before, name, after, location, hnames, hbefore, hstep⟩
  unfold resolve TooLong Barred
  rw [hwalk]
  split
  · next hlong => simp [hlong, Nat.not_le.2 hlong, eq_comm]
  · next hlong =>
    have hobstacle : tree.resolve path = .error error ↔
        tree.walk (tree.origin path) (components path) = .error error := by
      rw [resolve, if_neg hlong, hwalk]
      cases tree.walk (tree.origin path) (components path) with
      | error e => simp
      | ok location =>
          have hmissing : FileError.notFound ≠ error := by
            rintro rfl
            exact Bool.noConfusion h
          dsimp only
          cases tree.entry? location <;> simp [hmissing]
    rw [resolve, if_neg hlong, hwalk] at hobstacle
    rw [hobstacle, hfails]
    simp only [step_eq_error_iff h, hlong, Nat.not_lt.1 hlong, false_or, true_and]
    constructor
    · rintro ⟨location, name, hpasses, ⟨rfl, hname⟩ | ⟨rfl, hentry⟩⟩
      · exact .inl ⟨rfl, location, name, hpasses, hname⟩
      · exact .inr ⟨rfl, location, name, hpasses, hentry⟩
    · rintro (⟨rfl, location, name, hpasses, hname⟩ | ⟨rfl, location, name, hpasses, hentry⟩)
      · exact ⟨location, name, hpasses, .inl ⟨rfl, hname⟩⟩
      · exact ⟨location, name, hpasses, .inr ⟨rfl, hentry⟩⟩

/-- **A tree refuses to answer** on paths that are too long and on paths that a locked directory
bars, and on no others. -/
theorem refuses_iff : tree.system.Refuses path error ↔ path.hasNull = false ∧
    (error = .nameTooLong ∧ tree.TooLong path ∨ error = .permissionDenied ∧ tree.Barred path) := by
  constructor
  · rintro ⟨hnull, hregular, hnowhere⟩
    exact ⟨hnull, (resolve_eq_error_iff hnowhere).1 (regular_eq_error_iff.1 hregular)⟩
  · rintro ⟨hnull, hobstacle⟩
    have hnowhere : error.leadsNowhere = false := by
      obtain ⟨rfl, -⟩ | ⟨rfl, -⟩ := hobstacle <;> decide
    exact ⟨hnull, regular_eq_error_iff.2 ((resolve_eq_error_iff hnowhere).2 hobstacle), hnowhere⟩

end FileTree

/-! ## Limits -/

/-- A path within the limits meets none. -/
lemma Path.Fits.not_tooLong {path : Path} (h : path.Fits) (tree : FileTree) :
    ¬ tree.TooLong path := by
  rintro (hpath | ⟨location, name, ⟨before, after, hnames, -⟩, -, hname⟩)
  · exact absurd h.path_le (Nat.not_le.2 hpath)
  · refine absurd ?_ (Nat.not_le.2 hname)
    have hmem : name ∈ FileTree.components path := by simp [hnames]
    unfold FileTree.components at hmem
    split at hmem
    · obtain rfl := List.mem_singleton.1 hmem
      decide
    · exact h.name_le name hmem

/-- **Within the limits a tree answers**, if none of its directories is locked. -/
theorem Path.Fits.not_refuses {path : Path} (h : path.Fits) {tree : FileTree}
    (hopen : ∀ location, tree.entry? location ≠ some .lockedDirectory) (error : FileError) :
    ¬ tree.system.Refuses path error := by
  rw [FileTree.refuses_iff]
  rintro ⟨-, ⟨-, htooLong⟩ | ⟨-, -, location, -, -, hlocked⟩⟩
  · exact h.not_tooLong tree htooLong
  · exact hopen location hlocked

/-- A name is the path of itself, unless it stands for a way through directories. -/
lemma Path.ofString_name {name : String} (hslash : '/' ∉ name.toList) (hne : name.toList ≠ [])
    (hpoint : name.toList ≠ ['.']) : Path.ofString name = ⟨"", [name]⟩ := by
  have hroot : name.toList.takeWhile (· == '/') = [] := by
    cases hname : name.toList with
    | nil => rfl
    | cons c s =>
        have hc : c ≠ '/' := by
          rintro rfl
          exact hslash (hname ▸ List.mem_cons_self)
        simp [hc]
  rw [Path.ofString, Text.splitAt_of_not_mem hslash, Path.rootOf, hroot]
  simp [hne, hpoint]

/-- The path of a name that is too long is one of those on which a limit is met. -/
lemma FileTree.tooLong_name {tree : FileTree} {name : String}
    (hdirectory : tree.entry? tree.directory = some .directory) (hslash : '/' ∉ name.toList)
    (hlong : maxName < (Text.Utf8.encode name.toList).length) :
    Path.ofString name = ⟨"", [name]⟩ ∧ tree.TooLong (Path.ofString name) := by
  have hne : name.toList ≠ [] := fun h => absurd (h ▸ hlong) (by decide)
  have hpoint : name.toList ≠ ['.'] := fun h => absurd (h ▸ hlong) (by decide)
  rw [Path.ofString_name hslash hne hpoint]
  exact ⟨rfl, .inr ⟨tree.directory, name, ⟨[], [], rfl, rfl⟩, hdirectory, hlong⟩⟩

end SqlFrontEnd
