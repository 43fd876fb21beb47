import Bitslice.File.Tree
import Std.Data.TreeMap.Lemmas

/-!
# Files are read back

A file that can be created holds afterwards what is stored in it, and opening
its path again gives these bytes (`FileTree.openFile_storeBytes`). Which files
can be created does not depend on what they stand on
(`FileTree.createFile_standingOn`); only what they take does.
-/

namespace Bitslice.FileTree

variable {tree : FileTree} {names : List String}

/-- An entry that is put into a tree is found there, and no other is changed. -/
theorem entry?_insert (below : names ≠ []) (entry : Entry) (other : List String) :
    FileTree.entry? (tree.insert names entry) other =
      if other = names then some entry else tree.entry? other := by
  unfold entry? insert
  by_cases root : other = []
  · subst root
    rw [if_pos rfl, if_pos rfl, if_neg (Ne.symm below)]
  · rw [if_neg root, if_neg root, Std.TreeMap.get?_eq_getElem?, Std.TreeMap.getElem?_insert]
    by_cases same : other = names
    · subst same
      simp
    · have apart : compare names other ≠ .eq :=
        fun equal => same (Std.LawfulEqOrd.eq_of_compare equal).symm
      rw [if_neg apart, if_neg same]
      rfl

/-- An entry that is removed is no longer found, and no other is changed. -/
theorem entry?_erase (below : names ≠ []) (other : List String) :
    FileTree.entry? { tree with entries := tree.entries.erase names } other =
      if other = names then none else tree.entry? other := by
  unfold entry?
  by_cases root : other = []
  · subst root
    rw [if_pos rfl, if_pos rfl, if_neg (Ne.symm below)]
  · rw [if_neg root, if_neg root, Std.TreeMap.get?_eq_getElem?, Std.TreeMap.getElem?_erase]
    by_cases same : other = names
    · subst same
      simp
    · have apart : compare names other ≠ .eq :=
        fun equal => same (Std.LawfulEqOrd.eq_of_compare equal).symm
      rw [if_neg apart, if_neg same]
      rfl

theorem names_ne_nil (missing : tree.entry? names ≠ some .directory) : names ≠ [] := by
  rintro rfl
  exact missing rfl

/-- A tree in which every directory of an earlier one still stands, and with the same working
directory. Other entries may have come, gone or changed. -/
structure KeepsDirectories (earlier later : FileTree) : Prop where
  working : later.working = earlier.working
  directories : ∀ names, earlier.entry? names = some .directory →
    later.entry? names = some .directory

namespace KeepsDirectories

variable {earlier later : FileTree} (keeps : earlier.KeepsDirectories later)

include keeps

/-- Steps through directories still lead where they led. -/
theorem enter {directory next : List String} {step : String}
    (entered : earlier.enter directory step = .ok next) :
    later.enter directory step = .ok next := by
  unfold FileTree.enter at entered ⊢
  split
  · next here => rwa [if_pos here] at entered
  · next here =>
    rw [if_neg here] at entered
    split
    · next up => rwa [if_pos up] at entered
    · next up =>
      rw [if_neg up] at entered
      split at entered
      · cases entered
      · cases entered
      · next found =>
        rw [keeps.directories _ found]
        exact entered

theorem walk {directory last : List String} {steps : List String}
    (walked : earlier.walk directory steps = .ok last) :
    later.walk directory steps = .ok last := by
  induction steps generalizing directory with
  | nil => exact walked
  | cons step others ih =>
    rw [FileTree.walk] at walked ⊢
    match entered : earlier.enter directory step with
    | .error cause =>
      rw [entered] at walked
      cases walked
    | .ok next =>
      rw [entered] at walked
      rw [keeps.enter entered]
      exact ih walked

theorem locate {path : String} {found : List String} (located : earlier.locate path = .ok found) :
    later.locate path = .ok found := by
  unfold FileTree.locate at located ⊢
  simp only at located ⊢
  by_cases empty : path = ""
  · rw [if_pos empty] at located
    cases located
  · rw [if_neg empty] at located ⊢
    rw [keeps.working]
    match last : (Path.steps path).getLast? with
    | none =>
      rw [last] at located
      exact located
    | some step =>
      rw [last] at located
      simp only at located ⊢
      generalize (if Path.isAbsolute path then [] else earlier.working) = start at located ⊢
      match walked : earlier.walk start (Path.steps path).dropLast with
      | .error cause =>
        rw [walked] at located
        cases located
      | .ok directory =>
        rw [walked] at located
        rw [keeps.walk walked]
        exact located

theorem trans {last : FileTree} (after : later.KeepsDirectories last) :
    earlier.KeepsDirectories last where
  working := after.working.trans keeps.working
  directories names found := after.directories names (keeps.directories names found)

end KeepsDirectories

/-- What is put where no directory stands does not get into the way of any step. -/
theorem keepsDirectories_insert (missing : tree.entry? names ≠ some .directory) (entry : Entry) :
    tree.KeepsDirectories (tree.insert names entry) where
  working := rfl
  directories := by
    intro other found
    have apart : other ≠ names := by
      rintro rfl
      exact missing found
    rw [entry?_insert (names_ne_nil missing), if_neg apart, found]

section Creating

variable {created : FileTree} {path : String} (made : tree.createFile path = .ok created)

include made

/-- A file that is made stands where its path leads, which was not a directory. -/
theorem exists_of_createFile :
    ∃ names, tree.locate path = .ok names ∧ tree.entry? names ≠ some .directory ∧
      ¬Path.namesDirectory path ∧ created = tree.insert names (.file []) ∧
      created.locate path = .ok names := by
  unfold createFile at made
  match located : tree.locate path with
  | .error cause =>
    rw [located] at made
    cases made
  | .ok names =>
    rw [located] at made
    simp only at made
    split at made
    · cases made
    · next missing =>
      have absent : tree.entry? names ≠ some .directory := missing
      split at made
      · cases made
      · next isFile =>
        obtain rfl := Except.ok.inj made
        exact ⟨names, rfl, absent, isFile, rfl,
          (keepsDirectories_insert absent _).locate located⟩

/-- What is stored in a file that has just been made is read back from its path. -/
theorem openFile_storeBytes (contents : Bytes) :
    (created.storeBytes path contents).openFile path =
      .ok ⟨.ofBytes contents, UInt64.ofNat contents.length⟩ := by
  obtain ⟨names, -, absent, isFile, rfl, located⟩ := exists_of_createFile made
  have below := names_ne_nil absent
  have emptyFile : FileTree.entry? (tree.insert names (.file [])) names = some (.file []) := by
    rw [entry?_insert below, if_pos rfl]
  have stored : (tree.insert names (.file [])).storeBytes path contents =
      (tree.insert names (.file [])).insert names (.file contents) := by
    rw [storeBytes, located]
    simp only [emptyFile]
  have noDirectory :
      FileTree.entry? (tree.insert names (.file [])) names ≠ some .directory := by
    rw [emptyFile]
    simp
  rw [stored, openFile, (keepsDirectories_insert noDirectory _).locate located]
  simp only [entry?_insert below, if_pos]
  rw [if_neg isFile]

end Creating

section Standing

/-- The tree with all its files on one device. -/
def standingOn (tree : FileTree) (device : Device) : FileTree :=
  { tree with device := fun _ => device }

variable {path : String} {device : Device}

theorem walk_standingOn (directory steps : List String) :
    (tree.standingOn device).walk directory steps = tree.walk directory steps := by
  induction steps generalizing directory with
  | nil => rfl
  | cons step later ih =>
    have entered : (tree.standingOn device).enter directory step = tree.enter directory step := rfl
    simp only [walk, entered, ih]

/-- Where a path leads does not depend on what files stand on. -/
theorem locate_standingOn : (tree.standingOn device).locate path = tree.locate path := by
  unfold locate
  simp only [walk_standingOn]
  rfl

theorem openFile_standingOn : (tree.standingOn device).openFile path = tree.openFile path := by
  rw [openFile, locate_standingOn]
  rfl

theorem createFile_standingOn {created : FileTree} (made : tree.createFile path = .ok created) :
    (tree.standingOn device).createFile path = .ok (created.standingOn device) ∧
      (created.standingOn device).deviceAt path = device := by
  obtain ⟨names, located, absent, isFile, rfl, locatedAgain⟩ := exists_of_createFile made
  constructor
  · have found : FileTree.entry? (tree.standingOn device) names = tree.entry? names := rfl
    rw [createFile, locate_standingOn, located]
    simp only [found, if_neg isFile]
    rfl
  · rw [deviceAt, locate_standingOn, locatedAgain]
    rfl

/-- Where no file is ever out of room, neither is that of a path. -/
theorem deviceAt_of_unlimited (limitless : ∀ names, tree.device names = .unlimited)
    (path : String) : tree.deviceAt path = .unlimited := by
  unfold deviceAt
  split
  · rfl
  · exact limitless _

end Standing

/-- A file of a single name can be made in an empty working directory. -/
theorem createFile_empty {working path name : String} (steps : Path.steps path = [name])
    (relative : Path.isAbsolute path = false) (unended : Path.namesDirectory path = false)
    (given : path ≠ "") (moves : name ≠ "." ∧ name ≠ "..") :
    (empty working).createFile path =
      .ok ((empty working).insert [working, name] (.file [])) := by
  have located : (empty working).locate path = .ok [working, name] := by
    simp [locate, steps, relative, given, moves, walk, empty]
  have missing : FileTree.entry? (empty working) [working, name] = none := by
    simp [ entry?, empty, Std.TreeMap.get?_eq_getElem?]
  rw [createFile, located]
  simp [missing, unended]

section ShortName

theorem steps_t : Path.steps "t" = ["t"] := by
  have more : ¬String.Pos.Raw.atEnd "t" 0 = true := by decide
  have apart : ¬(String.Pos.Raw.get "t" 0 == String.Pos.Raw.get "/" 0) = true := by decide
  have last : String.Pos.Raw.atEnd "t" (String.Pos.Raw.next "t" (String.Pos.Raw.unoffsetBy 0 0)) =
      true := by decide
  rw [Path.steps, String.splitOn, if_neg (by decide), String.splitOnAux, if_neg more,
    if_neg apart, String.splitOnAux, if_pos last]
  decide

theorem isAbsolute_t : Path.isAbsolute "t" = false := by
  rw [Path.isAbsolute, String.startsWith_string_eq_false_iff]
  decide

theorem namesDirectory_t : Path.namesDirectory "t" = false := by
  rw [Path.namesDirectory, String.endsWith, String.Slice.endsWith_string_eq_false_iff,
    String.copy_toSlice]
  decide

/-- For example, a file `t`. -/
theorem createFile_t (working : String) :
    (empty working).createFile "t" =
      .ok ((empty working).insert [working, "t"] (.file [])) :=
  createFile_empty steps_t isAbsolute_t namesDirectory_t (by decide) (by decide)

/-- It cannot be made where a directory of that name stands. -/
theorem createFile_t_of_directory (working : String) :
    FileTree.createFile ((empty working).insert [working, "t"] .directory) "t" =
      .error (.system .isDirectory) := by
  have located : FileTree.locate ((empty working).insert [working, "t"] .directory) "t" =
      .ok [working, "t"] := by
    simp [locate, steps_t, isAbsolute_t, walk, empty, insert]
  rw [createFile, located]
  simp only [entry?_insert (by simp : [working, "t"] ≠ []), if_pos]

end ShortName

end Bitslice.FileTree
