import Bitslice.Proofs.Files
import Bitslice.Proofs.Paths
import Mathlib.Logic.Function.Basic

/-!
# Files in one directory

A program that works in a directory which was empty before is described by a
listing, the contents of each file by its name. `FileTree.Holds` says that a
tree has the files of a listing in that directory and is otherwise as it was;
every file operation on a plain name is an update of the listing.
-/

namespace Bitslice

/-- The files of a directory: the contents that each name stands for. -/
abbrev Listing := String → Option Bytes

namespace Listing

/-- No files. -/
def none : Listing :=
  fun _ => .none

/-- The listing with one file added or replaced. -/
def put (listing : Listing) (name : String) (contents : Bytes) : Listing :=
  Function.update listing name (some contents)

/-- The listing without a file. -/
def remove (listing : Listing) (name : String) : Listing :=
  Function.update listing name .none

/-- The listing with several files added or replaced, one after the other. -/
def putAll (listing : Listing) (files : List (String × Bytes)) : Listing :=
  files.foldl (fun listing file => listing.put file.1 file.2) listing

section PutAll

variable {listing : Listing} {name : String} {contents : Bytes} {files : List (String × Bytes)}

theorem put_of_ne {other : String} (apart : other ≠ name) :
    listing.put name contents other = listing other :=
  Function.update_of_ne apart _ _

theorem put_self : listing.put name contents name = some contents :=
  Function.update_self _ _ _

theorem remove_of_ne {other : String} (apart : other ≠ name) :
    listing.remove name other = listing other :=
  Function.update_of_ne apart _ _

theorem remove_self : listing.remove name name = .none :=
  Function.update_self _ _ _

theorem putAll_cons (listing : Listing) (file : String × Bytes) (files : List (String × Bytes)) :
    listing.putAll (file :: files) = (listing.put file.1 file.2).putAll files :=
  rfl

theorem putAll_of_not_mem (absent : name ∉ files.map Prod.fst) :
    listing.putAll files name = listing name := by
  induction files generalizing listing with
  | nil => rfl
  | cons file files ih =>
    rw [List.map_cons, List.mem_cons, not_or] at absent
    obtain ⟨apart, later⟩ := absent
    exact (ih later).trans (put_of_ne apart)

/-- A name that is put once stands for what was put. -/
theorem putAll_of_mem (once : (files.map Prod.fst).Nodup) (member : (name, contents) ∈ files) :
    listing.putAll files name = some contents := by
  induction files generalizing listing with
  | nil => cases member
  | cons file files ih =>
    rw [List.map_cons, List.nodup_cons] at once
    obtain ⟨absent, later⟩ := once
    rcases List.mem_cons.mp member with rfl | among
    · exact (putAll_of_not_mem absent).trans put_self
    · exact ih later among

/-- What stood for the names that are put does not matter. -/
theorem putAll_congr {other : Listing}
    (same : name ∉ files.map Prod.fst → listing name = other name) :
    listing.putAll files name = other.putAll files name := by
  induction files generalizing listing other with
  | nil => exact same List.not_mem_nil
  | cons file files ih =>
    rw [putAll_cons, putAll_cons]
    apply ih
    intro absent
    by_cases here : name = file.1
    · rw [here, put_self, put_self]
    · rw [put_of_ne here, put_of_ne here]
      apply same
      rw [List.map_cons, List.mem_cons, not_or]
      exact ⟨here, absent⟩

/-- Every name that is put stands for something. -/
theorem isSome_putAll (member : name ∈ files.map Prod.fst) :
    (listing.putAll files name).isSome := by
  induction files generalizing listing with
  | nil => cases member
  | cons file files ih =>
    by_cases later : name ∈ files.map Prod.fst
    · exact ih later
    · have here : name = file.1 := by
        rw [List.map_cons] at member
        exact (List.mem_cons.mp member).resolve_right later
      rw [putAll_cons, putAll_of_not_mem later, here, put_self]
      rfl

/-- A file that is there only for a while, and files that are made before they are filled, leave
no trace in the listing. -/
theorem putAll_of_temporary {temporary : String} {made : List (String × Bytes)}
    (vacant : listing temporary = .none) (apart : temporary ∉ files.map Prod.fst)
    (same : made.map Prod.fst = files.map Prod.fst) (contents : Bytes) :
    (((listing.put temporary contents).putAll made).putAll files).remove temporary =
      listing.putAll files := by
  ext1 name
  by_cases here : name = temporary
  · rw [here, remove_self, putAll_of_not_mem apart, vacant]
  · rw [remove_of_ne here]
    apply putAll_congr
    intro absent
    rw [putAll_of_not_mem (by rwa [same]), put_of_ne here]

theorem putAll_append (listing : Listing) (files others : List (String × Bytes)) :
    listing.putAll (files ++ others) = (listing.putAll files).putAll others :=
  List.foldl_append

end PutAll

end Listing

namespace FileTree

section Walking

variable {tree : FileTree}

theorem walk_append (directory : List String) (front behind : List String) :
    tree.walk directory (front ++ behind) =
      (tree.walk directory front).bind fun middle => tree.walk middle behind := by
  induction front generalizing directory with
  | nil => rfl
  | cons step front ih =>
    rw [List.cons_append, walk, walk]
    cases tree.enter directory step with
    | error cause => rfl
    | ok next => exact ih next

/-- A path that leads to a directory can be walked to its end. -/
theorem walk_of_locate {path : String} {directory : List String}
    (leads : tree.locate path = .ok directory) (stands : tree.entry? directory = some .directory) :
    path ≠ "" ∧
      tree.walk (if Path.isAbsolute path then [] else tree.working) (Path.steps path) =
        .ok directory := by
  unfold locate at leads
  simp only at leads
  split at leads
  · cases leads
  · next given =>
    refine ⟨given, ?_⟩
    generalize (if Path.isAbsolute path then [] else tree.working) = start at leads ⊢
    split at leads
    · next ended =>
      obtain rfl := Except.ok.inj leads
      rw [List.getLast?_eq_none_iff.mp ended]
      rfl
    · next last ended =>
      obtain ⟨front, whole⟩ := List.getLast?_eq_some_iff.mp ended
      rw [whole, List.dropLast_concat] at leads
      rw [whole, walk_append]
      rcases walked : tree.walk start front with cause | middle
      · rw [walked] at leads
        cases leads
      · rw [walked] at leads
        simp only [walk, enter, Except.bind] at leads ⊢
        split at leads
        · next here =>
          obtain rfl := Except.ok.inj leads
          rw [if_pos here]
        · next here =>
          rw [if_neg here]
          split at leads
          · next up =>
            obtain rfl := Except.ok.inj leads
            rw [if_pos up]
          · next up =>
            obtain rfl := Except.ok.inj leads
            rw [if_neg up, stands]

/-- A plain name below a path that leads to a directory. -/
theorem locate_join {place name : String} {directory : List String}
    (leads : tree.locate place = .ok directory) (stands : tree.entry? directory = some .directory)
    (plain : Path.Plain name) :
    tree.locate (Path.join place name) = .ok (directory ++ [name]) := by
  obtain ⟨given, walked⟩ := walk_of_locate leads stands
  unfold locate
  simp only
  rw [if_neg (Path.join_ne_empty plain), Path.isAbsolute_join given, Path.steps_join plain,
    List.getLast?_concat]
  simp only [List.dropLast_concat, walked]
  rw [if_neg plain.stays, if_neg plain.descends]

/-- A path that leads to a directory which has just been made. -/
theorem isDirectory_of_makeDirectory {path : String} {later : FileTree}
    (made : tree.makeDirectory path = .ok later) : later.isDirectory path = true := by
  unfold makeDirectory at made
  split at made
  · cases made
  · next names located =>
    split at made
    · cases made
    · next missing =>
      obtain rfl := Except.ok.inj made
      have absent : tree.entry? names ≠ some .directory := by
        rw [missing]
        simp
      rw [isDirectory, (keepsDirectories_insert absent .directory).locate located]
      simp only [entry?_insert (names_ne_nil absent), if_pos]

theorem entry?_of_isDirectory {path : String} {names : List String}
    (found : tree.isDirectory path = true) (located : tree.locate path = .ok names) :
    tree.entry? names = some .directory := by
  rw [isDirectory, located] at found
  simp only at found
  split at found
  · next standing => exact standing
  · cases found

end Walking

/-- A path leads to a directory that holds nothing and has room for files of any size. -/
structure Vacant (base : FileTree) (place : String) (directory : List String) : Prop where
  leads : base.locate place = .ok directory
  stands : base.entry? directory = some .directory
  empty : ∀ names, names ≠ [] → base.entry? (directory ++ names) = none
  roomy : ∀ name, base.device (directory ++ [name]) = .unlimited

/-- A tree has the files of a listing in a directory and is otherwise like a base tree. -/
structure Holds (base : FileTree) (directory : List String) (listing : Listing)
    (tree : FileTree) : Prop where
  working : tree.working = base.working
  device : tree.device = base.device
  elsewhere : ∀ names, (∀ name, names ≠ directory ++ [name]) →
    tree.entry? names = base.entry? names
  listed : ∀ name, tree.entry? (directory ++ [name]) = (listing name).map .file

theorem append_singleton_ne_nil (directory : List String) (name : String) :
    directory ++ [name] ≠ [] :=
  List.append_ne_nil_of_right_ne_nil _ (List.cons_ne_nil _ _)

section Operations

variable {base tree : FileTree} {place name : String} {directory : List String}
  {listing : Listing} {contents : Bytes}

theorem Vacant.holds (vacant : base.Vacant place directory) :
    base.Holds directory Listing.none base where
  working := rfl
  device := rfl
  elsewhere _ _ := rfl
  listed name := vacant.empty [name] (List.cons_ne_nil _ _)

theorem Holds.insert (holds : base.Holds directory listing tree) (name : String)
    (contents : Bytes) : base.Holds directory (listing.put name contents)
      (tree.insert (directory ++ [name]) (.file contents)) where
  working := holds.working
  device := holds.device
  elsewhere := by
    intro names outside
    rw [entry?_insert (append_singleton_ne_nil directory name), if_neg (outside name)]
    exact holds.elsewhere names outside
  listed := by
    intro other
    rw [entry?_insert (append_singleton_ne_nil directory name)]
    by_cases same : other = name
    · rw [same, if_pos rfl, Listing.put_self]
      rfl
    · have apart : directory ++ [other] ≠ directory ++ [name] := by
        intro equal
        exact same (List.singleton_inj.mp (List.append_cancel_left equal))
      rw [if_neg apart, Listing.put_of_ne same]
      exact holds.listed other

variable (vacant : base.Vacant place directory)

include vacant

/-- Where the directory was empty, no other directory is lost by what it holds now. -/
theorem Holds.keepsDirectories (holds : base.Holds directory listing tree) :
    base.KeepsDirectories tree where
  working := holds.working
  directories := by
    intro names found
    rw [holds.elsewhere, found]
    rintro name rfl
    rw [vacant.empty [name] (List.cons_ne_nil _ _)] at found
    cases found

theorem Holds.locate (holds : base.Holds directory listing tree) (plain : Path.Plain name) :
    tree.locate (Path.join place name) = .ok (directory ++ [name]) := by
  have keeps := holds.keepsDirectories vacant
  exact locate_join (keeps.locate vacant.leads) (keeps.directories _ vacant.stands) plain

variable (holds : base.Holds directory listing tree) (plain : Path.Plain name)

include holds plain

theorem Holds.createFile :
    tree.createFile (Path.join place name) =
      .ok (tree.insert (directory ++ [name]) (.file [])) := by
  rw [FileTree.createFile, holds.locate vacant plain]
  simp only [holds.listed, Path.namesDirectory_join plain]
  cases listing name <;> rfl

theorem Holds.deviceAt : tree.deviceAt (Path.join place name) = .unlimited := by
  rw [FileTree.deviceAt, holds.locate vacant plain]
  simp only [holds.device, vacant.roomy]

theorem Holds.storeBytes (present : (listing name).isSome) (contents : Bytes) :
    tree.storeBytes (Path.join place name) contents =
      tree.insert (directory ++ [name]) (.file contents) := by
  obtain ⟨earlier, listed⟩ := Option.isSome_iff_exists.mp present
  rw [FileTree.storeBytes, holds.locate vacant plain]
  simp only [holds.listed, listed, Option.map_some]

theorem Holds.openFile (listed : listing name = some contents) :
    tree.openFile (Path.join place name) =
      .ok ⟨.ofBytes contents, UInt64.ofNat contents.length⟩ := by
  rw [FileTree.openFile, holds.locate vacant plain]
  simp only [holds.listed, listed, Option.map_some, Path.namesDirectory_join plain]
  rfl

theorem Holds.contents? : tree.contents? (Path.join place name) = listing name := by
  rw [FileTree.contents?, holds.locate vacant plain]
  simp only [holds.listed]
  cases listing name <;> rfl

theorem Holds.removeFile (present : (listing name).isSome) :
    ∃ later, tree.removeFile (Path.join place name) = .ok later ∧
      base.Holds directory (listing.remove name) later := by
  obtain ⟨contents, listed⟩ := Option.isSome_iff_exists.mp present
  refine ⟨{ tree with entries := tree.entries.erase (directory ++ [name]) }, ?_, holds.working,
    holds.device, ?_, ?_⟩
  · rw [FileTree.removeFile, holds.locate vacant plain]
    simp only [holds.listed, listed, Option.map_some, Path.namesDirectory_join plain]
    rfl
  · intro names outside
    rw [entry?_erase (append_singleton_ne_nil directory name), if_neg (outside name)]
    exact holds.elsewhere names outside
  · intro other
    rw [entry?_erase (append_singleton_ne_nil directory name)]
    by_cases same : other = name
    · rw [same, if_pos rfl, Listing.remove_self]
      rfl
    · have apart : directory ++ [other] ≠ directory ++ [name] := by
        intro equal
        exact same (List.singleton_inj.mp (List.append_cancel_left equal))
      rw [if_neg apart, Listing.remove_of_ne same]
      exact holds.listed other

end Operations

end FileTree

end Bitslice
