import Bitslice.Proofs.Directories
import Bitslice.Proofs.Writers

/-!
# Actions on a machine

`Machine.Succeeds` says that an action gets to its end and what holds then;
actions in sequence are described one after the other. In a directory that was
vacant, the file operations of a campaign all succeed and change its listing.
Making directories prints nothing and leaves a directory behind.
-/

namespace Bitslice

namespace Machine

section Sequences

variable {α β : Type} {machine later : Machine}

theorem run_bind_of_eq {operation : StateM Machine α} {value : α}
    (performed : operation.run machine = (value, later)) (next : α → StateM Machine β) :
    (operation >>= next).run machine = (next value).run later := by
  rw [StateT.run_bind, performed]
  rfl

/-- An action gets to its end, and its value and the machine that it leaves are as described. -/
def Succeeds (action : ExceptT CampaignFailure (StateM Machine) α) (machine : Machine)
    (described : α → Machine → Prop) : Prop :=
  ∃ value later, action.run.run machine = (.ok value, later) ∧ described value later

theorem Succeeds.bind {action : ExceptT CampaignFailure (StateM Machine) α}
    {next : α → ExceptT CampaignFailure (StateM Machine) β} {middle : α → Machine → Prop}
    {described : β → Machine → Prop} (first : Succeeds action machine middle)
    (rest : ∀ value later, middle value later → Succeeds (next value) later described) :
    Succeeds (action >>= next) machine described := by
  obtain ⟨value, between, ran, holds⟩ := first
  obtain ⟨result, later, ranNext, holdsNext⟩ := rest value between holds
  refine ⟨result, later, ?_, holdsNext⟩
  rw [ExceptT.run_bind, run_bind_of_eq ran]
  exact ranNext

theorem succeeds_pure {value : α} {described : α → Machine → Prop}
    (holds : described value machine) :
    Succeeds (pure value : ExceptT CampaignFailure (StateM Machine) α) machine described :=
  ⟨value, machine, rfl, holds⟩

theorem succeeds_need {failure : IoFailure → CampaignFailure}
    {operation : StateM Machine (Except IoFailure α)} {value : α}
    {described : α → Machine → Prop} (performed : operation.run machine = (.ok value, later))
    (holds : described value later) :
    Succeeds (Campaign.need failure operation) machine described := by
  refine ⟨value, later, ?_, holds⟩
  rw [Campaign.need, ExceptT.run_mk, run_bind_of_eq performed]
  rfl

theorem succeeds_lift {operation : StateM Machine α} {value : α}
    {described : α → Machine → Prop} (performed : operation.run machine = (value, later))
    (holds : described value later) :
    Succeeds (ExceptT.lift operation) machine described := by
  refine ⟨value, later, ?_, holds⟩
  rw [ExceptT.run_lift, StateT.run_map, performed]
  rfl

end Sequences

/-- The machine has printed some lines, and its tree has the files of a listing in a directory and
is otherwise like a base tree. -/
structure Shows (base : FileTree) (directory : List String) (listing : Listing)
    (printed : List String) (machine : Machine) : Prop where
  holds : base.Holds directory listing machine.tree
  printed : machine.printed.toList = printed

theorem run_update (operation : FileTree → Except IoFailure FileTree) (machine : Machine) :
    (update operation).run machine =
      match operation machine.tree with
      | .error cause => (.error cause, machine)
      | .ok tree => (.ok (), { machine with tree := tree }) :=
  rfl

theorem run_createFile_eq (path : String) (machine : Machine) :
    (FileSystem.createFile path : StateM Machine (Except IoFailure Device)).run machine =
      match machine.tree.createFile path with
      | .error cause => (.error cause, machine)
      | .ok tree => (.ok (tree.deviceAt path), { machine with tree := tree }) :=
  rfl

theorem run_createFile {machine : Machine} {path : String} {tree : FileTree}
    (made : machine.tree.createFile path = .ok tree) :
    (FileSystem.createFile path : StateM Machine (Except IoFailure Device)).run machine =
      (.ok (tree.deviceAt path), { machine with tree := tree }) := by
  rw [run_createFile_eq, made]

theorem run_storeBytes_eq (path : String) (contents : Bytes) (machine : Machine) :
    (FileSystem.storeBytes path contents : StateM Machine (Except IoFailure Unit)).run machine =
      ((machine.tree.deviceAt path).answer contents.length, { machine with
        tree := machine.tree.storeBytes path ((machine.tree.deviceAt path).fitting contents) }) :=
  rfl

theorem run_removeFile {machine : Machine} {path : String} {tree : FileTree}
    (removed : machine.tree.removeFile path = .ok tree) :
    (FileSystem.removeFile path : StateM Machine (Except IoFailure Unit)).run machine =
      (.ok (), { machine with tree := tree }) := by
  refine (run_update (fun tree => tree.removeFile path) machine).trans ?_
  rw [removed]

theorem run_makeDirectory (path : String) (machine : Machine) :
    (FileSystem.makeDirectory path : StateM Machine (Except IoFailure Unit)).run machine =
      match machine.tree.makeDirectory path with
      | .error cause => (.error cause, machine)
      | .ok tree => (.ok (), { machine with tree := tree }) :=
  rfl

section Operations

variable {base : FileTree} {place name : String} {directory : List String} {listing : Listing}
  {printed : List String} {machine : Machine}

theorem succeeds_say (shows : Shows base directory listing printed machine) (line : String) :
    Succeeds (ExceptT.lift (FileSystem.say line)) machine
      fun _ => Shows base directory listing (printed ++ [line]) := by
  refine succeeds_lift rfl ⟨shows.holds, ?_⟩
  rw [← shows.printed]
  exact Array.toList_push

variable (vacant : base.Vacant place directory)
  (shows : Shows base directory listing printed machine) (plain : Path.Plain name)

include vacant shows plain

theorem succeeds_createFile (failure : IoFailure → CampaignFailure) :
    Succeeds (Campaign.need failure (FileSystem.createFile (Path.join place name))) machine
      fun device later => device = .unlimited ∧
        Shows base directory (listing.put name []) printed later := by
  have performed := run_createFile (shows.holds.createFile vacant plain)
  have holds := shows.holds.insert name []
  exact succeeds_need performed ⟨holds.deviceAt vacant plain, holds, shows.printed⟩

theorem run_storeBytes (present : (listing name).isSome) (contents : Bytes) :
    (FileSystem.storeBytes (Path.join place name) contents :
        StateM Machine (Except IoFailure Unit)).run machine =
      (.ok (), { machine with
        tree := machine.tree.insert (directory ++ [name]) (.file contents) }) := by
  rw [run_storeBytes_eq, shows.holds.deviceAt vacant plain, Device.fitting_unlimited,
    shows.holds.storeBytes vacant plain present]
  rfl

theorem succeeds_storeBytes (present : (listing name).isSome) (contents : Bytes)
    (failure : IoFailure → CampaignFailure) :
    Succeeds (Campaign.need failure (FileSystem.storeBytes (Path.join place name) contents)) machine
      fun _ => Shows base directory (listing.put name contents) printed :=
  succeeds_need (run_storeBytes vacant shows plain present contents)
    ⟨shows.holds.insert name contents, shows.printed⟩

theorem succeeds_openFile {contents : Bytes} (listed : listing name = some contents)
    (failure : IoFailure → CampaignFailure) :
    Succeeds (Campaign.need failure (FileSystem.openFile (Path.join place name))) machine
      fun file later => file = ⟨.ofBytes contents, UInt64.ofNat contents.length⟩ ∧
        Shows base directory listing printed later := by
  have performed : (FileSystem.openFile (Path.join place name) :
      StateM Machine (Except IoFailure OpenedFile)).run machine =
        (.ok ⟨.ofBytes contents, UInt64.ofNat contents.length⟩, machine) :=
    Prod.ext (shows.holds.openFile vacant plain listed) rfl
  exact succeeds_need performed ⟨rfl, shows⟩

theorem succeeds_removeFile (present : (listing name).isSome)
    (failure : IoFailure → CampaignFailure) :
    Succeeds (Campaign.need failure (FileSystem.removeFile (Path.join place name))) machine
      fun _ => Shows base directory (listing.remove name) printed := by
  obtain ⟨later, removed, holds⟩ := shows.holds.removeFile vacant plain present
  have performed := run_removeFile removed
  exact succeeds_need performed ⟨holds, shows.printed⟩

theorem succeeds_writeFile (failure : IoFailure → CampaignFailure) (contents : Bytes) :
    Succeeds (Campaign.need failure (FileSystem.writeFile (Path.join place name) contents)) machine
      fun _ => Shows base directory (listing.put name contents) printed := by
  let created : Machine :=
    { machine with tree := machine.tree.insert (directory ++ [name]) (.file []) }
  have showsCreated : Shows base directory (listing.put name []) printed created :=
    ⟨shows.holds.insert name [], shows.printed⟩
  have present : (listing.put name [] name).isSome := by
    rw [Listing.put_self]
    rfl
  have performed : (FileSystem.writeFile (Path.join place name) contents :
      StateM Machine (Except IoFailure Unit)).run machine = (.ok (), { created with
        tree := created.tree.insert (directory ++ [name]) (.file contents) }) := by
    have made : (FileSystem.createFile (Path.join place name) :
        StateM Machine (Except IoFailure Device)).run machine =
          (.ok (created.tree.deviceAt (Path.join place name)), created) :=
      run_createFile (shows.holds.createFile vacant plain)
    rw [FileSystem.writeFile, run_bind_of_eq made]
    exact run_storeBytes vacant showsCreated plain present contents
  have twice : (listing.put name []).put name contents = listing.put name contents :=
    Function.update_idem _ _ _
  refine succeeds_need performed ⟨?_, shows.printed⟩
  rw [← twice]
  exact showsCreated.holds.insert name contents

end Operations

section MakingDirectories

variable {α β : Type}

/-- An operation prints nothing and does not look at what has been printed. -/
def Silent (operation : StateM Machine α) : Prop :=
  ∀ (machine : Machine) (printed : Array String),
    operation.run { machine with printed := printed } =
      ((operation.run machine).1, { (operation.run machine).2 with printed := printed })

theorem Silent.bind {operation : StateM Machine α} {next : α → StateM Machine β}
    (first : Silent operation) (rest : ∀ value, Silent (next value)) :
    Silent (operation >>= next) := by
  intro machine printed
  rw [StateT.run_bind, StateT.run_bind, first machine printed]
  exact rest _ _ printed

theorem silent_pure (value : α) : Silent (pure value : StateM Machine α) :=
  fun _ _ => rfl

theorem silent_makeDirectory (path : String) :
    Silent (FileSystem.makeDirectory path : StateM Machine (Except IoFailure Unit)) := by
  intro machine printed
  rw [run_makeDirectory, run_makeDirectory]
  cases machine.tree.makeDirectory path <;> rfl

theorem silent_isDirectory (path : String) :
    Silent (FileSystem.isDirectory path : StateM Machine Bool) :=
  fun _ _ => rfl

theorem silent_makeOrKeep (path : String) :
    Silent (FileSystem.makeOrKeep path : StateM Machine (Except IoFailure Unit)) := by
  refine (silent_makeDirectory path).bind ?_
  rintro (cause | ⟨⟩)
  · refine (silent_isDirectory path).bind ?_
    rintro (_ | _)
    · exact silent_pure _
    · exact silent_pure _
  · exact silent_pure _

theorem silent_makeBelow (path : String) (above : List String) :
    Silent (FileSystem.makeBelow path above : StateM Machine (Except IoFailure Unit)) := by
  induction above generalizing path with
  | nil => exact silent_makeOrKeep path
  | cons parent above ih =>
    refine (silent_makeDirectory path).bind ?_
    rintro (cause | ⟨⟩)
    · by_cases missing : cause.kind = .notFound
      · simp only [if_pos missing]
        refine (ih parent).bind ?_
        rintro (cause | ⟨⟩)
        · exact silent_pure _
        · exact silent_makeOrKeep path
      · simp only [if_neg missing]
        refine (silent_isDirectory path).bind ?_
        rintro (_ | _)
        · exact silent_pure _
        · exact silent_pure _
    · exact silent_pure _

theorem silent_makeDirectories (path : String) :
    Silent (FileSystem.makeDirectories path : StateM Machine (Except IoFailure Unit)) :=
  silent_makeBelow path _

section Made

variable {path : String} {machine later : Machine}

theorem isDirectory_of_isDirectory {failure : Except IoFailure Unit}
    (found : (do if ← FileSystem.isDirectory path then pure (.ok ()) else pure failure :
      StateM Machine (Except IoFailure Unit)).run machine = (.ok (), later))
    (failed : failure ≠ .ok ()) : later.tree.isDirectory path = true := by
  rw [StateT.run_bind] at found
  change (StateT.run (if machine.tree.isDirectory path = true then _ else _) machine) = _ at found
  by_cases there : machine.tree.isDirectory path = true
  · rw [if_pos there] at found
    obtain rfl := (Prod.mk.inj found).2
    exact there
  · rw [if_neg there] at found
    exact absurd (Prod.mk.inj found).1 failed

theorem isDirectory_of_makeOrKeep
    (made : (FileSystem.makeOrKeep path : StateM Machine (Except IoFailure Unit)).run machine =
      (.ok (), later)) : later.tree.isDirectory path = true := by
  have tried := run_makeDirectory path machine
  rcases attempt : machine.tree.makeDirectory path with cause | tree
  · rw [attempt] at tried
    rw [FileSystem.makeOrKeep, run_bind_of_eq tried] at made
    exact isDirectory_of_isDirectory made (by simp)
  · rw [attempt] at tried
    rw [FileSystem.makeOrKeep, run_bind_of_eq tried] at made
    obtain rfl := (Prod.mk.inj made).2
    exact FileTree.isDirectory_of_makeDirectory attempt

theorem isDirectory_of_makeBelow {above : List String}
    (made : (FileSystem.makeBelow path above : StateM Machine (Except IoFailure Unit)).run
      machine = (.ok (), later)) : later.tree.isDirectory path = true := by
  cases above with
  | nil => exact isDirectory_of_makeOrKeep made
  | cons parent above =>
    have tried := run_makeDirectory path machine
    rcases attempt : machine.tree.makeDirectory path with cause | tree
    · rw [attempt] at tried
      rw [FileSystem.makeBelow, run_bind_of_eq tried] at made
      simp only at made
      by_cases missing : cause.kind = .notFound
      · rcases below : (FileSystem.makeBelow parent above :
          StateM Machine (Except IoFailure Unit)).run machine with ⟨cause | ⟨⟩, between⟩
        · rw [if_pos missing, run_bind_of_eq below] at made
          cases (Prod.mk.inj made).1
        · rw [if_pos missing, run_bind_of_eq below] at made
          exact isDirectory_of_makeOrKeep made
      · rw [if_neg missing] at made
        exact isDirectory_of_isDirectory made (by simp)
    · rw [attempt] at tried
      rw [FileSystem.makeBelow, run_bind_of_eq tried] at made
      obtain rfl := (Prod.mk.inj made).2
      exact FileTree.isDirectory_of_makeDirectory attempt

/-- Where directories have been made, there is one. -/
theorem isDirectory_of_makeDirectories
    (made : (FileSystem.makeDirectories path : StateM Machine (Except IoFailure Unit)).run
      machine = (.ok (), later)) : later.tree.isDirectory path = true :=
  isDirectory_of_makeBelow made

end Made

end MakingDirectories

end Machine

end Bitslice
