import EntityDto.File.Workspace

/-!
Making directories: nothing that stands anywhere is touched, new directories are all that is added,
and the directory asked for is there in the end.
-/

namespace EntityDto.Workspace

/-- Every directory of one workspace is one of the other, and paths start at the same place. -/
structure KeepsDirectories (before after : Workspace) : Prop where
  home : after.home = before.home
  directory : ∀ location, before.node? location = some .directory →
    after.node? location = some .directory

/-- The second workspace has more directories where nothing stood, and else is like the first. -/
structure AddsDirectories (before after : Workspace) : Prop where
  home : after.home = before.home
  node : ∀ location, after.node? location = before.node? location
    ∨ before.node? location = none ∧ after.node? location = some .directory

variable {before middle after workspace : Workspace} {path : Path}

/-- Nothing need be added. -/
theorem AddsDirectories.refl (workspace : Workspace) : AddsDirectories workspace workspace :=
  ⟨rfl, fun _ => .inl rfl⟩

/-- Directories that are kept twice are kept. -/
theorem KeepsDirectories.trans (first : KeepsDirectories before middle)
    (second : KeepsDirectories middle after) : KeepsDirectories before after where
  home := second.home.trans first.home
  directory location isDirectory := second.directory location (first.directory location isDirectory)

/-- What is added on top of added directories is added as well. -/
theorem AddsDirectories.trans (first : AddsDirectories before middle)
    (second : AddsDirectories middle after) : AddsDirectories before after where
  home := second.home.trans first.home
  node location := by
    rcases second.node location with same | ⟨free, added⟩
    · rcases first.node location with sameBefore | ⟨free, added⟩
      · exact .inl (same.trans sameBefore)
      · exact .inr ⟨free, same.trans added⟩
    · -- Where nothing stood after the first step, nothing stood before it.
      rcases first.node location with sameBefore | ⟨-, there⟩
      · exact .inr ⟨sameBefore.symm.trans free, added⟩
      · rw [free] at there
        simp at there

/-- Where directories are added, those that were there stay. -/
theorem AddsDirectories.keepsDirectories (adds : AddsDirectories before after) :
    KeepsDirectories before after where
  home := adds.home
  directory location isDirectory := by
    rcases adds.node location with same | ⟨-, added⟩
    · exact same.trans isDirectory
    · exact added

/-- A regular file is no directory that was added, so the regular files are those from before. -/
theorem AddsDirectories.file_iff (adds : AddsDirectories before after) (location : Location)
    (content : Bytes) : after.node? location = some (.file content)
      ↔ before.node? location = some (.file content) := by
  -- What changed was free before and is a directory now, so no file is concerned.
  rcases adds.node location with same | ⟨free, added⟩
  · rw [same]
  · rw [free, added]
    simp

/-- A directory goes where nothing stands. -/
theorem addsDirectories_put {location : Location} (free : workspace.node? location = none) :
    AddsDirectories workspace (workspace.put location .directory) where
  home := rfl
  node other := by
    by_cases here : other = location
    · subst here
      -- The root is never free, so there is a name to put the directory under.
      cases other with
      | nil => simp [node?] at free
      | cons name enclosing => exact .inr ⟨free, node?_put_self _ _ _ _⟩
    · exact .inl (node?_put_of_ne workspace .directory here)

/-- A way through directories leads to the same place as long as they stay. -/
theorem KeepsDirectories.walk (keeps : KeepsDirectories before after) {parts : List Text}
    {location place : Location} (walks : before.walk location parts = .ok place) :
    after.walk location parts = .ok place := by
  induction parts generalizing location with
  | nil => exact walks
  | cons part rest ih =>
    -- Only directories are left on the way, and each of them is still there.
    rw [Workspace.walk] at walks ⊢
    split at walks
    · simp at walks
    · simp at walks
    · next isDirectory =>
      simp only [keeps.directory location isDirectory]
      exact ih walks

/-- A path leads to the same place as long as the directories stay. -/
theorem KeepsDirectories.locate (keeps : KeepsDirectories before after) {place : Location}
    (located : before.locate path = .ok place) : after.locate path = .ok place := by
  rw [Workspace.locate, keeps.home]
  exact keeps.walk located

/-- A path leads to a directory when it leads to a place with one. -/
theorem isDirectory_iff :
    workspace.isDirectory path = true ↔
      ∃ location, workspace.locate path = .ok location
        ∧ workspace.node? location = some .directory := by
  unfold isDirectory
  -- A path that leads nowhere is no directory on either side.
  cases located : workspace.locate path with
  | error cause => simp
  | ok location => simp

/-- A way along some components and then along others is walked in two steps. -/
theorem walk_append (location : Location) (parts more : List Text) :
    workspace.walk location (parts ++ more)
      = (workspace.walk location parts).bind fun place => workspace.walk place more := by
  -- The location is left open, for each part of the path is walked from another one.
  induction parts generalizing location with
  | nil => rfl
  | cons part rest ih =>
    rw [List.cons_append, walk, walk]
    split
    · rfl
    · rfl
    · exact ih _

/-- A child of a directory stands right below it. -/
theorem locate_child {directory : Location} {name : Text}
    (located : workspace.locate path = .ok directory)
    (isDirectory : workspace.node? directory = some .directory) (notUp : name ≠ Path.up) :
    workspace.locate ⟨path.root, path.parts ++ [name]⟩ = .ok (name :: directory) := by
  rw [locate] at located ⊢
  -- The way to the directory is walked first, and one more step leads to the child.
  rw [walk_append, located]
  simp only [Except.bind, walk, isDirectory, notUp, if_false]

/-- Making sure of a directory adds nothing else, and then it is there. -/
theorem of_ensureDirectory {made : Workspace}
    (ensured : workspace.ensureDirectory path = .ok made) :
    AddsDirectories workspace made ∧ made.isDirectory path = true := by
  rw [ensureDirectory, makeDirectory] at ensured
  cases located : workspace.locate path with
  | error cause =>
    -- A path that leads nowhere leads to no directory either.
    have nowhere : workspace.isDirectory path = false := by rw [isDirectory, located]
    simp [located, nowhere] at ensured
  | ok location =>
    simp only [located] at ensured
    cases stands : workspace.node? location with
    | none =>
      simp only [stands, Except.ok.injEq] at ensured
      subst ensured
      have adds := addsDirectories_put stands
      refine ⟨adds, isDirectory_iff.mpr ⟨location, adds.keepsDirectories.locate located, ?_⟩⟩
      rcases adds.node location with same | ⟨-, added⟩
      · -- What was free before is not free behind the step.
        cases location with
        | nil => rfl
        | cons name enclosing => exact node?_put_self _ _ _ _
      · exact added
    | some node =>
      simp only [stands] at ensured
      split at ensured
      · next there =>
        cases ensured
        exact ⟨.refl workspace, there⟩
      · simp at ensured

/-- A directory that is there is made sure of without a change. -/
theorem ensureDirectory_of_isDirectory (there : workspace.isDirectory path = true) :
    workspace.ensureDirectory path = .ok workspace := by
  obtain ⟨location, located, isDirectory⟩ := isDirectory_iff.mp there
  simp only [ensureDirectory, makeDirectory, located, isDirectory, there, if_true]

/-- Making a directory and those around it adds nothing else, and on success it is there. -/
theorem ensureDirectoriesUp_spec (workspace : Workspace) (root : Text) (reversedParts : List Text) :
    AddsDirectories workspace (workspace.ensureDirectoriesUp root reversedParts).1
    ∧ ((workspace.ensureDirectoriesUp root reversedParts).2 = .ok () →
      (workspace.ensureDirectoriesUp root reversedParts).1.isDirectory
        ⟨root, reversedParts.reverse⟩ = true) := by
  induction reversedParts with
  | nil =>
    rw [ensureDirectoriesUp]
    cases ensured : workspace.ensureDirectory ⟨root, []⟩ with
    | ok made => exact (of_ensureDirectory ensured).imp_right fun there _ => there
    | error error => exact ⟨.refl workspace, by simp⟩
  | cons part enclosing ih =>
    rw [ensureDirectoriesUp]
    cases ensured : workspace.ensureDirectory ⟨root, (part :: enclosing).reverse⟩ with
    | ok made => exact (of_ensureDirectory ensured).imp_right fun there _ => there
    | error error =>
      simp only
      split
      · -- The enclosing directories are made first, and the directory itself on top of them.
        generalize workspace.ensureDirectoriesUp root enclosing = outcome at ih
        obtain ⟨enclosed, error | ⟨⟩⟩ := outcome
        · exact ⟨ih.1, by simp⟩
        · simp only
          cases again : enclosed.ensureDirectory ⟨root, (part :: enclosing).reverse⟩ with
          | ok made =>
            obtain ⟨adds, there⟩ := of_ensureDirectory again
            exact ⟨ih.1.trans adds, fun _ => there⟩
          | error error => exact ⟨ih.1, by simp⟩
      · exact ⟨.refl workspace, by simp⟩

/-- Making a directory with those around it adds directories at most. -/
theorem addsDirectories_ensureDirectories (workspace : Workspace) (path : Path) :
    AddsDirectories workspace (workspace.ensureDirectories path).1 :=
  (ensureDirectoriesUp_spec workspace path.root path.parts.reverse).1

/-- A directory that was made with those around it is there. -/
theorem isDirectory_ensureDirectories (made : (workspace.ensureDirectories path).2 = .ok ()) :
    (workspace.ensureDirectories path).1.isDirectory path = true := by
  have there := (ensureDirectoriesUp_spec workspace path.root path.parts.reverse).2 made
  rwa [List.reverse_reverse] at there

/-- Where the directory is there already, none is made. -/
theorem ensureDirectories_of_isDirectory (there : workspace.isDirectory path = true) :
    workspace.ensureDirectories path = (workspace, .ok ()) := by
  have ensured := ensureDirectory_of_isDirectory there
  rw [ensureDirectories]
  -- The first attempt finds it, whichever component is the last one.
  cases parts : path.parts.reverse with
  | nil =>
    rw [List.reverse_eq_nil_iff] at parts
    have whole : path = ⟨path.root, []⟩ := by rw [← parts]
    rw [whole] at ensured
    rw [ensureDirectoriesUp, ensured]
  | cons part enclosing =>
    have whole : path = ⟨path.root, (part :: enclosing).reverse⟩ := by
      rw [← parts, List.reverse_reverse]
    rw [whole] at ensured
    rw [ensureDirectoriesUp, ensured]

end EntityDto.Workspace
