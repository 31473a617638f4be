import EntityDto.File.Path
import EntityDto.Text.Lines
import EntityDto.Text.Utf8

/-! Trees of files with a working directory, and what reading, writing and making directories do. -/

namespace EntityDto

open Text

/-- What stands at a location. -/
inductive Node where
  | directory
  | file (content : Bytes)
  deriving DecidableEq

/-- The names that lead to a node, innermost first; the root has none. -/
abbrev Location := List Text

/-- Why a file operation fails. -/
inductive FileCause where
  | notFound
  | alreadyExists
  | notDirectory
  | isDirectory
  deriving DecidableEq

/-- The number and the wording of a cause. -/
def FileCause.message : FileCause → Text
  | .notFound => "[Errno 2] No such file or directory".toList
  | .alreadyExists => "[Errno 17] File exists".toList
  | .notDirectory => "[Errno 20] Not a directory".toList
  | .isDirectory => "[Errno 21] Is a directory".toList

/-- A failed file operation on a path. -/
structure FileError where
  cause : FileCause
  path : Path
  deriving DecidableEq

/-- The failure as a message. -/
def FileError.message (error : FileError) : Text :=
  error.cause.message ++ ": ".toList ++ inQuotes error.path.text

/-- A tree of files and the directory in which relative paths start. -/
structure Workspace where
  nodes : List (Location × Node)
  home : Location
  deriving DecidableEq

namespace Workspace

/-- What stands at a location; the root is always a directory. -/
def node? (workspace : Workspace) (location : Location) : Option Node :=
  match location with
  | [] => some .directory
  | _ :: _ => (workspace.nodes.find? fun entry => entry.1 = location).map Prod.snd

/-- Puts a node at a location, in place of what stood there. -/
def put (workspace : Workspace) (location : Location) (node : Node) : Workspace :=
  { workspace with
    nodes := workspace.nodes.filter (fun entry => entry.1 ≠ location) ++ [(location, node)] }

/-- What was put at a location is what stands there. -/
theorem node?_put_self (workspace : Workspace) (name : Text) (enclosing : Location) (node : Node) :
    (workspace.put (name :: enclosing) node).node? (name :: enclosing) = some node := by
  -- Every older entry for the location was filtered out, so the new one is found.
  simp only [node?, put, List.find?_append]
  have gone : (workspace.nodes.filter fun entry => entry.1 ≠ name :: enclosing).find?
      (fun entry => entry.1 = name :: enclosing) = none := by
    simp
  rw [gone]
  simp

/-- Putting a node at one location leaves every other location as it was. -/
theorem node?_put_of_ne (workspace : Workspace) {location other : Location} (node : Node)
    (different : other ≠ location) :
    (workspace.put location node).node? other = workspace.node? other := by
  cases other with
  -- The root is a directory whatever is put elsewhere.
  | nil => rfl
  | cons name enclosing =>
    simp only [node?, put, List.find?_append, List.find?_filter]
    -- Entries for the other location pass the filter, and the new entry is not one of them.
    have kept : (fun entry : Location × Node =>
        decide (decide (entry.1 ≠ location) = true ∧ decide (entry.1 = name :: enclosing) = true))
        = fun entry => decide (entry.1 = name :: enclosing) := by
      funext entry
      by_cases same : entry.1 = name :: enclosing
      · simp [same, different]
      · simp [same]
    have unmet : ([(location, node)].find? fun entry => decide (entry.1 = name :: enclosing))
        = none := by
      simp [Ne.symm different]
    simp only [kept, unmet, Option.or_none]

/--
Follows path components from a location.

Every component leads on from a directory, so all but the last place must be one. The directory
that encloses the root is the root.
-/
def walk (workspace : Workspace) (location : Location) : List Text → Except FileCause Location
  | [] => .ok location
  | part :: rest =>
    match workspace.node? location with
    | none => .error .notFound
    | some (.file _) => .error .notDirectory
    -- Even the way up starts from a directory that is really there.
    | some .directory =>
      workspace.walk (if part = Path.up then location.tail else part :: location) rest

/-- Where a path leads, whether or not anything stands there. -/
def locate (workspace : Workspace) (path : Path) : Except FileCause Location :=
  workspace.walk (if path.root.isEmpty then workspace.home else []) path.parts

/-- Whether a path leads to a directory. -/
def isDirectory (workspace : Workspace) (path : Path) : Bool :=
  match workspace.locate path with
  | .ok location => workspace.node? location = some .directory
  | .error _ => false

/-- Reads the bytes of a file. -/
def readBytes (workspace : Workspace) (path : Path) : Except FileError Bytes :=
  match workspace.locate path with
  | .error cause => .error ⟨cause, path⟩
  | .ok location =>
    match workspace.node? location with
    | none => .error ⟨.notFound, path⟩
    | some .directory => .error ⟨.isDirectory, path⟩
    | some (.file content) => .ok content

/-- Writes the bytes of a file, which need not exist before. -/
def writeBytes (workspace : Workspace) (path : Path) (content : Bytes) :
    Except FileError Workspace :=
  match workspace.locate path with
  | .error cause => .error ⟨cause, path⟩
  | .ok location =>
    match workspace.node? location with
    | some .directory => .error ⟨.isDirectory, path⟩
    | _ => .ok (workspace.put location (.file content))

/-- Makes one directory, where nothing may stand yet. -/
def makeDirectory (workspace : Workspace) (path : Path) : Except FileError Workspace :=
  match workspace.locate path with
  | .error cause => .error ⟨cause, path⟩
  | .ok location =>
    match workspace.node? location with
    | some _ => .error ⟨.alreadyExists, path⟩
    | none => .ok (workspace.put location .directory)

/-- Makes one directory unless it is there already. -/
def ensureDirectory (workspace : Workspace) (path : Path) : Except FileError Workspace :=
  match workspace.makeDirectory path with
  | .ok made => .ok made
  | .error error => if workspace.isDirectory path then .ok workspace else .error error

/--
Makes a directory, given by its components from the last to the first, and those that enclose it.

The enclosing ones are made only where something on the way is missing. What was made stays when a
later step fails.
-/
def ensureDirectoriesUp (workspace : Workspace) (root : Text) :
    (reversedParts : List Text) → Workspace × Except FileError Unit
  | [] =>
    match workspace.ensureDirectory ⟨root, []⟩ with
    | .ok made => (made, .ok ())
    | .error error => (workspace, .error error)
  | part :: enclosing =>
    let path : Path := ⟨root, (part :: enclosing).reverse⟩
    match workspace.ensureDirectory path with
    | .ok made => (made, .ok ())
    | .error error =>
      -- Only what is missing on the way is mended by making the enclosing directories.
      if error.cause = .notFound then
        match workspace.ensureDirectoriesUp root enclosing with
        | (enclosed, .error error) => (enclosed, .error error)
        | (enclosed, .ok ()) =>
          match enclosed.ensureDirectory path with
          | .ok made => (made, .ok ())
          | .error error => (enclosed, .error error)
      else (workspace, .error error)

/-- Makes a directory and those that enclose it, unless they are there already. -/
def ensureDirectories (workspace : Workspace) (path : Path) : Workspace × Except FileError Unit :=
  workspace.ensureDirectoriesUp path.root path.parts.reverse

/-- The names that lead from one location down to another, outermost first. -/
def namesBelow? (upper lower : Location) : Option (List Text) :=
  if upper.isSuffixOf lower then some (lower.take (lower.length - upper.length)).reverse else none

/-- The files below the working directory, by their paths from there. -/
def files (workspace : Workspace) : List (Text × Bytes) :=
  workspace.nodes.filterMap fun entry =>
    match entry.2 with
    | .file content =>
      (namesBelow? workspace.home entry.1).map fun names => (join ['/'] names, content)
    | .directory => none

end Workspace

end EntityDto
