import EntityDto.Command.Basic

/-! The command on a real disk: what it may touch is loaded, and what it changed is stored. -/

namespace EntityDto

open Text

/-- The location of the current directory. -/
def currentLocation : IO Location := do
  let directory ← IO.currentDir
  return (Path.ofText directory.toString.toList).parts.reverse

/-- The name of a location on disk. -/
def diskName (location : Location) : String :=
  String.ofList ('/' :: join ['/'] location.reverse)

/-- What stands on disk at a location. -/
def loadNode (location : Location) : IO (Option Node) := do
  let place := (← IO.currentDir) / diskName location
  if ← place.isDir then return some .directory
  if ← place.pathExists then
    let bytes ← IO.FS.readBinFile place
    return some (.file bytes.toList)
  return none

/-- Loads what stands on the way to a path and at its end. -/
def loadPath (workspace : Workspace) (path : Path) : IO Workspace := do
  let mut loaded := workspace
  for station in path.stations do
    if let .ok location := loaded.locate station then
      if let some node ← loadNode location then
        loaded := loaded.put location node
  return loaded

/-- Stores a node that a run has left. -/
def storeNode (location : Location) : Node → IO Unit
  | .directory => IO.FS.createDir (diskName location)
  | .file content => IO.FS.writeBinFile (diskName location) ⟨content.toArray⟩

/-- Stores the nodes that a run has changed, in the order in which it changed them. -/
def storeChanges (before after : Workspace) : IO Unit := do
  for (location, node) in after.nodes do
    unless before.node? location = some node do
      storeNode location node

/-- The environment values that settings are read from, in capitals or in small letters. -/
def loadEnvironment : IO Environment := do
  let mut environment : Environment := []
  for name in Settings.names do
    for spelling in [name, name.map Char.toUpper] do
      if let some value ← IO.getEnv (String.ofList spelling) then
        environment := environment ++ [(spelling, value.toList)]
  return environment

/-- The wording of a failure that the command passes on. -/
def CommandError.text : CommandError → Text
  | .settings problems =>
    problems.flatMap fun problem =>
      join ['.'] problem.location ++ ": ".toList ++ problem.fault.message ++ ['\n']
  | .unknownLevel name => unknownLevelMessage name ++ ['\n']
  | .generation error => error.message ++ ['\n']

/-- Loads all that a run with these arguments may look at. -/
def loadWorkspace (arguments : List Text) : IO Workspace := do
  let home ← currentLocation
  let empty : Workspace := ⟨[(home, .directory)], home⟩
  let configured ← loadPath empty Command.settingsPath
  match Arguments.read arguments with
  | .error _ => return configured
  | .ok arguments =>
    let mut loaded ← loadPath configured arguments.entity
    for path in Command.outputPaths loaded arguments do
      loaded ← loadPath loaded path
    return loaded

/-- Runs the command on disk and tells its exit code. -/
def runOnDisk (arguments : List Text) : IO UInt32 := do
  let before ← loadWorkspace arguments
  let run := Command.run before (← loadEnvironment) arguments
  storeChanges before run.workspace
  IO.print (String.ofList run.output)
  match run.result with
  | .ok exit => IO.eprint (String.ofList exit.errorOutput)
  | .error error => IO.eprint (String.ofList error.text)
  return run.exitCode.toUInt32

end EntityDto

/-- The command. -/
def main (arguments : List String) : IO UInt32 :=
  EntityDto.runOnDisk (arguments.map String.toList)
