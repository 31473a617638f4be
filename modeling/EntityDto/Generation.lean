import EntityDto.Conversion
import EntityDto.File.Workspace
import EntityDto.FileName

/-! Generated files: made from an entity file and written under a directory. -/

namespace EntityDto

open Text

/-- A file to write, with its path below the output directory. -/
structure GeneratedFile where
  path : Text
  content : Text
  deriving DecidableEq

/-- Why files cannot be generated. -/
inductive GenerationError where
  | file (error : FileError)
  | undecodable (bad : Utf8.BadBytes)
  /-- The entity file at this path declares no exported class. -/
  | classMissing (path : Path)
  deriving DecidableEq

/-- A message with the path it is about in front, unless the path is empty. -/
def messageAbout (path message : Text) : Text :=
  if path.isEmpty then message else path ++ ": ".toList ++ message

/-- The wording of a generation error. -/
def GenerationError.message : GenerationError → Text
  | .file error => error.message
  | .undecodable bad => bad.message
  | .classMissing path => messageAbout path.text ConversionError.classMissing.message

/-- The request and the response file of an entity. -/
def Entity.generatedFiles (source : Text) (entity : Entity) (options : Options) :
    List GeneratedFile :=
  [⟨requestFileName entity.baseName, entity.requestDto source options⟩,
    ⟨responseFileName entity.baseName, entity.responseDto source options⟩]

namespace Workspace

/-- Reads the text of a file, every kind of line ending becoming a line feed. -/
def readText (workspace : Workspace) (path : Path) : Except GenerationError Text :=
  match workspace.readBytes path with
  | .error error => .error (.file error)
  | .ok bytes =>
    match Utf8.decode bytes with
    | .error bad => .error (.undecodable bad)
    | .ok text => .ok (unifyBreaks text)

/-- The bytes of a generated file, which ends in exactly one line feed. -/
def finished (content : Text) : Bytes :=
  Utf8.encode (content.dropEndWhile (· = '\n') ++ ['\n'])

/-- Writes one generated file below a directory, making the directories on the way. -/
def writeFile (workspace : Workspace) (directory : Path) (file : GeneratedFile) :
    Workspace × Except FileError Unit :=
  let path := directory.append (Path.ofText file.path)
  match workspace.ensureDirectories path.parent with
  | (ready, .error error) => (ready, .error error)
  | (ready, .ok ()) =>
    match ready.writeBytes path (finished file.content) with
    | .ok written => (written, .ok ())
    | .error error => (ready, .error error)

/-- Writes generated files one after another; those before a failure stay. -/
def writeEach (workspace : Workspace) (directory : Path) :
    List GeneratedFile → Workspace × Except FileError Unit
  | [] => (workspace, .ok ())
  | file :: rest =>
    match workspace.writeFile directory file with
    | (written, .error error) => (written, .error error)
    | (written, .ok ()) => written.writeEach directory rest

/-- Makes the directory and writes generated files below it. -/
def writeFiles (workspace : Workspace) (directory : Path) (files : List GeneratedFile) :
    Workspace × Except FileError Unit :=
  match workspace.ensureDirectories directory with
  | (ready, .error error) => (ready, .error error)
  | (ready, .ok ()) => ready.writeEach directory files

end Workspace

/-- What a generation leaves behind: the files, the reports, and the result or the error. -/
structure Generation where
  workspace : Workspace
  events : List Event
  result : Except GenerationError (List GeneratedFile)

/-- Generates the files of an entity file; they are written only where a directory is given. -/
def Workspace.generate (workspace : Workspace) (entityPath : Path) (directory : Option Path)
    (options : Options) : Generation :=
  match workspace.readText entityPath with
  | .error error => ⟨workspace, [], .error error⟩
  | .ok source =>
    let parsed := Entity.read source
    match parsed.value with
    -- A blank file is refused like any other without a class.
    | none => ⟨workspace, parsed.events, .error (.classMissing entityPath)⟩
    | some entity =>
      let files := entity.generatedFiles source options
      match directory with
      | none => ⟨workspace, parsed.events, .ok files⟩
      | some directory =>
        match workspace.writeFiles directory files with
        | (written, .error error) => ⟨written, parsed.events, .error (.file error)⟩
        | (written, .ok ()) =>
          ⟨written, parsed.events ++ [.filesWritten entity.className files.length directory.text],
            .ok files⟩

end EntityDto
