import EntityDto.Proofs.Conversion.Reparse
import EntityDto.Proofs.File.Directories
import EntityDto.Proofs.File.Names
import EntityDto.Proofs.Generation.Agreement

/-!
What generating files does to a tree of files: the outputs are written in their order, each of them
in full or not at all, and every other regular file stays as it is.
-/

namespace EntityDto

open Text

namespace Workspace

variable {workspace before middle after : Workspace} {target : Path} {place : Location}
  {outputs more : List Location}

/--
A location holds a content in full: the file there reads as the content with one line feed at its
end, in place of those that ended it.
-/
def HoldsInFull (workspace : Workspace) (location : Location) (content : Text) : Prop :=
  ∃ body feeds bytes, content = body ++ feeds ∧ (∀ char ∈ feeds, char = '\n')
    ∧ body.getLast? ≠ some '\n' ∧ workspace.node? location = some (.file bytes)
    ∧ Utf8.decode bytes = .ok (body ++ ['\n'])

/-- Outside of the outputs, the regular files of two workspaces are the same. -/
def KeepsFiles (before after : Workspace) (outputs : List Location) : Prop :=
  ∀ location ∉ outputs, ∀ content,
    after.node? location = some (.file content) ↔ before.node? location = some (.file content)

/-- A path leads to a directory, which is at a place. -/
structure DirectoryAt (workspace : Workspace) (target : Path) (place : Location) : Prop where
  located : workspace.locate target = .ok place
  isDirectory : workspace.node? place = some .directory

/-- A path leads to the same directory as long as the directories stay. -/
theorem DirectoryAt.keeps (stands : before.DirectoryAt target place)
    (keeps : KeepsDirectories before after) : after.DirectoryAt target place where
  located := keeps.locate stands.located
  isDirectory := keeps.directory place stands.isDirectory

/-- Files that are kept twice are kept outside of both lists of outputs. -/
theorem KeepsFiles.trans (first : KeepsFiles before middle outputs)
    (second : KeepsFiles middle after more) : KeepsFiles before after (outputs ++ more) := by
  intro location outside content
  simp only [List.mem_append, not_or] at outside
  exact (second location outside.2 content).trans (first location outside.1 content)

/-- What a location holds in full stays there where the location is no output. -/
theorem HoldsInFull.keeps {location : Location} {content : Text}
    (holds : before.HoldsInFull location content) (keeps : KeepsFiles before after outputs)
    (outside : location ∉ outputs) : after.HoldsInFull location content := by
  obtain ⟨body, feeds, bytes, split, feed, last, file, decodes⟩ := holds
  exact ⟨body, feeds, bytes, split, feed, last, (keeps location outside bytes).mpr file, decodes⟩

/-- A finished content that is put at a location is held there in full. -/
theorem holdsInFull_put (workspace : Workspace) (name : Text) (content : Text) :
    (workspace.put (name :: place) (.file (finished content))).HoldsInFull (name :: place)
      content := by
  obtain ⟨feeds, split, feed, ends⟩ := exists_eq_dropEndWhile_append (· = '\n') content
  refine ⟨_, feeds, finished content, split, ?_, ?_, node?_put_self _ _ _ _, Utf8.decode_encode _⟩
  · exact fun char member => of_decide_eq_true (feed char member)
  · -- The body ends where no line feed could be taken any more.
    intro last
    exact of_decide_eq_false (ends '\n' last) rfl

/-- A file that is put where no directory stands leaves every directory. -/
theorem keepsDirectories_put {location : Location} (content : Bytes)
    (unoccupied : workspace.node? location ≠ some .directory) :
    KeepsDirectories workspace (workspace.put location (.file content)) where
  home := rfl
  directory other isDirectory := by
    have different : other ≠ location := by
      rintro rfl
      exact unoccupied isDirectory
    rw [node?_put_of_ne workspace _ different, isDirectory]

/-- Only the location where a node is put changes. -/
theorem keepsFiles_put (location : Location) (node : Node) :
    KeepsFiles workspace (workspace.put location node) [location] := by
  intro other outside content
  rw [List.mem_singleton] at outside
  rw [node?_put_of_ne workspace node outside]

/-- Directories that are added change no regular file. -/
theorem AddsDirectories.keepsFiles (adds : AddsDirectories before after) :
    KeepsFiles before after [] :=
  fun location _ content => adds.file_iff location content

/--
In a directory that is there, a file is written at its name, unless a directory has the name.

Making the directories on the way finds them all there, so it adds none.
-/
theorem writeFile_eq {file : GeneratedFile} (stands : workspace.DirectoryAt target place)
    (isName : IsFileName file.path) :
    workspace.writeFile target file
      = if workspace.node? (file.path :: place) = some .directory then
          (workspace, .error ⟨.isDirectory, ⟨target.root, target.parts ++ [file.path]⟩⟩)
        else (workspace.put (file.path :: place) (.file (finished file.content)), .ok ()) := by
  have enclosing : (⟨target.root, target.parts ++ [file.path]⟩ : Path).parent = target := by
    rw [Path.parent, List.dropLast_concat]
  have there : workspace.isDirectory target = true :=
    isDirectory_iff.mpr ⟨place, stands.located, stands.isDirectory⟩
  have located := locate_child stands.located stands.isDirectory isName.ne_up
  rw [writeFile, isName.append]
  simp only [enclosing, ensureDirectories_of_isDirectory there, writeBytes, located]
  -- The name is free, or that of a file, or that of a directory.
  cases workspace.node? (file.path :: place) with
  | none => simp
  | some node => cases node <;> simp

/--
What writing some files at a place has done: these files are there in full, and all other regular
files and all directories are as before.
-/
structure Wrote (before after : Workspace) (place : Location) (written : List GeneratedFile) :
    Prop where
  directories : KeepsDirectories before after
  files : KeepsFiles before after (written.map fun file => file.path :: place)
  complete : ∀ file ∈ written, after.HoldsInFull (file.path :: place) file.content

/-- Adding directories writes no file. -/
theorem AddsDirectories.wrote (adds : AddsDirectories before after) (place : Location) :
    Wrote before after place [] where
  directories := adds.keepsDirectories
  files := adds.keepsFiles
  complete := by simp

/-- What is written on top of added directories is written on top of the workspace before. -/
theorem Wrote.behind {written : List GeneratedFile} (wrote : Wrote middle after place written)
    (adds : AddsDirectories before middle) : Wrote before after place written where
  directories := adds.keepsDirectories.trans wrote.directories
  files := adds.keepsFiles.trans wrote.files
  complete := wrote.complete

/-- A file is written, and then others of different names: all of them are. -/
theorem Wrote.cons {file : GeneratedFile} {rest : List GeneratedFile}
    (unoccupied : before.node? (file.path :: place) ≠ some .directory)
    (different : ∀ other ∈ rest, other.path ≠ file.path)
    (wrote : Wrote (before.put (file.path :: place) (.file (finished file.content))) after place
      rest) :
    Wrote before after place (file :: rest) where
  directories := (keepsDirectories_put _ unoccupied).trans wrote.directories
  files := (keepsFiles_put _ _).trans wrote.files
  complete := by
    intro other member
    rcases List.mem_cons.mp member with rfl | behind
    · -- None of the later files has the name of this one, so it stays complete.
      refine (holdsInFull_put before other.path other.content).keeps wrote.files ?_
      intro output
      obtain ⟨later, isLater, same⟩ := List.mem_map.mp output
      exact different later isLater (List.cons.inj same).1
    · exact wrote.complete other behind

/--
In a directory that is there, the first of the files are written, and all of them if nothing fails.

The induction is on the files, each of which finds the directory where the one before it did.
-/
theorem wrote_writeEach {files : List GeneratedFile} (stands : workspace.DirectoryAt target place)
    (names : ∀ file ∈ files, IsFileName file.path)
    (distinct : files.Pairwise fun file other => file.path ≠ other.path) :
    ∃ written, written <+: files
      ∧ Wrote workspace (workspace.writeEach target files).1 place written
      ∧ ((workspace.writeEach target files).2 = .ok () ↔ written = files) := by
  induction files generalizing workspace with
  | nil =>
    exact ⟨[], List.prefix_rfl, (AddsDirectories.refl workspace).wrote place, by simp [writeEach]⟩
  | cons file rest ih =>
    obtain ⟨different, distinct⟩ := List.pairwise_cons.mp distinct
    rw [writeEach, writeFile_eq stands (names file List.mem_cons_self)]
    by_cases occupied : workspace.node? (file.path :: place) = some .directory
    · -- The write fails, so nothing is written from here on.
      simp only [occupied, if_true]
      exact ⟨[], List.nil_prefix, (AddsDirectories.refl workspace).wrote place, by simp⟩
    · simp only [occupied, if_false]
      obtain ⟨written, isPrefix, wrote, complete⟩ :=
        ih (stands.keeps (keepsDirectories_put (finished file.content) occupied))
          (fun other member => names other (List.mem_cons_of_mem _ member)) distinct
      refine ⟨file :: written, List.cons_prefix_cons.mpr ⟨rfl, isPrefix⟩,
        wrote.cons occupied ?_, ?_⟩
      · intro other member
        exact (different other (isPrefix.subset member)).symm
      · rw [complete, List.cons.injEq, and_iff_right rfl]

/-- In a directory that is there, no write fails unless a directory has the name of a file. -/
theorem writeEach_eq_ok {files : List GeneratedFile} (stands : workspace.DirectoryAt target place)
    (names : ∀ file ∈ files, IsFileName file.path)
    (unoccupied : ∀ file ∈ files, workspace.node? (file.path :: place) ≠ some .directory) :
    (workspace.writeEach target files).2 = .ok () := by
  induction files generalizing workspace with
  | nil => rfl
  | cons file rest ih =>
    have free := unoccupied file List.mem_cons_self
    rw [writeEach, writeFile_eq stands (names file List.mem_cons_self), if_neg free]
    refine ih (stands.keeps (keepsDirectories_put (finished file.content) free))
      (fun other member => names other (List.mem_cons_of_mem _ member)) ?_
    intro other member
    -- At the name that was written stands a file now, and no other name has changed.
    by_cases same : other.path :: place = file.path :: place
    · rw [same, node?_put_self]
      simp
    · rw [node?_put_of_ne _ _ same]
      exact unoccupied other (List.mem_cons_of_mem _ member)

/--
Writing files under a directory adds directories at most, or finds the directory in the end and
writes the first of the files there, all of them if nothing fails.
-/
theorem wrote_writeFiles (workspace : Workspace) (target : Path) {files : List GeneratedFile}
    (names : ∀ file ∈ files, IsFileName file.path)
    (distinct : files.Pairwise fun file other => file.path ≠ other.path) :
    let outcome := workspace.writeFiles target files
    (outcome.2 ≠ .ok () ∧ AddsDirectories workspace outcome.1)
    ∨ ∃ place written, outcome.1.DirectoryAt target place ∧ written <+: files
      ∧ Wrote workspace outcome.1 place written ∧ (outcome.2 = .ok () ↔ written = files) := by
  have adds := addsDirectories_ensureDirectories workspace target
  have there : (workspace.ensureDirectories target).2 = .ok () →
      (workspace.ensureDirectories target).1.isDirectory target = true :=
    isDirectory_ensureDirectories
  -- Writing begins once the directory is there, and what was added before stays.
  rw [writeFiles]
  generalize workspace.ensureDirectories target = outcome at adds there
  obtain ⟨ready, error | ⟨⟩⟩ := outcome
  · exact .inl ⟨by simp, adds⟩
  · obtain ⟨place, located, isDirectory⟩ := isDirectory_iff.mp (there rfl)
    have stands : ready.DirectoryAt target place := ⟨located, isDirectory⟩
    obtain ⟨written, isPrefix, wrote, complete⟩ := wrote_writeEach stands names distinct
    exact .inr ⟨place, written, stands.keeps wrote.directories, isPrefix, wrote.behind adds,
      complete⟩

/-- The files of an entity have file names, and these differ. -/
theorem names_generatedFiles {source : Text} {entity : Entity}
    (found : Entity.ofSource? source = some entity) (options : Options) :
    (∀ file ∈ entity.generatedFiles source options, IsFileName file.path)
    ∧ (entity.generatedFiles source options).Pairwise fun file other => file.path ≠ other.path := by
  have word := Entity.allWord_baseName found
  -- The base name is a word, so neither name leaves the directory, and they end differently.
  constructor
  · intro file member
    simp only [Entity.generatedFiles, List.mem_cons, List.not_mem_nil, or_false] at member
    rcases member with rfl | rfl
    · exact isFileName_requestFileName word
    · exact isFileName_responseFileName word
  · simp [Entity.generatedFiles, requestFileName_ne_responseFileName]

/--
Generating the files of an entity under a directory adds directories at most and fails, or writes
the first of the files there, and returns them exactly if it wrote them all.
-/
theorem wrote_generate {entityPath : Path} {source : Text} {entity : Entity}
    (isRead : workspace.readText entityPath = .ok source)
    (found : Entity.ofSource? source = some entity) (target : Path) (options : Options) :
    let files := entity.generatedFiles source options
    let generation := workspace.generate entityPath (some target) options
    (AddsDirectories workspace generation.workspace
      ∧ ∀ returned, generation.result ≠ .ok returned)
    ∨ ∃ place written, generation.workspace.DirectoryAt target place ∧ written <+: files
      ∧ Wrote workspace generation.workspace place written
      ∧ ∀ returned, generation.result = .ok returned ↔ returned = files ∧ written = files := by
  intro files generation
  obtain ⟨tree, result⟩ := generate_written isRead found target options
  obtain ⟨names, distinct⟩ := names_generatedFiles found options
  have wrote := wrote_writeFiles workspace target names distinct
  simp only [generation, tree, result, files]
  -- The result of the generation is an error exactly where the outcome of the writes is one.
  generalize workspace.writeFiles target (entity.generatedFiles source options) = outcome at wrote ⊢
  obtain ⟨left, error | ⟨⟩⟩ := outcome
  · rcases wrote with ⟨-, adds⟩ | ⟨place, written, stands, isPrefix, wrote, complete⟩
    · exact .inl ⟨adds, by simp [Except.mapError, Except.map]⟩
    · refine .inr ⟨place, written, stands, isPrefix, wrote, fun returned => ?_⟩
      rw [← complete]
      simp [Except.mapError, Except.map]
  · rcases wrote with ⟨failed, -⟩ | ⟨place, written, stands, isPrefix, wrote, complete⟩
    · exact absurd rfl failed
    · refine .inr ⟨place, written, stands, isPrefix, wrote, fun returned => ?_⟩
      rw [← complete]
      simp [Except.mapError, Except.map, eq_comm]

/-- In a directory that is there, the files are returned unless a directory has the name of one. -/
theorem generate_eq_ok {entityPath : Path} {source : Text} {entity : Entity} {options : Options}
    (isRead : workspace.readText entityPath = .ok source)
    (found : Entity.ofSource? source = some entity) (stands : workspace.DirectoryAt target place)
    (unoccupied : ∀ file ∈ entity.generatedFiles source options,
      workspace.node? (file.path :: place) ≠ some .directory) :
    (workspace.generate entityPath (some target) options).result
      = .ok (entity.generatedFiles source options) := by
  -- The directory is there and no name in it is taken by another one, so nothing can fail.
  have there : workspace.isDirectory target = true :=
    isDirectory_iff.mpr ⟨place, stands.located, stands.isDirectory⟩
  have written : (workspace.writeFiles target (entity.generatedFiles source options)).2
      = .ok () := by
    rw [writeFiles, ensureDirectories_of_isDirectory there]
    exact writeEach_eq_ok stands (names_generatedFiles found options).1 unoccupied
  rw [(generate_written isRead found target options).2, written]
  rfl

/-- Files are returned only for an entity that was read. -/
theorem exists_entity_of_returned {entityPath : Path} {directory : Option Path} {options : Options}
    {files : List GeneratedFile}
    (returned : (workspace.generate entityPath directory options).result = .ok files) :
    ∃ source entity, workspace.readText entityPath = .ok source
      ∧ Entity.ofSource? source = some entity := by
  -- A file that cannot be read and a text without a class both end the generation.
  cases isRead : workspace.readText entityPath with
  | error error => simp [generate_of_unreadable isRead] at returned
  | ok source =>
    cases found : Entity.ofSource? source with
    | none => simp [generate_of_classMissing isRead found] at returned
    | some entity => exact ⟨source, entity, rfl, found⟩

/-- Without an output directory, or without an entity to read, the workspace is left as it is. -/
theorem workspace_generate_of_unwritten {entityPath : Path} {directory : Option Path}
    (unwritten : directory = none ∨ ∀ source, workspace.readText entityPath = .ok source →
      Entity.ofSource? source = none) (options : Options) :
    (workspace.generate entityPath directory options).workspace = workspace := by
  cases isRead : workspace.readText entityPath with
  | error error => rw [generate_of_unreadable isRead]
  | ok source =>
    cases found : Entity.ofSource? source with
    | none => rw [generate_of_classMissing isRead found]
    | some entity =>
      -- There is an entity, so what is missing is the output directory.
      rcases unwritten with rfl | missing
      · rw [generate_unwritten isRead found]
      · rw [missing source isRead] at found
        simp at found

/-- What is generated does not depend on whether audit fields are to be stripped. -/
theorem generate_stripAudit (workspace : Workspace) (entityPath : Path) (directory : Option Path)
    (options : Options) (strips : Bool) :
    workspace.generate entityPath directory { options with stripAudit := strips }
      = workspace.generate entityPath directory options :=
  rfl

/-- Files that are returned are the two of an entity that was read. -/
theorem eq_generatedFiles_of_returned {entityPath : Path} {directory : Option Path}
    {options : Options} {files : List GeneratedFile}
    (returned : (workspace.generate entityPath directory options).result = .ok files) :
    ∃ source entity, workspace.readText entityPath = .ok source
      ∧ Entity.ofSource? source = some entity ∧ files = entity.generatedFiles source options := by
  obtain ⟨source, entity, isRead, found⟩ := exists_entity_of_returned returned
  refine ⟨source, entity, isRead, found, ?_⟩
  cases directory with
  | none =>
    rw [generate_unwritten isRead found] at returned
    exact (Except.ok.inj returned).symm
  | some target =>
    -- Writing cannot have failed, and it does not change what is returned.
    rw [(generate_written isRead found target options).2] at returned
    cases outcome : (workspace.writeFiles target (entity.generatedFiles source options)).2 with
    | error error => simp [outcome, Except.mapError, Except.map] at returned
    | ok done =>
      rw [outcome] at returned
      exact (Except.ok.inj returned).symm

/-- The files that are returned are two, and they have file names. -/
theorem exists_pair_of_returned {entityPath : Path} {directory : Option Path}
    {options : Options} {files : List GeneratedFile}
    (returned : (workspace.generate entityPath directory options).result = .ok files) :
    ∃ request response, files = [request, response]
      ∧ IsFileName request.path ∧ IsFileName response.path := by
  obtain ⟨source, entity, -, found, rfl⟩ := eq_generatedFiles_of_returned returned
  obtain ⟨names, -⟩ := names_generatedFiles found options
  exact ⟨_, _, rfl, names _ List.mem_cons_self, names _ (List.mem_cons_of_mem _ List.mem_cons_self)⟩

/-- Where files are returned, they are all written in the output directory. -/
theorem wrote_of_returned {entityPath : Path} {directory : Option Path} {options : Options}
    {files : List GeneratedFile} (isTarget : target ∈ directory)
    (returned : (workspace.generate entityPath directory options).result = .ok files) :
    let after := (workspace.generate entityPath directory options).workspace
    ∃ place, after.DirectoryAt target place ∧ Wrote workspace after place files := by
  obtain rfl : directory = some target := isTarget
  obtain ⟨source, entity, isRead, found, rfl⟩ := eq_generatedFiles_of_returned returned
  -- The generation did not fail, so it wrote all of its files and not only the first ones.
  rcases wrote_generate isRead found target options with
    ⟨-, failed⟩ | ⟨place, written, stands, -, wrote, complete⟩
  · exact absurd returned (failed _)
  · obtain ⟨-, rfl⟩ := (complete _).mp returned
    exact ⟨place, stands, wrote⟩

/-- Where a file is refused because it declares no class, nothing is written. -/
theorem workspace_of_refused {entityPath path : Path} {directory : Option Path}
    {options : Options}
    (refused : (workspace.generate entityPath directory options).result
      = .error (.classMissing path)) :
    (workspace.generate entityPath directory options).workspace = workspace := by
  refine workspace_generate_of_unwritten (.inr fun source isRead => ?_) options
  cases found : Entity.ofSource? source with
  | none => rfl
  | some entity =>
    -- For an entity the result would be its files or a failure to write them.
    cases directory with
    | none =>
      rw [generate_unwritten isRead found] at refused
      cases refused
    | some target =>
      rw [(generate_written isRead found target options).2] at refused
      cases outcome : (workspace.writeFiles target (entity.generatedFiles source options)).2 <;>
        simp [outcome, Except.mapError, Except.map] at refused

/--
What generating the files of an entity file does to the tree.

The names of the files are single components, so each file is a direct child of the output
directory. Where the files are returned and there is an output directory, both are in it in full.
They are returned where the output directory is there already, with no directory of either name.
Without an output directory, or without an entity to read, the workspace is left as it is. Where
writing fails, at most the request file was written, in full. Every other regular file is the same
in each case.
-/
theorem generate_effects (workspace : Workspace) (entityPath : Path) (directory : Option Path)
    (options : Options) :
    let generation := workspace.generate entityPath directory options
    (∀ source entity, Entity.ofSource? source = some entity →
      ∀ file ∈ entity.generatedFiles source options, IsFileName file.path
        ∧ ∀ target : Path, target.append (Path.ofText file.path)
          = ⟨target.root, target.parts ++ [file.path]⟩)
    ∧ (∀ target ∈ directory, ∀ files, generation.result = .ok files →
      ∃ request response place, files = [request, response]
        ∧ IsFileName request.path ∧ IsFileName response.path ∧ request.path ≠ response.path
        ∧ generation.workspace.DirectoryAt target place
        ∧ generation.workspace.HoldsInFull (request.path :: place) request.content
        ∧ generation.workspace.HoldsInFull (response.path :: place) response.content
        ∧ KeepsFiles workspace generation.workspace
          [request.path :: place, response.path :: place])
    ∧ (∀ target ∈ directory, ∀ source entity place,
      workspace.readText entityPath = .ok source → Entity.ofSource? source = some entity →
      workspace.DirectoryAt target place →
      (∀ file ∈ entity.generatedFiles source options,
        workspace.node? (file.path :: place) ≠ some .directory) →
      generation.result = .ok (entity.generatedFiles source options))
    ∧ ((directory = none ∨ ∀ source, workspace.readText entityPath = .ok source →
        Entity.ofSource? source = none) → generation.workspace = workspace)
    ∧ (∀ target ∈ directory, ∀ source entity error,
      workspace.readText entityPath = .ok source → Entity.ofSource? source = some entity →
      generation.result = .error error →
      KeepsFiles workspace generation.workspace []
      ∨ ∃ request response place, entity.generatedFiles source options = [request, response]
        ∧ generation.workspace.DirectoryAt target place
        ∧ generation.workspace.HoldsInFull (request.path :: place) request.content
        ∧ KeepsFiles workspace generation.workspace [request.path :: place]) := by
  intro generation
  refine ⟨?_, ?_, ?_, ?_, ?_⟩
  · intro source entity found file member
    have isName := (names_generatedFiles found options).1 file member
    exact ⟨isName, isName.append⟩
  · rintro target rfl files returned
    obtain ⟨source, entity, isRead, found⟩ := exists_entity_of_returned returned
    rcases wrote_generate isRead found target options with
      ⟨-, failed⟩ | ⟨place, written, stands, -, wrote, complete⟩
    · exact absurd returned (failed files)
    · -- All files were written, and they are the two of the entity.
      obtain ⟨rfl, rfl⟩ := (complete files).mp returned
      obtain ⟨names, -⟩ := names_generatedFiles found options
      let request : GeneratedFile :=
        ⟨requestFileName entity.baseName, entity.requestDto source options⟩
      let response : GeneratedFile :=
        ⟨responseFileName entity.baseName, entity.responseDto source options⟩
      have isRequest : request ∈ entity.generatedFiles source options := List.mem_cons_self
      have isResponse : response ∈ entity.generatedFiles source options :=
        List.mem_cons_of_mem _ List.mem_cons_self
      exact ⟨request, response, place, rfl, names request isRequest, names response isResponse,
        requestFileName_ne_responseFileName entity.baseName, stands,
        wrote.complete request isRequest, wrote.complete response isResponse, wrote.files⟩
  · rintro target rfl source entity place isRead found stands unoccupied
    exact generate_eq_ok isRead found stands unoccupied
  · exact fun unwritten => workspace_generate_of_unwritten unwritten options
  · rintro target rfl source entity error isRead found failed
    rcases wrote_generate isRead found target options with
      ⟨adds, -⟩ | ⟨place, written, stands, isPrefix, wrote, complete⟩
    · -- The directory could not be made, and no file was touched.
      exact .inl adds.keepsFiles
    · -- Not all files were written, so there is at most the first one.
      have unfinished : written ≠ entity.generatedFiles source options := by
        intro all
        have returned := (complete _).mpr ⟨rfl, all⟩
        simp [generation, returned] at failed
      simp only [Entity.generatedFiles, List.prefix_cons_iff, List.prefix_nil] at isPrefix
      rcases isPrefix with rfl | ⟨_, rfl, rfl | ⟨_, rfl, rfl⟩⟩
      · exact .inl wrote.files
      · exact .inr ⟨_, _, place, rfl, stands, wrote.complete _ List.mem_cons_self, wrote.files⟩
      · exact absurd rfl unfinished

/-- A tree with the file and, in the output directory, a directory with the response's name. -/
def blockedWorkspace : Workspace where
  nodes := [(["doc.ts".toList], .file (Utf8.encode pairedEntityText)),
    (["out".toList], .directory), (["doc.res.dto.ts".toList, "out".toList], .directory)]
  home := []

/-- Both files are written where nothing is in the way, and at most one where one name is taken. -/
theorem generate_effects_blocked :
    let options : Options := {}
    let free := pairedEntityWorkspace.generate (Path.ofText "doc.ts".toList)
      (some (Path.ofText "out".toList)) options
    let blocked := blockedWorkspace.generate (Path.ofText "doc.ts".toList)
      (some (Path.ofText "out".toList)) options
    (∃ request response place, free.result = .ok [request, response]
      ∧ free.workspace.HoldsInFull (request.path :: place) request.content
      ∧ free.workspace.HoldsInFull (response.path :: place) response.content
      ∧ KeepsFiles pairedEntityWorkspace free.workspace
        [request.path :: place, response.path :: place])
    ∧ blocked.result = .error (.file ⟨.isDirectory, ⟨[], ["out".toList, "doc.res.dto.ts".toList]⟩⟩)
    ∧ ∃ outputs, KeepsFiles blockedWorkspace blocked.workspace outputs ∧ outputs.length ≤ 1 := by
  intro options free blocked
  let files := pairedEntity.generatedFiles (unifyBreaks pairedEntityText) options
  have decodes := Utf8.decode_encode pairedEntityText
  have found : Entity.ofSource? (unifyBreaks pairedEntityText) = some pairedEntity := by
    decide +kernel
  have entryFree : pairedEntityWorkspace.readText (Path.ofText "doc.ts".toList)
      = .ok (unifyBreaks pairedEntityText) := readText_of_decode rfl decodes
  have entryBlocked : blockedWorkspace.readText (Path.ofText "doc.ts".toList)
      = .ok (unifyBreaks pairedEntityText) := readText_of_decode rfl decodes
  -- The writes are run: all go through in the one tree, and the second is refused in the other.
  have written : (pairedEntityWorkspace.writeFiles (Path.ofText "out".toList) files).2
      = .ok () := by
    decide +kernel
  have refused : (blockedWorkspace.writeFiles (Path.ofText "out".toList) files).2
      = .error ⟨.isDirectory, ⟨[], ["out".toList, "doc.res.dto.ts".toList]⟩⟩ := by
    decide +kernel
  have returned : free.result = .ok files := by
    rw [(generate_written entryFree found _ options).2, written]
    rfl
  have failed : blocked.result
      = .error (.file ⟨.isDirectory, ⟨[], ["out".toList, "doc.res.dto.ts".toList]⟩⟩) := by
    rw [(generate_written entryBlocked found _ options).2, refused]
    rfl
  obtain ⟨-, effects, -, -, -⟩ := generate_effects pairedEntityWorkspace
    (Path.ofText "doc.ts".toList) (some (Path.ofText "out".toList)) options
  obtain ⟨request, response, place, same, -, -, -, -, holdsRequest, holdsResponse, keeps⟩ :=
    effects _ rfl files returned
  obtain ⟨-, -, -, -, failure⟩ := generate_effects blockedWorkspace
    (Path.ofText "doc.ts".toList) (some (Path.ofText "out".toList)) options
  refine ⟨⟨request, response, place, same ▸ returned, holdsRequest, holdsResponse, keeps⟩,
    failed, ?_⟩
  rcases failure _ rfl _ _ _ entryBlocked found failed with none | ⟨_, _, place, -, -, -, one⟩
  · exact ⟨[], none, by simp⟩
  · exact ⟨_, one, by simp⟩

end Workspace

end EntityDto
