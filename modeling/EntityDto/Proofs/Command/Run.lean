import EntityDto.Command.Basic
import EntityDto.Proofs.Generation.Effects

/-!
The command does what generating files does: its exit code tells the outcome, its output shows the
files or where they were written, and it changes nothing else.
-/

namespace EntityDto

open Text

namespace Command

variable {reads : SettingsReading} {workspace : Workspace} {environment : Environment}
  {settings : Settings} {rank : Nat} {vector : List Text} {arguments : Arguments}

/-- With valid settings, a known log level and arguments that are read, files are generated. -/
theorem runReading_eq (valid : reads workspace environment = .ok settings)
    (known : levelRank? settings.logLevel = some rank)
    (parsed : Arguments.read vector = .ok arguments) :
    let generation :=
      workspace.generate arguments.entity arguments.out (options settings arguments)
    runReading reads workspace environment vector = {
      workspace := generation.workspace
      result := exitOf rank arguments generation
      generationLog := logText rank generation.events } := by
  simp only [runReading, valid, parsed, runWith, known]

/-- An argument that clears an option comes before the setting. -/
theorem options_eq (settings : Settings) (arguments : Arguments) :
    options settings arguments = {
      forceOptional := if arguments.noForceOptional then false else settings.defaultForceOptional
      stripAudit := if arguments.keepAudit then false else settings.defaultStripAudit
      commonDtoImport := settings.commonDtoImport
      transformerImport := settings.transformerImport } := by
  unfold options
  cases arguments.noForceOptional <;> cases arguments.keepAudit <;> rfl

/-- The exit code that an outcome of generating files has. -/
def codeOf : Except GenerationError (List GeneratedFile) → Nat
  | .ok _ => 0
  | .error (.file error) => if error.cause = .notFound then 2 else 1
  | .error _ => 1

/-- The code is zero where files are returned, and only there. -/
theorem codeOf_eq_zero_iff {result : Except GenerationError (List GeneratedFile)} :
    codeOf result = 0 ↔ ∃ files, result = .ok files := by
  -- Of the four outcomes, the one with files is the only one that is no failure.
  rcases result with (error | bad | path) | files
  · simp only [codeOf]
    split <;> simp
  · simp [codeOf]
  · simp [codeOf]
  · simp [codeOf]

/-- The command ends with the code of the outcome. -/
theorem exitCode_eq_codeOf (rank : Nat) (arguments : Arguments) (generation : Generation)
    (workspace : Workspace) (log : Text) :
    CommandRun.exitCode ⟨workspace, exitOf rank arguments generation, log⟩
      = codeOf generation.result := by
  rcases generation with ⟨after, events, (error | bad | path) | files⟩
  · -- A missing file ends the command, and any other failure of a file is passed on.
    simp only [CommandRun.exitCode, exitOf, codeOf]
    by_cases missing : error.cause = .notFound <;> simp [missing]
  · rfl
  · rfl
  · rfl

/-- Where files are returned, they are reported behind the log. -/
theorem output_of_returned (rank : Nat) (arguments : Arguments) {generation : Generation}
    {files : List GeneratedFile} (returned : generation.result = .ok files) (workspace : Workspace)
    (log : Text) :
    CommandRun.output ⟨workspace, exitOf rank arguments generation, log⟩
      = logText rank generation.events ++ report arguments.out files := by
  simp only [CommandRun.output, exitOf, returned]

/-- Two files that are not written are shown one behind the other. -/
theorem report_none (request response : GeneratedFile) :
    report none [request, response] = shown request ++ shown response :=
  congrArg (shown request ++ ·) (List.append_nil (shown response))

/-- Two files that were written are listed by their paths, right below the output directory. -/
theorem report_some (target : Path) {request response : GeneratedFile}
    (isRequest : IsFileName request.path) (isResponse : IsFileName response.path) :
    report (some target) [request, response]
      = "  ".toList ++ (⟨target.root, target.parts ++ [request.path]⟩ : Path).text ++ ['\n']
        ++ ("  ".toList ++ (⟨target.root, target.parts ++ [response.path]⟩ : Path).text ++ ['\n']) := by
  unfold report
  simp only [List.flatMap_cons, List.flatMap_nil, List.append_nil, listed, isRequest.append,
    isResponse.append]

/--
The command does what generating files does, and tells how it went, however settings are read.

With valid settings, a known log level and arguments that are read, it leaves the tree as the
generation does. Its exit code is zero exactly where files are returned, two where a file is
missing, one where the entity file declares no class, and another one than zero in any other case.
Where the entity file cannot be read or declares no class, the tree stays as it was. Where files are
returned, these are two: without an output directory both are shown behind the log, and with one
their paths are, at which they are held in full, with every other regular file as it was. Whether
audit fields are to be stripped does not matter, neither as an argument nor as a setting.
-/
theorem run_refines_generate (valid : reads workspace environment = .ok settings)
    (known : levelRank? settings.logLevel = some rank)
    (parsed : Arguments.read vector = .ok arguments) :
    let options : Options := {
      forceOptional := if arguments.noForceOptional then false else settings.defaultForceOptional
      stripAudit := if arguments.keepAudit then false else settings.defaultStripAudit
      commonDtoImport := settings.commonDtoImport
      transformerImport := settings.transformerImport }
    let generation := workspace.generate arguments.entity arguments.out options
    let ended := runReading reads workspace environment vector
    let log := logText rank generation.events
    ended.workspace = generation.workspace
    ∧ (ended.exitCode = 0 ↔ ∃ files, generation.result = .ok files)
    ∧ (∀ error, generation.result = .error (.file error) → error.cause = .notFound →
      ended.exitCode = 2)
    ∧ (∀ path, generation.result = .error (.classMissing path) →
      ended.exitCode = 1 ∧ ended.workspace = workspace)
    ∧ (∀ error, workspace.readBytes arguments.entity = .error error →
      generation.result = .error (.file error) ∧ ended.workspace = workspace)
    ∧ (∀ files, generation.result = .ok files → ∃ request response, files = [request, response]
      ∧ (arguments.out = none → ended.output = log
        ++ ("// ".toList ++ request.path ++ ['\n'] ++ request.content ++ ['\n', '\n'])
        ++ ("// ".toList ++ response.path ++ ['\n'] ++ response.content ++ ['\n', '\n']))
      ∧ ∀ target ∈ arguments.out,
        let requestPath : Path := ⟨target.root, target.parts ++ [request.path]⟩
        let responsePath : Path := ⟨target.root, target.parts ++ [response.path]⟩
        ended.output = log ++ ("  ".toList ++ requestPath.text ++ ['\n'])
          ++ ("  ".toList ++ responsePath.text ++ ['\n'])
        ∧ ∃ requestPlace responsePlace, ended.workspace.locate requestPath = .ok requestPlace
          ∧ ended.workspace.locate responsePath = .ok responsePlace
          ∧ ended.workspace.HoldsInFull requestPlace request.content
          ∧ ended.workspace.HoldsInFull responsePlace response.content
          ∧ Workspace.KeepsFiles workspace ended.workspace [requestPlace, responsePlace])
    ∧ ∀ otherEnvironment otherVector strips keeps,
      reads workspace otherEnvironment = .ok { settings with defaultStripAudit := strips } →
      Arguments.read otherVector = .ok { arguments with keepAudit := keeps } →
      runReading reads workspace otherEnvironment otherVector = ended := by
  intro options generation ended log
  have ends := runReading_eq valid known parsed
  have code : ended.exitCode = codeOf generation.result := by
    simp only [ended, ends, exitCode_eq_codeOf, options_eq]
    rfl
  have tree : ended.workspace = generation.workspace := by
    simp only [ended, ends, options_eq]
    rfl
  refine ⟨tree, ?_, ?_, ?_, ?_, ?_, ?_⟩
  · rw [code]
    exact codeOf_eq_zero_iff
  · intro error failed missing
    rw [code, failed, codeOf, if_pos missing]
  · intro path refused
    rw [code, tree, refused]
    exact ⟨rfl, Workspace.workspace_of_refused refused⟩
  · intro error unreadable
    have unread : workspace.readText arguments.entity = .error (.file error) := by
      simp only [Workspace.readText, unreadable]
    rw [tree]
    simp only [generation, Workspace.generate_of_unreadable unread, and_self]
  · intro files returned
    have prints : ended.output = log ++ report arguments.out files := by
      simp only [ended, ends, options_eq]
      exact output_of_returned rank arguments returned _ _
    obtain ⟨request, response, rfl, isRequest, isResponse⟩ :=
      Workspace.exists_pair_of_returned returned
    refine ⟨request, response, rfl, ?_, ?_⟩
    · intro unwritten
      rw [prints, unwritten, report_none, ← List.append_assoc]
      rfl
    · intro target isTarget requestPath responsePath
      obtain ⟨place, stands, wrote⟩ := Workspace.wrote_of_returned isTarget returned
      have out : arguments.out = some target := isTarget
      rw [prints, out, report_some target isRequest isResponse, ← List.append_assoc, tree]
      exact ⟨rfl, request.path :: place, response.path :: place,
        Workspace.locate_child stands.located stands.isDirectory isRequest.ne_up,
        Workspace.locate_child stands.located stands.isDirectory isResponse.ne_up,
        wrote.complete request List.mem_cons_self,
        wrote.complete response (List.mem_cons_of_mem _ List.mem_cons_self), wrote.files⟩
  · -- The other run generates the same, for what differs is never looked at.
    intro otherEnvironment otherVector strips keeps otherValid otherParsed
    have apart : Command.options { settings with defaultStripAudit := strips }
        { arguments with keepAudit := keeps }
      = { Command.options settings arguments with
          stripAudit := (if keeps then some false else none).getD strips } := rfl
    rw [runReading_eq otherValid known otherParsed, apart, Workspace.generate_stripAudit]
    exact ends.symm

/-- The files are written and listed, and it does not matter whether audit fields are kept. -/
theorem run_refines_generate_paired :
    let vector := ["doc.ts".toList, "--out".toList, "out".toList]
    let ended := run pairedEntityWorkspace [] vector
    ended.exitCode = 0
    ∧ (∃ log, ended.output = log ++ "  out/doc.dto.ts\n".toList ++ "  out/doc.res.dto.ts\n".toList)
    ∧ run pairedEntityWorkspace [("DEFAULT_STRIP_AUDIT".toList, "false".toList)]
      ("--keep-audit".toList :: vector) = ended := by
  intro vector ended
  let arguments : Arguments :=
    ⟨Path.ofText "doc.ts".toList, some (Path.ofText "out".toList), false, false⟩
  have valid : readSettings pairedEntityWorkspace [] = .ok {} := rfl
  have otherValid : readSettings pairedEntityWorkspace
      [("DEFAULT_STRIP_AUDIT".toList, "false".toList)] = .ok { defaultStripAudit := false } := rfl
  have parsed : Arguments.read vector = .ok arguments := by decide +kernel
  have otherParsed : Arguments.read ("--keep-audit".toList :: vector)
      = .ok { arguments with keepAudit := true } := by decide +kernel
  have known : levelRank? ({} : Settings).logLevel = some Severity.info.rank := by decide
  obtain ⟨-, succeeds, -, -, -, reports, unchanged⟩ := run_refines_generate valid known parsed
  -- The file is read, and both outputs can be written.
  let files := pairedEntity.generatedFiles (unifyBreaks pairedEntityText) {}
  have isRead : pairedEntityWorkspace.readText arguments.entity
      = .ok (unifyBreaks pairedEntityText) :=
    Workspace.readText_of_decode rfl (Utf8.decode_encode pairedEntityText)
  have found : Entity.ofSource? (unifyBreaks pairedEntityText) = some pairedEntity := by
    decide +kernel
  have written : (pairedEntityWorkspace.writeFiles (Path.ofText "out".toList) files).2
      = .ok () := by
    decide +kernel
  have returned : (pairedEntityWorkspace.generate arguments.entity arguments.out {}).result
      = .ok files := by
    rw [(Workspace.generate_written isRead found (Path.ofText "out".toList) {}).2, written]
    rfl
  obtain ⟨request, response, pair, -, lists⟩ := reports files returned
  obtain ⟨rfl, others⟩ := List.cons.inj pair
  obtain ⟨rfl, -⟩ := List.cons.inj others
  obtain ⟨shows, -⟩ := lists _ rfl
  have requestLine : "  ".toList ++ (⟨[], ["out".toList, requestFileName "Doc".toList]⟩ : Path).text
      ++ ['\n'] = "  out/doc.dto.ts\n".toList := by decide +kernel
  have responseLine :
      "  ".toList ++ (⟨[], ["out".toList, responseFileName "Doc".toList]⟩ : Path).text ++ ['\n']
        = "  out/doc.res.dto.ts\n".toList := by decide +kernel
  let log := logText Severity.info.rank
    (pairedEntityWorkspace.generate arguments.entity arguments.out {}).events
  refine ⟨succeeds.mpr ⟨files, returned⟩, ⟨log, shows.trans ?_⟩,
    unchanged _ _ false true otherValid otherParsed⟩
  exact congrArg₂ (· ++ ·) (congrArg (log ++ ·) requestLine) responseLine

end Command

end EntityDto
