import EntityDto.Generation
import EntityDto.Proofs.Conversion.LineEndings
import EntityDto.Proofs.Conversion.Outcome
import EntityDto.Proofs.Text.Utf8

/-!
Generating files and converting a text agree: the files of an entity file are what its text is
converted to, and the file is refused exactly where the text converts to no entity.
-/

namespace EntityDto

open Text

/-- Where every carriage return goes with a line feed, unifying line endings does not matter. -/
theorem convert_unifyBreaks {source : Text} (paired : ReturnsPaired source) (options : Options) :
    convert (unifyBreaks source) options = convert source options := by
  -- Each step of a conversion does the same for either kind of line breaks.
  have blank := isBlankText_mergeBreaks source
  have parsed := Entity.read_mergeBreaks paired
  have converted := fun entity : Entity => entity.converted_mergeBreaks paired options
  simp only [unifyBreaks_eq_mergeBreaks paired, convert, blank, parsed, converted]

namespace Workspace

variable {workspace : Workspace} {entityPath : Path} {source : Text} {entity : Entity}

/-- A file whose bytes are text is read with unified line endings. -/
theorem readText_of_decode {bytes : Bytes} (isRead : workspace.readBytes entityPath = .ok bytes)
    (decodes : Utf8.decode bytes = .ok source) :
    workspace.readText entityPath = .ok (unifyBreaks source) := by
  simp only [readText, isRead, decodes]

/-- A file that cannot be read or decoded is left alone, and so is everything else. -/
theorem generate_of_unreadable {error : GenerationError}
    (unreadable : workspace.readText entityPath = .error error) (directory : Option Path)
    (options : Options) :
    workspace.generate entityPath directory options = ⟨workspace, [], .error error⟩ := by
  simp only [generate, unreadable]

/-- A file without a class is refused, and everything is left alone. -/
theorem generate_of_classMissing (isRead : workspace.readText entityPath = .ok source)
    (missing : Entity.ofSource? source = none) (directory : Option Path) (options : Options) :
    workspace.generate entityPath directory options
      = ⟨workspace, (Entity.read source).events, .error (.classMissing entityPath)⟩ := by
  simp only [generate, isRead, Entity.read_value, missing]

/-- Without an output directory the files are returned, and everything is left alone. -/
theorem generate_unwritten (isRead : workspace.readText entityPath = .ok source)
    (found : Entity.ofSource? source = some entity) (options : Options) :
    workspace.generate entityPath none options
      = ⟨workspace, (Entity.read source).events, .ok (entity.generatedFiles source options)⟩ := by
  simp only [generate, isRead, Entity.read_value, found]

/-- With an output directory the files of an entity are written, and writing decides the result. -/
theorem generate_written (isRead : workspace.readText entityPath = .ok source)
    (found : Entity.ofSource? source = some entity) (target : Path) (options : Options) :
    let files := entity.generatedFiles source options
    let generation := workspace.generate entityPath (some target) options
    generation.workspace = (workspace.writeFiles target files).1
      ∧ generation.result
        = ((workspace.writeFiles target files).2.mapError GenerationError.file).map
          fun _ => files := by
  simp only [generate, isRead, Entity.read_value, found]
  -- The result follows the outcome of the last write.
  generalize workspace.writeFiles target (entity.generatedFiles source options) = outcome
  obtain ⟨written, error | ⟨⟩⟩ := outcome <;> exact ⟨rfl, rfl⟩

end Workspace

/-- A path is never written as the empty text. -/
theorem Path.text_ofText_ne_nil (name : Text) : (Path.ofText name).text ≠ [] := by
  rw [text]
  split
  · simp
  · next written =>
    intro empty
    obtain ⟨noRoot, noParts⟩ := List.append_eq_nil_iff.mp empty
    -- A relative path has a component then, and no component is empty.
    have some : (Path.ofText name).parts ≠ [] := by simpa [noRoot] using written
    obtain ⟨first, others, parts⟩ := List.exists_cons_of_ne_nil some
    have nonempty : first ≠ [] := by
      have listed : first ∈ (Path.ofText name).parts := by simp [parts]
      rw [ofText] at listed
      have kept := (List.mem_filter.mp listed).2
      simp only [Bool.and_eq_true, Bool.not_eq_true', List.isEmpty_eq_false_iff] at kept
      exact kept.1
    rw [parts] at noParts
    cases others with
    | nil => exact nonempty noParts
    | cons second others => simp [join, nonempty] at noParts

/--
An entity file and its text agree on what is generated.

The text is converted with its line endings unified. Where it has an entity, and unless writing them
fails, the files are two: the request text and the response text of the conversion, under the names
that the base name gives. Where it has none, which is where it is blank or declares no class, and
only there, the file is refused by its path. Where each carriage return goes with a line feed, the
text converts to the same request and response as it stands.
-/
theorem Workspace.generate_agrees_with_convert (workspace : Workspace) (name : Text)
    (directory : Option Path) (options : Options) {bytes : Bytes} {source : Text}
    (isRead : workspace.readBytes (Path.ofText name) = .ok bytes)
    (decodes : Utf8.decode bytes = .ok source) :
    let outcome := (convert (unifyBreaks source) options).value
    let result := (workspace.generate (Path.ofText name) directory options).result
    (∀ entity, outcome.entity? = some entity →
      let files : List GeneratedFile := [⟨requestFileName entity.baseName, outcome.request⟩,
        ⟨responseFileName entity.baseName, outcome.response⟩]
      (∀ target ∈ directory, (workspace.writeFiles target files).2 = .ok ()) → result = .ok files)
    ∧ (∀ path, result = .error (.classMissing path) ↔
      path = Path.ofText name ∧ outcome.entity? = none)
    ∧ (outcome.entity? = none ↔
      isBlankText (unifyBreaks source) = true ∨ className? (unifyBreaks source) = none)
    ∧ (GenerationError.classMissing (Path.ofText name)).message
      = (Path.ofText name).text ++ ": ".toList ++ ConversionError.classMissing.message
    ∧ (ReturnsPaired source →
      outcome.request = (convert source options).value.request
        ∧ outcome.response = (convert source options).value.response) := by
  intro outcome result
  have isText := readText_of_decode isRead decodes
  have sameEntity : outcome.entity? = Entity.ofSource? (unifyBreaks source) := entity?_convert _ _
  refine ⟨?_, ?_, ?_, ?_, ?_⟩
  · intro entity isEntity files noFault
    rw [sameEntity] at isEntity
    have converted : outcome = entity.converted (unifyBreaks source) options :=
      convert_of_ofSource? isEntity options
    -- The two ways to render the entity take it from the same text.
    have sameFiles : files = entity.generatedFiles (unifyBreaks source) options := by
      simp only [files, converted]
      rfl
    cases directory with
    | none => simp only [result, generate_unwritten isText isEntity, sameFiles]
    | some target =>
      have written := (generate_written isText isEntity target options).2
      rw [← sameFiles, noFault target rfl] at written
      exact written
  · intro path
    rw [sameEntity]
    cases found : Entity.ofSource? (unifyBreaks source) with
    | none =>
      simp only [result, generate_of_classMissing isText found, Except.error.injEq,
        GenerationError.classMissing.injEq, and_true]
      exact eq_comm
    | some entity =>
      -- An entity that was found is returned, unless a write fails, which is another error.
      cases directory with
      | none => simp [result, generate_unwritten isText found]
      | some target =>
        have written := (generate_written isText found target options).2
        simp only [result, written]
        cases (workspace.writeFiles target _).2 <;> simp [Except.mapError, Except.map]
  · rw [sameEntity, Entity.ofSource?, Option.map_eq_none_iff]
    constructor
    · exact .inr
    · rintro (blank | missing)
      · rw [isBlankText, List.isEmpty_iff, trim_eq_nil_iff] at blank
        exact className?_eq_none_of_allBlank blank
      · exact missing
  · have named : (Path.ofText name).text.isEmpty = false :=
      List.isEmpty_eq_false_iff.mpr (Path.text_ofText_ne_nil name)
    simp only [GenerationError.message, messageAbout, named, Bool.false_eq_true, if_false]
  · intro paired
    have same : outcome = (convert source options).value :=
      congrArg Logged.value (convert_unifyBreaks paired options)
    rw [same]
    exact ⟨rfl, rfl⟩

/-- The text of an entity file whose lines end in pairs. -/
def pairedEntityText : Text :=
  "export class DocEntity \x7b\r\n  id: number;\r\n\x7d\r\n".toList

/-- The entity of that text. -/
def pairedEntity : Entity :=
  ⟨"DocEntity".toList, "Doc".toList, [⟨"id".toList, "number".toList, false, [], none⟩]⟩

/-- A tree with the text in a file at its root. -/
def pairedEntityWorkspace : Workspace where
  nodes := [(["doc.ts".toList], .file (Utf8.encode pairedEntityText))]
  home := []

/-- The file gives what its text converts to as it stands. -/
theorem Workspace.generate_agrees_with_convert_paired :
    pairedEntityWorkspace.readBytes (Path.ofText "doc.ts".toList)
        = .ok (Utf8.encode pairedEntityText)
    ∧ Utf8.decode (Utf8.encode pairedEntityText) = .ok pairedEntityText
    ∧ (pairedEntityWorkspace.generate (Path.ofText "doc.ts".toList) none {}).result
      = .ok [⟨"doc.dto.ts".toList, (convert pairedEntityText {}).value.request⟩,
        ⟨"doc.res.dto.ts".toList, (convert pairedEntityText {}).value.response⟩] := by
  have isRead : pairedEntityWorkspace.readBytes (Path.ofText "doc.ts".toList)
      = .ok (Utf8.encode pairedEntityText) := rfl
  have decodes := Utf8.decode_encode pairedEntityText
  -- The returns are paired, so converting the untranslated text gives the same files.
  obtain ⟨generated, -, -, -, untranslated⟩ :=
    generate_agrees_with_convert pairedEntityWorkspace "doc.ts".toList none {} isRead decodes
  obtain ⟨sameRequest, sameResponse⟩ := untranslated (by decide +kernel)
  have isEntity : (convert (unifyBreaks pairedEntityText) {}).value.entity?
      = some pairedEntity := by
    rw [entity?_convert]
    decide +kernel
  have requestName : requestFileName pairedEntity.baseName = "doc.dto.ts".toList := by
    decide +kernel
  have responseName : responseFileName pairedEntity.baseName = "doc.res.dto.ts".toList := by
    decide +kernel
  have files := generated _ isEntity (by simp)
  rw [sameRequest, sameResponse, requestName, responseName] at files
  exact ⟨isRead, decodes, files⟩

end EntityDto
