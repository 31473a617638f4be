import EntityDto.Proofs.Conversion.Body

/-!
Forcing every field to be optional changes what requests say about presence and nothing else: two
requests differ in the lines that say so, and two responses do not differ at all.
-/

namespace EntityDto

open Text

/-- The line of a property that may be left out. -/
def optionalLine : Text :=
  "  @IsOptional()".toList

/-- The line of a property that must be given, and with more than the empty text. -/
def notEmptyLine : Text :=
  "  @IsNotEmpty()".toList

/-- Whether a line says if a value must be there. -/
def saysPresence (line : Text) : Bool :=
  line = optionalLine || line = notEmptyLine

/-- A text without the lines that say if a value must be there. -/
def withoutPresence (text : Text) : Text :=
  joinLines ((feedLines text).filter fun line => !saysPresence line)

/-- A property line ends in a semicolon, so it says nothing about presence. -/
theorem saysPresence_propertyLine (name type : Text) :
    saysPresence (propertyLine name type) = false := by
  -- A property line ends in a semicolon, and both presence lines in a parenthesis.
  have ends := getLast?_propertyLine name type
  have optionalEnds : optionalLine.getLast? = some ')' := by decide
  have notEmptyEnds : notEmptyLine.getLast? = some ')' := by decide
  simp only [saysPresence, Bool.or_eq_false_iff, decide_eq_false_iff_not]
  constructor
  · intro same
    rw [same, optionalEnds] at ends
    exact absurd ends (by decide)
  · intro same
    rw [same, notEmptyEnds] at ends
    exact absurd ends (by decide)

namespace Field

variable {field : Field}

/-- The lines of a field in a request that come before what says if a value must be there. -/
def linesBeforePresence (field : Field) : List Text :=
  field.requestTransforms ++ field.typeValidator?.toList.map member

/-- The lines that say if a request must give the field a value. -/
def presenceLines (field : Field) (options : Options) : List Text :=
  (field.presenceValidator? (field.isRequired options)).toList.map member

/-- The lines of a field in a request that come behind what says if a value must be there. -/
def linesBehindPresence (field : Field) : List Text :=
  [propertyLine field.name field.requestType, blankLine]

/-- Options come into the block of a request in one place. -/
theorem requestLines_eq_append (field : Field) (options : Options) :
    field.requestLines options
      = field.linesBeforePresence ++ field.presenceLines options ++ field.linesBehindPresence := by
  rw [requestLines, validators, List.map_append, linesBeforePresence, presenceLines,
    linesBehindPresence]
  simp only [List.append_assoc]

/-- A check of a value's type says nothing about presence. -/
theorem saysPresence_typeValidator {content : Text} (chosen : field.typeValidator? = some content) :
    saysPresence (member content) = false := by
  unfold typeValidator? at chosen
  dsimp only at chosen
  split at chosen
  · -- The check of an enumeration differs from both lines in its name, whatever the type.
    cases chosen
    rfl
  · repeat' split at chosen
    all_goals cases chosen
    all_goals decide

/-- Around them, no line of a block says anything about presence. -/
theorem saysPresence_around (field : Field) :
    (∀ line ∈ field.linesBeforePresence, saysPresence line = false)
    ∧ ∀ line ∈ field.linesBehindPresence, saysPresence line = false := by
  -- In front stand transformers and checks of types, behind the property and a blank line.
  constructor
  · intro line listed
    rcases List.mem_append.mp listed with transforms | checks
    · have each : ∀ line ∈ requestTransformLines, saysPresence line = false := by decide
      exact each line (field.requestTransforms_subset transforms)
    · obtain ⟨content, chosen, rfl⟩ := List.mem_map.mp checks
      exact saysPresence_typeValidator (Option.mem_toList.mp chosen)
  · intro line listed
    simp only [linesBehindPresence, List.mem_cons, List.not_mem_nil, or_false] at listed
    rcases listed with rfl | rfl
    · exact saysPresence_propertyLine _ _
    · decide

/-- What the presence lines are: one for a field that is not required, and else one for text. -/
theorem presenceLines_eq (field : Field) (options : Options) :
    field.presenceLines options
      = if field.isRequired options then
          if field.type.withoutBlanks = "string".toList then [notEmptyLine] else []
        else [optionalLine] := by
  unfold presenceLines presenceValidator?
  -- A field that is not required is optional, whatever its type is.
  cases field.isRequired options with
  | false => rfl
  | true =>
    simp only [Bool.not_true, Bool.false_eq_true, if_false, if_true]
    split <;> rfl

/-- The lines of a block that say something about presence are the presence lines. -/
theorem filter_saysPresence (field : Field) (options : Options) :
    (field.requestLines options).filter saysPresence = field.presenceLines options := by
  -- A block splits at its presence lines, and neither side of them holds another one.
  obtain ⟨before, behind⟩ := field.saysPresence_around
  have noneBefore : field.linesBeforePresence.filter saysPresence = [] :=
    List.filter_eq_nil_iff.mpr fun line listed => by simp [before line listed]
  have noneBehind : field.linesBehindPresence.filter saysPresence = [] :=
    List.filter_eq_nil_iff.mpr fun line listed => by simp [behind line listed]
  have all : (field.presenceLines options).filter saysPresence = field.presenceLines options := by
    rw [presenceLines_eq]
    split
    · split <;> rfl
    · rfl
  rw [requestLines_eq_append, List.filter_append, List.filter_append, noneBefore, all, noneBehind,
    List.nil_append, List.append_nil]

/-- The other lines of a block do not depend on the options. -/
theorem filter_not_saysPresence (field : Field) (options : Options) :
    ((field.requestLines options).filter fun line => !saysPresence line)
      = field.linesBeforePresence ++ field.linesBehindPresence := by
  -- A block splits at its presence lines, which are all that is left out.
  obtain ⟨before, behind⟩ := field.saysPresence_around
  have allBefore : (field.linesBeforePresence.filter fun line => !saysPresence line)
      = field.linesBeforePresence :=
    List.filter_eq_self.mpr fun line listed => by simp [before line listed]
  have allBehind : (field.linesBehindPresence.filter fun line => !saysPresence line)
      = field.linesBehindPresence :=
    List.filter_eq_self.mpr fun line listed => by simp [behind line listed]
  have none : ((field.presenceLines options).filter fun line => !saysPresence line) = [] := by
    rw [presenceLines_eq]
    split
    · split <;> rfl
    · rfl
  rw [requestLines_eq_append, List.filter_append, List.filter_append, allBefore, none, allBehind,
    List.append_nil]

/-- A block says as often as its presence lines do that a value may be left out, or must not be. -/
theorem count_requestLines {line : Text} (presence : saysPresence line = true)
    (options : Options) :
    (field.requestLines options).count line = (field.presenceLines options).count line := by
  rw [← filter_saysPresence, List.count_filter presence]

/-- A block says once that a value may be left out where it must not be given, and else never. -/
theorem count_optionalLine (field : Field) (options : Options) :
    (field.requestLines options).count optionalLine
      = if field.isRequired options then 0 else 1 := by
  rw [count_requestLines (by decide), presenceLines_eq]
  -- There is one presence line at most, and it is this one unless the field is required.
  split
  · split <;> decide
  · decide

/-- A block asks for more than the empty text where a text must be given, and nowhere else. -/
theorem mem_notEmptyLine_iff (field : Field) (options : Options) :
    notEmptyLine ∈ field.requestLines options
      ↔ field.isRequired options = true ∧ field.type.withoutBlanks = "string".toList := by
  rw [← List.count_pos_iff, count_requestLines (by decide), List.count_pos_iff, presenceLines_eq]
  -- The two presence lines differ, so a field that is not required has the other one only.
  have different : notEmptyLine ≠ optionalLine := by decide
  cases field.isRequired options with
  | false => simp [different]
  | true =>
    simp only [if_true, true_and]
    split
    · next text => exact iff_of_true (List.mem_singleton.mpr rfl) text
    · next other => exact iff_of_false List.not_mem_nil other

end Field

namespace Entity

/-- A response depends on the options only in the path that the transformers come from. -/
theorem responseDto_congr {options other : Options}
    (sameTransformer : options.transformerImport = other.transformerImport) (source : Text)
    (entity : Entity) : entity.responseDto source options = entity.responseDto source other := by
  rw [responseDto, responseDto, responseDtoLines, responseDtoLines, sameTransformer]

/-- Requests with the same import paths agree once nothing is said about presence. -/
theorem withoutPresence_requestDto {source : Text} {entity : Entity}
    (found : ofSource? source = some entity) {options other : Options}
    (sameCommon : options.commonDtoImport = other.commonDtoImport)
    (sameTransformer : options.transformerImport = other.transformerImport) :
    withoutPresence (entity.requestDto source options)
      = withoutPresence (entity.requestDto source other) := by
  have above : requestAbove source entity options = requestAbove source entity other := by
    rw [requestAbove, requestAbove, sameCommon, sameTransformer]
  -- What is left of each block is the same, and so is all that stands around the blocks.
  simp only [withoutPresence, feedLines_requestDto found, above, List.filter_append,
    List.filter_cons, List.filter_flatMap, Field.filter_not_saysPresence]

/--
Two conversions of a source with a class that take the same import paths differ in presence only.
Their responses are equal, and so are their requests without the lines that say something about it.
A request has one block for each field it keeps. Where every field is forced to be optional, each
block says so once; elsewhere it says so for the fields that are optional or get their value from
the database, and asks the others for more than the empty text if they are texts.
-/
theorem requestDto_presence {source : Text} {entity : Entity}
    (found : ofSource? source = some entity) (options other : Options)
    (sameCommon : options.commonDtoImport = other.commonDtoImport)
    (sameTransformer : options.transformerImport = other.transformerImport) :
    entity.responseDto source options = entity.responseDto source other
    ∧ withoutPresence (entity.requestDto source options)
      = withoutPresence (entity.requestDto source other)
    ∧ HasBody (entity.requestDto source options) entity.requestOpening
      (entity.requestFields.map fun field => field.requestLines options)
    ∧ ∀ field ∈ entity.requestFields,
      (options.forceOptional = true →
        (field.requestLines options).count optionalLine = 1
        ∧ notEmptyLine ∉ field.requestLines options)
      ∧ (options.forceOptional = false →
        (field.requestLines options).count optionalLine
          = (if field.optional || field.isGeneratedKey then 1 else 0)
        ∧ (notEmptyLine ∈ field.requestLines options
          ↔ optionalLine ∉ field.requestLines options
            ∧ field.type.withoutBlanks = "string".toList))
      ∧ ¬(optionalLine ∈ field.requestLines options
        ∧ notEmptyLine ∈ field.requestLines options) := by
  refine ⟨responseDto_congr sameTransformer source entity,
    withoutPresence_requestDto found sameCommon sameTransformer,
    hasBody_requestDto found options, ?_⟩
  intro field _
  have once := field.count_optionalLine options
  have text := field.mem_notEmptyLine_iff options
  have optional : optionalLine ∈ field.requestLines options
      ↔ field.isRequired options = false := by
    rw [← List.count_pos_iff, once]
    cases field.isRequired options <;> decide
  refine ⟨fun forced => ?_, fun free => ?_, ?_⟩
  · -- A forced field is not required, whatever else it is.
    have notRequired : field.isRequired options = false := by
      rw [Field.isRequired, forced]
      rfl
    rw [once, text, notRequired]
    exact ⟨rfl, fun required => Bool.false_ne_true required.1⟩
  · have required : field.isRequired options
        = !(field.optional || field.isGeneratedKey) := by
      rw [Field.isRequired, free, Bool.not_or]
      rfl
    constructor
    · rw [once, required]
      cases field.optional || field.isGeneratedKey <;> rfl
    · rw [text, optional, Bool.not_eq_false]
  · rw [optional, text]
    rintro ⟨notRequired, required, -⟩
    rw [notRequired] at required
    exact Bool.false_ne_true required

/-- A class of three fields: a key that is counted, a text, and a text that may be left out. -/
def threeKindsSource : Text :=
  joinLines ["export class AEntity \x7b".toList,
    "  @PrimaryGeneratedColumn()".toList, "  id: number;".toList,
    "  name: string;".toList, "  note?: string;".toList, "\x7d".toList]

/-- The entity of that class. -/
def threeKindsEntity : Entity where
  className := "AEntity".toList
  baseName := "A".toList
  fields := [⟨"id".toList, "number".toList, false, ["@PrimaryGeneratedColumn()".toList], none⟩,
    ⟨"name".toList, "string".toList, false, [], none⟩,
    ⟨"note".toList, "string".toList, true, [], none⟩]

/-- Unless it is forced to be optional, of those fields only the text must be given. -/
theorem requestDto_presence_threeKinds :
    ofSource? threeKindsSource = some threeKindsEntity
    ∧ threeKindsEntity.responseDto threeKindsSource { forceOptional := true }
      = threeKindsEntity.responseDto threeKindsSource { forceOptional := false }
    ∧ withoutPresence (threeKindsEntity.requestDto threeKindsSource { forceOptional := true })
      = withoutPresence
        (threeKindsEntity.requestDto threeKindsSource { forceOptional := false })
    ∧ (∀ field ∈ threeKindsEntity.fields,
      (field.requestLines { forceOptional := true }).count optionalLine = 1)
    ∧ threeKindsEntity.fields.map
        (fun field => (field.requestLines { forceOptional := false }).count optionalLine)
      = [1, 0, 1] := by
  have found : ofSource? threeKindsSource = some threeKindsEntity := by decide +kernel
  -- None of the fields is a relation or a timestamp, so the request keeps all three.
  have all : threeKindsEntity.requestFields = threeKindsEntity.fields := by decide +kernel
  obtain ⟨responses, requests, -, forced⟩ :=
    requestDto_presence found { forceOptional := true } { forceOptional := false } rfl rfl
  obtain ⟨-, -, -, free⟩ :=
    requestDto_presence found { forceOptional := false } { forceOptional := true } rfl rfl
  rw [all] at forced free
  refine ⟨found, responses, requests, fun field listed => ((forced field listed).1 rfl).1, ?_⟩
  have counts := fun field listed => ((free field listed).2.1 rfl).1
  rw [List.map_congr_left counts]
  decide +kernel

end Entity

end EntityDto
