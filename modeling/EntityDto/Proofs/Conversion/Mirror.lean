import EntityDto.Proofs.Conversion.Body

/-!
Request and response mirror each other: a value that one class takes in through a transformer, the
other gives out through its counterpart, and the types on both sides are those of the two forms.
-/

namespace EntityDto

open Text

/-- Whether a line passes a property's value through a transformer, whichever it is. -/
def isTransform (line : Text) : Bool :=
  line.startsWith (member "@Transform(".toList)

/-- Of a member whose decorators are transformers and then others, the transformers are found. -/
theorem filter_memberLines {transforms others : List Text} {name : Text}
    (isName : Declaration.IsName name) (type : Text)
    (transform : ∀ line ∈ transforms, isTransform line = true)
    (other : ∀ line ∈ others, isTransform line = false) :
    (memberLines (transforms ++ others) name type).filter isTransform = transforms := by
  -- Of the three parts of a block, only the transformers open like one.
  have kept : transforms.filter isTransform = transforms := List.filter_eq_self.mpr transform
  have dropped : others.filter isTransform = [] := by
    rw [List.filter_eq_nil_iff]
    exact fun line listed => Bool.not_eq_true _ ▸ other line listed
  have declaration : [propertyLine name type, blankLine].filter isTransform = [] := by
    rw [List.filter_eq_nil_iff]
    intro line listed
    simp only [List.mem_cons, List.not_mem_nil, or_false] at listed
    rcases listed with rfl | rfl
    · exact Bool.not_eq_true _ ▸ startsWith_propertyLine isName type "Transform(".toList
    · decide
  rw [memberLines, List.filter_append, List.filter_append, kept, dropped, declaration,
    List.append_nil, List.append_nil]

namespace Field

variable {field : Field}

/-- The transformer lines that responses are made of. -/
def responseTransformLines : List Text :=
  [transformLine "boolTransformer.from".toList, transformLine "dateTransformer.from".toList]

/-- Whatever a field is, its response has no transformer lines but these. -/
theorem responseTransforms_subset (field : Field) :
    field.responseTransforms ⊆ responseTransformLines := by
  -- Each of the two is chosen or left out by itself, and a relation has neither.
  unfold responseTransforms responseTransformLines
  split
  · simp
  · split <;> split <;> simp

/-- The transformer lines in the block of a request are those that were chosen for the field. -/
theorem WellFormed.filter_requestLines (wellFormed : field.WellFormed) (options : Options) :
    (field.requestLines options).filter isTransform = field.requestTransforms := by
  refine filter_memberLines wellFormed.isName field.requestType ?_ ?_
  · have each : ∀ line ∈ requestTransformLines, isTransform line = true := by decide
    exact fun line listed => each line (field.requestTransforms_subset listed)
  · intro line listed
    obtain ⟨content, isValidator, rfl⟩ := List.mem_map.mp listed
    -- A validator has another name, whatever type an enumeration check is about.
    rcases of_mem_validators isValidator with ⟨-, rfl⟩ | fixed
    · rfl
    · have each : ∀ content ∈ fixedValidators, isTransform (member content) = false := by decide
      exact each content fixed

/-- The transformer lines in the block of a response are those that were chosen for the field. -/
theorem WellFormed.filter_responseLines (wellFormed : field.WellFormed) :
    field.responseLines.filter isTransform = field.responseTransforms := by
  rw [responseLines_eq]
  -- All that a response exposes besides its transformers opens in another way.
  refine filter_memberLines wellFormed.isName field.responseType ?_ (by decide)
  have each : ∀ line ∈ responseTransformLines, isTransform line = true := by decide
  exact fun line listed => each line (field.responseTransforms_subset listed)

/-- Of two different lines, each is there exactly where it was chosen. -/
theorem mem_chosen_iff {first second : Text} (different : first ≠ second) (hasFirst hasSecond : Bool) :
    (first ∈ (if hasFirst then [first] else []) ++ (if hasSecond then [second] else [])
      ↔ hasFirst = true)
    ∧ (second ∈ (if hasFirst then [first] else []) ++ (if hasSecond then [second] else [])
      ↔ hasSecond = true) := by
  cases hasFirst <;> cases hasSecond <;> simp [different, Ne.symm different]

/-- The block of a request takes in a truth value or a date exactly where the field stores one. -/
theorem WellFormed.mem_requestLines_iff (wellFormed : field.WellFormed) (options : Options) :
    (transformLine "boolTransformer.to".toList ∈ field.requestLines options
      ↔ field.isTinyintBoolean = true)
    ∧ (transformLine "dateTransformer.to".toList ∈ field.requestLines options
      ↔ field.isDateColumn = true) := by
  -- Transformers are among the lines exactly where they are among those that were chosen.
  have chosen {line : Text} (transform : isTransform line = true) :
      line ∈ field.requestLines options ↔ line ∈ field.requestTransforms := by
    rw [← wellFormed.filter_requestLines options, List.mem_filter, and_iff_left transform]
  rw [chosen (by decide), chosen (by decide)]
  exact mem_chosen_iff (by decide) _ _

/-- Unless the field is a relation, the block of a response gives out what the request takes in. -/
theorem WellFormed.mem_responseLines_iff (wellFormed : field.WellFormed)
    (plain : field.isRelation = false) :
    (transformLine "boolTransformer.from".toList ∈ field.responseLines
      ↔ field.isTinyintBoolean = true)
    ∧ (transformLine "dateTransformer.from".toList ∈ field.responseLines
      ↔ (field.isDateColumn && !field.isAudit) = true) := by
  -- As in a request, but the transformers of a relation would be others.
  have chosen {line : Text} (transform : isTransform line = true) :
      line ∈ field.responseLines ↔ line ∈ field.responseTransforms := by
    rw [← wellFormed.filter_responseLines, List.mem_filter, and_iff_left transform]
  rw [chosen (by decide), chosen (by decide), responseTransforms, if_neg (by simp [plain])]
  exact mem_chosen_iff (by decide) _ _

/-- The block of a response has no transformer line where none was chosen. -/
theorem WellFormed.isTransform_responseLines (wellFormed : field.WellFormed)
    (none : field.responseTransforms = []) :
    ∀ line ∈ field.responseLines, isTransform line = false := by
  rw [← wellFormed.filter_responseLines, List.filter_eq_nil_iff] at none
  exact fun line listed => Bool.not_eq_true _ ▸ none line listed

/-- The block of a request has no transformer line where none was chosen. -/
theorem WellFormed.isTransform_requestLines (wellFormed : field.WellFormed) (options : Options)
    (none : field.requestTransforms = []) :
    ∀ line ∈ field.requestLines options, isTransform line = false := by
  rw [← wellFormed.filter_requestLines options, List.filter_eq_nil_iff] at none
  exact fun line listed => Bool.not_eq_true _ ▸ none line listed

end Field

/--
The transformers of a request and of a response are paired, whatever options each of them has.

A request has one block for each field that is neither a relation nor an audit timestamp, and a
response has one for each field. Between the two blocks of a field, a truth value stored as a number
is taken in by `to` and given out by `from`, and so is a date. The number of the one stands against
the truth value, and the date against text. Any other field has its declared type on both sides and
no transformer on either. A relation is given out without a transformer, and an audit timestamp
without one for dates.
-/
theorem Entity.transforms_mirrored {source : Text} {entity : Entity}
    (found : ofSource? source = some entity) (requestOptions responseOptions : Options) :
    let boolTo := transformLine "boolTransformer.to".toList
    let boolFrom := transformLine "boolTransformer.from".toList
    let dateTo := transformLine "dateTransformer.to".toList
    let dateFrom := transformLine "dateTransformer.from".toList
    HasBody (entity.requestDto source requestOptions) entity.requestOpening
      ((entity.fields.filter fun field => !field.isRelation && !field.isAudit).map
        fun field => field.requestLines requestOptions)
    ∧ HasBody (entity.responseDto source responseOptions) entity.responseOpening
      (entity.fields.map Field.responseLines)
    ∧ ∀ field ∈ entity.fields,
      let request := field.requestLines requestOptions
      let response := field.responseLines
      (field.isRelation = false → field.isAudit = false →
        ((boolTo ∈ request ↔ boolFrom ∈ response)
          ∧ (boolTo ∈ request ↔ field.isTinyintBoolean = true))
        ∧ ((dateTo ∈ request ↔ dateFrom ∈ response)
          ∧ (dateTo ∈ request ↔ field.isDateColumn = true))
        ∧ (field.isTinyintBoolean = true →
          Declares request field.name "number".toList
            ∧ Declares response field.name "boolean".toList)
        ∧ (field.isTinyintBoolean = false → field.isDateColumn = true →
          Declares request field.name field.type.trim
            ∧ Declares response field.name "string".toList)
        ∧ (field.isTinyintBoolean = false → field.isDateColumn = false →
          Declares request field.name field.type.trim
            ∧ Declares response field.name field.type.trim
            ∧ ∀ line ∈ request ++ response, isTransform line = false))
      ∧ (field.isRelation = true → ∀ line ∈ response, isTransform line = false)
      ∧ (field.isAudit = true → ∀ line ∈ response, isTransform line = true → line = boolFrom) := by
  intro boolTo boolFrom dateTo dateFrom
  refine ⟨hasBody_requestDto found requestOptions, hasBody_responseDto found responseOptions, ?_⟩
  intro field member request response
  have wellFormed := wellFormed_of_ofSource? found field member
  obtain ⟨boolIn, dateIn⟩ := wellFormed.mem_requestLines_iff requestOptions
  have asRequest := wellFormed.declares_requestLines requestOptions
  have asResponse := wellFormed.declares_responseLines
  refine ⟨?_, ?_, ?_⟩
  · intro plain kept
    obtain ⟨boolOut, dateOut⟩ := wellFormed.mem_responseLines_iff plain
    rw [kept, Bool.not_false, Bool.and_true] at dateOut
    refine ⟨⟨boolIn.trans boolOut.symm, boolIn⟩, ⟨dateIn.trans dateOut.symm, dateIn⟩, ?_, ?_, ?_⟩
    · intro tiny
      rw [Field.requestType, if_pos tiny] at asRequest
      simp only [Field.responseType, plain, tiny] at asResponse
      exact ⟨asRequest, asResponse⟩
    · intro notTiny date
      simp only [Field.requestType, notTiny] at asRequest
      simp only [Field.responseType, plain, notTiny, date, kept] at asResponse
      exact ⟨asRequest, asResponse⟩
    · intro notTiny noDate
      simp only [Field.requestType, notTiny] at asRequest
      simp only [Field.responseType, plain, notTiny, noDate] at asResponse
      have noneIn : field.requestTransforms = [] := by
        simp [Field.requestTransforms, notTiny, noDate]
      have noneOut : field.responseTransforms = [] := by
        simp [Field.responseTransforms, notTiny, noDate]
      refine ⟨asRequest, asResponse, ?_⟩
      rw [List.forall_mem_append]
      exact ⟨wellFormed.isTransform_requestLines requestOptions noneIn,
        wellFormed.isTransform_responseLines noneOut⟩
  · intro relation
    exact wellFormed.isTransform_responseLines (by simp [Field.responseTransforms, relation])
  · intro audit line listed transform
    have chosen : line ∈ field.responseTransforms := by
      rw [← wellFormed.filter_responseLines]
      exact List.mem_filter.mpr ⟨listed, transform⟩
    -- The other line is for dates, and only for those that are no timestamps.
    unfold Field.responseTransforms at chosen
    rw [audit, Bool.not_true, Bool.and_false] at chosen
    split at chosen
    · cases chosen
    · split at chosen
      · exact List.mem_singleton.mp chosen
      · cases chosen

/-- A class whose fields are a truth value, a date, a relation and a timestamp. -/
def fourKindsSource : Text :=
  joinLines ["export class AEntity \x7b".toList,
    "  @Column(\x7b type: 'tinyint', width: 1 \x7d)".toList, "  open: boolean;".toList,
    "  @Column(\x7b type: 'datetime' \x7d)".toList, "  due: Day;".toList,
    "  @ManyToOne(() => BEntity)".toList, "  owner: BEntity;".toList,
    "  @CreateDateColumn()".toList, "  made: Date;".toList, "\x7d".toList]

/-- Its truth value. -/
def tinyField : Field where
  name := "open".toList
  type := "boolean".toList
  optional := false
  decorators := ["@Column(\x7b type: 'tinyint', width: 1 \x7d)".toList]
  columnMeta := some "  @Column(\x7b type: 'tinyint', width: 1 \x7d)".toList

/-- Its date. -/
def dueField : Field where
  name := "due".toList
  type := "Day".toList
  optional := false
  decorators := ["@Column(\x7b type: 'datetime' \x7d)".toList]
  columnMeta := some "  @Column(\x7b type: 'datetime' \x7d)".toList

/-- The entity of that class. -/
def fourKindsEntity : Entity where
  className := "AEntity".toList
  baseName := "A".toList
  fields := [tinyField, dueField,
    ⟨"owner".toList, "BEntity".toList, false, ["@ManyToOne(() => BEntity)".toList], none⟩,
    ⟨"made".toList, "Date".toList, false, ["@CreateDateColumn()".toList], none⟩]

/-- The truth value and the date are taken in and given out in different forms. -/
theorem Entity.transforms_mirrored_fourKinds :
    ofSource? fourKindsSource = some fourKindsEntity
    ∧ HasBody (fourKindsEntity.requestDto fourKindsSource {}) fourKindsEntity.requestOpening
      [tinyField.requestLines {}, dueField.requestLines {}]
    ∧ transformLine "boolTransformer.to".toList ∈ tinyField.requestLines {}
    ∧ transformLine "boolTransformer.from".toList ∈ tinyField.responseLines
    ∧ Declares (tinyField.requestLines {}) "open".toList "number".toList
    ∧ Declares tinyField.responseLines "open".toList "boolean".toList
    ∧ Declares (dueField.requestLines {}) "due".toList "Day".toList
    ∧ Declares dueField.responseLines "due".toList "string".toList := by
  have found : ofSource? fourKindsSource = some fourKindsEntity := by decide +kernel
  obtain ⟨body, -, each⟩ := transforms_mirrored found {} {}
  -- Neither the relation nor the timestamp is in the request, so two blocks are left.
  have retained : (fourKindsEntity.fields.filter fun field => !field.isRelation && !field.isAudit)
      = [tinyField, dueField] := by decide +kernel
  rw [retained] at body
  obtain ⟨⟨mirrored, taken⟩, -, asNumber, -, -⟩ :=
    (each tinyField (by decide)).1 (by decide +kernel) (by decide +kernel)
  obtain ⟨-, -, -, asText, -⟩ :=
    (each dueField (by decide)).1 (by decide +kernel) (by decide +kernel)
  have tiny : tinyField.isTinyintBoolean = true := by decide +kernel
  obtain ⟨number, truth⟩ := asNumber tiny
  obtain ⟨date, text⟩ := asText (by decide +kernel) (by decide +kernel)
  exact ⟨found, body, taken.mpr tiny, mirrored.mp (taken.mpr tiny), number, truth, date, text⟩

end EntityDto
