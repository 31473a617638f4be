import EntityDto.Proofs.Conversion.Member

/-!
Generated classes read again: each is found under its own name, and its fields are those that were
written into it, decorated by the lines that were written for them and by no others.
-/

namespace EntityDto

open Text

/-- A generated class is read as its members, whatever it was generated from. -/
theorem Entity.ofSource?_members {fields : List Field} {decorators : Field → List Text}
    {type : Field → Text} {above below : List Text} (header : HeaderSource)
    (passed : ∀ line ∈ above, IsPassed line)
    (members : ∀ field ∈ fields, IsMember (decorators field) field.name (type field))
    (skipped : ∀ line ∈ below, IsLine line ∧ IsSkipped line) (more : below ≠ []) :
    ofSource? (joinLines (above ++ header.text
        :: (fields.flatMap (fun field => memberLines (decorators field) field.name (type field))
          ++ below))) =
      some ⟨header.name, withoutEntitySuffix header.name,
        fields.map fun field => memberField (decorators field) field.name (type field)⟩ := by
  have bodyLines : ∀ line ∈ fields.flatMap
      (fun field => memberLines (decorators field) field.name (type field)) ++ below,
      IsLine line := by
    intro line listed
    rcases List.mem_append.mp listed with inMember | isBelow
    · obtain ⟨field, member, listed⟩ := List.mem_flatMap.mp inMember
      exact (members field member).isLine_of_mem_memberLines listed
    · exact (skipped line isBelow).1
  have nothingBelow : fieldsOfLines .none below = [] := by
    have passedOver := fieldsOfLines_skipped_append (fun line isBelow => (skipped line isBelow).2)
      .none []
    rwa [List.append_nil, fieldsOfLines_nil] at passedOver
  -- Each member is read wherever it stands, and nothing below adds to them.
  rw [ofSource?_joinLines header passed bodyLines (List.append_ne_nil_of_right_ne_nil _ more),
    fieldsOfLines_flatMap fun field member => (members field member).fieldsOfLines_memberLines,
    nothingBelow, List.append_nil]

namespace Entity

variable {source : Text} {entity : Entity}

/-- The base name of an entity that was read is made of word characters. -/
theorem allWord_baseName (found : ofSource? source = some entity) :
    AllWord entity.baseName := by
  simp only [ofSource?, Option.map_eq_some_iff] at found
  obtain ⟨className, named, rfl⟩ := found
  obtain ⟨-, word⟩ := allWord_of_className?_eq_some named
  have feedEnds : isWord '\n' = false := by decide
  -- It is the class name, or what stands before the suffix.
  simp only [withoutEntitySuffix_of_no_feed (word.not_mem feedEnds)]
  cases before : before? entitySuffix className with
  | none => exact word
  | some base =>
    intro char held
    apply word
    rw [eq_append_of_before? before]
    exact List.mem_append_left _ held

/-- The name of a generated class is a word. -/
theorem allWord_append (word : AllWord entity.baseName) {suffix : Text}
    (suffixWord : AllWord suffix) : AllWord (entity.baseName ++ suffix) :=
  List.forall_mem_append.mpr ⟨word, suffixWord⟩

/-- The line of a response class. -/
def responseHeader (word : AllWord entity.baseName) : HeaderSource :=
  .plain entity.responseClass (List.append_ne_nil_of_right_ne_nil _ (by decide))
    (allWord_append word (by decide))

/-- The line of a request class. -/
def requestHeader (word : AllWord entity.baseName) : HeaderSource where
  name := entity.requestClass
  behind := " extends CommonDto \x7b".toList
  nonempty := List.append_ne_nil_of_right_ne_nil _ (by decide)
  word := allWord_append word (by decide)
  ends := by decide
  behindNonempty := by decide
  behindNoFeed := by decide
  behindSolid := by decide

/-- What stands behind the name in the line of the variant for partial updates. -/
def behindPartial (entity : Entity) : Text :=
  " extends PartialType(".toList ++ (entity.requestClass ++ ") \x7b\x7d".toList)

/-- What stands behind the name there is no further line. -/
theorem behindPartial_noFeed (word : AllWord entity.baseName) : '\n' ∉ entity.behindPartial := by
  -- The base name is one word, and the texts around it are fixed.
  have feedEnds : isWord '\n' = false := by decide
  unfold behindPartial requestClass
  simp only [List.mem_append, not_or]
  exact ⟨by decide, ⟨word.not_mem feedEnds, by decide⟩, by decide⟩

/-- The line of the variant for partial updates. -/
def partialHeader (word : AllWord entity.baseName) : HeaderSource where
  name := entity.baseName ++ "ReqDto".toList
  behind := entity.behindPartial
  nonempty := List.append_ne_nil_of_right_ne_nil _ (by decide)
  word := allWord_append word (by decide)
  ends := fun char isHead => Option.some.inj isHead ▸ by decide
  behindNonempty := List.append_ne_nil_of_left_ne_nil (by decide) _
  behindNoFeed := behindPartial_noFeed word
  behindSolid := EndsSolid.append (EndsSolid.append (by decide) (by decide) _) (by simp) _

/-- That line as it is written behind the base name. -/
theorem partialHeader_text (word : AllWord entity.baseName) :
    (partialHeader word).text = "export class ".toList ++ (entity.baseName
      ++ ("ReqDto extends PartialType(".toList ++ (entity.requestClass ++ ") \x7b\x7d".toList))) := by
  show "export class ".toList ++ ((entity.baseName ++ "ReqDto".toList)
    ++ (" extends PartialType(".toList ++ (entity.requestClass ++ ") \x7b\x7d".toList))) = _
  -- The name of the class is the base name with a suffix, which goes to the text behind it.
  rw [List.append_assoc entity.baseName]
  rfl

/-- A response class is read under its own name, with every field as responses show it. -/
theorem ofSource?_responseDto (found : ofSource? source = some entity) {options : Options}
    (transformerNoFeed : '\n' ∉ options.transformerImport)
    (transformerNoClass : ¬ ExportsClass options.transformerImport)
    (carriedPassed : ∀ line ∈ enumImports source entity.fields, IsPassed line) :
    ofSource? (entity.responseDto source options) =
      some ⟨entity.responseClass, withoutEntitySuffix entity.responseClass,
        entity.fields.map Field.inResponse⟩ := by
  have word := allWord_baseName found
  have wellFormed := wellFormed_of_ofSource? found
  have members : Field.responseLines = fun field =>
      memberLines field.responseDecorators field.name field.responseType := by
    funext field
    rw [Field.responseLines, memberLines, Field.responseDecorators, List.append_assoc]
    rfl
  -- The header parts the lines above from the members and the closing brace.
  have lines : entity.responseDtoLines source options
      = ([importLine "Expose, Transform".toList "class-transformer".toList,
          importLine "boolTransformer, dateTransformer".toList options.transformerImport]
          ++ enumImports source entity.fields ++ [blankLine])
        ++ (responseHeader word).text
          :: (entity.fields.flatMap (fun field =>
            memberLines field.responseDecorators field.name field.responseType)
            ++ [closingBrace]) := by
    rw [responseDtoLines, members]
    simp only [List.append_assoc, List.cons_append, List.nil_append]
    rfl
  have passed : ∀ line ∈
      [importLine "Expose, Transform".toList "class-transformer".toList,
        importLine "boolTransformer, dateTransformer".toList options.transformerImport]
        ++ enumImports source entity.fields ++ [blankLine], IsPassed line := by
    intro line listed
    simp only [List.mem_append, List.mem_cons, List.not_mem_nil, or_false] at listed
    rcases listed with ((rfl | rfl) | carried) | rfl
    · exact isPassed_importLine (by decide) (by decide) (by decide) (by decide)
    · exact isPassed_importLine (by decide) (by decide) transformerNoFeed transformerNoClass
    · exact carriedPassed line carried
    · exact isPassed_blankLine
  have below : ∀ line ∈ [closingBrace], IsLine line ∧ IsSkipped line := by
    intro line isBrace
    rw [List.mem_singleton.mp isBrace]
    exact ⟨by decide, isSkipped_brace⟩
  rw [responseDto, lines, ofSource?_members _ passed
    (fun field member => (wellFormed field member).isMember_inResponse) below (by simp)]
  simp only [Field.memberField_inResponse]
  rfl

/-- A request class is read under its own name, with the fields that a request may set. -/
theorem ofSource?_requestDto (found : ofSource? source = some entity) {options : Options}
    (commonNoFeed : '\n' ∉ options.commonDtoImport)
    (commonNoClass : ¬ ExportsClass options.commonDtoImport)
    (transformerNoFeed : '\n' ∉ options.transformerImport)
    (transformerNoClass : ¬ ExportsClass options.transformerImport)
    (carriedPassed : ∀ line ∈ enumImports source entity.requestFields, IsPassed line) :
    ofSource? (entity.requestDto source options) =
      some ⟨entity.requestClass, withoutEntitySuffix entity.requestClass,
        entity.requestFields.map (Field.inRequest options)⟩ := by
  have word := allWord_baseName found
  have wellFormed := wellFormed_of_ofSource? found
  have members : (fun field : Field => field.requestLines options) = fun field =>
      memberLines (field.requestDecorators options) field.name field.requestType := by
    funext field
    rw [Field.requestLines, memberLines, Field.requestDecorators]
  -- The header parts the lines above from the members, the closing brace and the variant.
  have lines : entity.requestDtoLines source options
      = ([importLine "IsString, IsOptional, IsInt, IsNotEmpty, IsDate, IsEnum".toList
            "class-validator".toList,
          importLine "Transform".toList "class-transformer".toList,
          importLine "PartialType".toList "@nestjs/mapped-types".toList,
          importLine "CommonDto".toList options.commonDtoImport,
          importLine "boolTransformer, dateTransformer".toList options.transformerImport]
          ++ enumImports source entity.requestFields ++ [blankLine])
        ++ (requestHeader word).text
          :: (entity.requestFields.flatMap (fun field =>
            memberLines (field.requestDecorators options) field.name field.requestType)
            ++ [closingBrace, blankLine, (partialHeader word).text]) := by
    rw [requestDtoLines, members, partialHeader_text]
    simp only [List.append_assoc, List.cons_append, List.nil_append]
    rfl
  have passed : ∀ line ∈
      [importLine "IsString, IsOptional, IsInt, IsNotEmpty, IsDate, IsEnum".toList
          "class-validator".toList,
        importLine "Transform".toList "class-transformer".toList,
        importLine "PartialType".toList "@nestjs/mapped-types".toList,
        importLine "CommonDto".toList options.commonDtoImport,
        importLine "boolTransformer, dateTransformer".toList options.transformerImport]
        ++ enumImports source entity.requestFields ++ [blankLine], IsPassed line := by
    intro line listed
    simp only [List.mem_append, List.mem_cons, List.not_mem_nil, or_false] at listed
    rcases listed with ((rfl | rfl | rfl | rfl | rfl) | carried) | rfl
    · exact isPassed_importLine (by decide) (by decide) (by decide) (by decide)
    · exact isPassed_importLine (by decide) (by decide) (by decide) (by decide)
    · exact isPassed_importLine (by decide) (by decide) (by decide) (by decide)
    · exact isPassed_importLine (by decide) (by decide) commonNoFeed commonNoClass
    · exact isPassed_importLine (by decide) (by decide) transformerNoFeed transformerNoClass
    · exact carriedPassed line carried
    · exact isPassed_blankLine
  have below : ∀ line ∈ [closingBrace, blankLine, (partialHeader word).text],
      IsLine line ∧ IsSkipped line := by
    intro line listed
    simp only [List.mem_cons, List.not_mem_nil, or_false] at listed
    rcases listed with rfl | rfl | rfl
    · exact ⟨by decide, isSkipped_brace⟩
    · exact ⟨isPassed_blankLine.isLine, isPassed_blankLine.isSkipped⟩
    · exact ⟨(partialHeader word).isLine, (partialHeader word).isSkipped⟩
  have membersRead : ∀ field ∈ entity.requestFields,
      IsMember (field.requestDecorators options) field.name field.requestType :=
    fun field member =>
      (wellFormed field (List.mem_of_mem_filter member)).isMember_inRequest options
  rw [requestDto, lines, ofSource?_members _ passed membersRead below (by simp)]
  rfl

/--
Both generated classes of an entity are read as what they are meant to be.

A response has one field for each field of the entity, and a request one for each that is neither a
relation nor an audit timestamp, in order and with the decorators that were written for it.
-/
theorem ofSource?_generated (options : Options) (found : ofSource? source = some entity)
    (importsNoFeed : '\n' ∉ options.commonDtoImport ∧ '\n' ∉ options.transformerImport)
    (importsNoClass : ¬ ExportsClass options.commonDtoImport
      ∧ ¬ ExportsClass options.transformerImport)
    (carriedNoClass : ∀ line ∈ enumImports source entity.fields, ¬ ExportsClass line)
    (carriedSilent : ∀ line ∈ enumImports source entity.fields,
      ∀ token ∈ Token.ofLines [line], token.declaration? = none) :
    (∃ response, ofSource? (entity.responseDto source options) = some response
      ∧ response.className = entity.baseName ++ "ResDto".toList
      ∧ response.fields = entity.fields.map Field.inResponse)
    ∧ ∃ request, ofSource? (entity.requestDto source options) = some request
      ∧ request.className = entity.baseName ++ "Dto".toList
      ∧ request.fields = (entity.fields.filter fun field => !field.isRelation && !field.isAudit).map
        (Field.inRequest options) := by
  have responsePassed : ∀ line ∈ enumImports source entity.fields, IsPassed line :=
    fun line carried => isPassed_of_mem_enumImports carried (carriedNoClass line carried)
      (carriedSilent line carried)
  -- A request carries over no line that the response does not.
  have requestPassed : ∀ line ∈ enumImports source entity.requestFields, IsPassed line :=
    fun line carried => responsePassed line
      (enumImports_subset List.filter_sublist.subset source carried)
  have response := ofSource?_responseDto found importsNoFeed.2 importsNoClass.2 responsePassed
  have request := ofSource?_requestDto found importsNoFeed.1 importsNoClass.1 importsNoFeed.2
    importsNoClass.2 requestPassed
  exact ⟨⟨_, response, rfl, rfl⟩, ⟨_, request, rfl, rfl⟩⟩

/-- A class with a carried-over import, and a field whose name is itself a modifier. -/
def enumSource : Text :=
  "import \x7b AEnum \x7d from 'a';\nexport class BEntity \x7b\n  readonly: AEnum;\n\x7d".toList

/-- The entity of that class. -/
def enumEntity : Entity where
  className := "BEntity".toList
  baseName := "B".toList
  fields := [⟨"readonly".toList, "AEnum".toList, false, [], none⟩]

/-- The request for that class is read with the validators of its one field. -/
theorem ofSource?_generated_enum :
    ofSource? enumSource = some enumEntity
    ∧ enumImports enumSource enumEntity.fields = ["import \x7b AEnum \x7d from 'a';".toList]
    ∧ ∃ request, ofSource? (enumEntity.requestDto enumSource {}) = some request
      ∧ request.className = "BDto".toList
      ∧ request.fields = [⟨"readonly".toList, "AEnum".toList, false,
        ["@IsEnum(AEnum)".toList, "@IsOptional()".toList], none⟩] := by
  have found : ofSource? enumSource = some enumEntity := by decide +kernel
  have carried : enumImports enumSource enumEntity.fields
      = ["import \x7b AEnum \x7d from 'a';".toList] := by decide +kernel
  have projected : (enumEntity.fields.filter fun field => !field.isRelation && !field.isAudit).map
      (Field.inRequest {}) = [⟨"readonly".toList, "AEnum".toList, false,
        ["@IsEnum(AEnum)".toList, "@IsOptional()".toList], none⟩] := by decide +kernel
  -- The carried line satisfies both provisos, so the request is read back as it is.
  obtain ⟨-, request, isRead, named, fields⟩ := ofSource?_generated {} found
    (by decide) (by decide) (by rw [carried]; decide) (by rw [carried]; decide +kernel)
  exact ⟨found, carried, request, isRead, named, fields.trans projected⟩

end Entity

end EntityDto
