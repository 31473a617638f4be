import EntityDto.Proofs.Conversion.Reparse

/-!
The bodies of generated classes: behind the line that opens a class stands one block of lines for
each of its fields, which declares that field alone, and then the closing brace.
-/

namespace EntityDto

open Text

/--
A text holds a class body: right behind the line that opens the class stand the lines of the blocks,
and right behind these the closing brace.
-/
def HasBody (text opening : Text) (blocks : List (List Text)) : Prop :=
  ∃ above below, feedLines text = above ++ opening :: (blocks.flatten ++ closingBrace :: below)

/-- A block of lines, read by itself, is one property of a name and a type. -/
def Declares (block : List Text) (name type : Text) : Prop :=
  ∃ field, fieldsOfLines .none block = [field] ∧ field.name = name ∧ field.type = type

namespace Field

variable {field : Field}

/-- The lines of a field in a request make a member. -/
theorem requestLines_eq (field : Field) (options : Options) :
    field.requestLines options
      = memberLines (field.requestDecorators options) field.name field.requestType :=
  rfl

/-- The lines of a field in a response make a member. -/
theorem responseLines_eq (field : Field) :
    field.responseLines
      = memberLines field.responseDecorators field.name field.responseType := by
  -- The exposing line counts to the decorators there.
  rw [responseLines, memberLines, responseDecorators, List.append_assoc]
  rfl

/-- The block of a field in a request declares it with the type that requests take. -/
theorem WellFormed.declares_requestLines (wellFormed : field.WellFormed) (options : Options) :
    Declares (field.requestLines options) field.name field.requestType := by
  have isRead := (wellFormed.isMember_inRequest options).fieldsOfLines_memberLines []
  rw [List.append_nil, fieldsOfLines_nil] at isRead
  exact ⟨_, isRead, rfl, rfl⟩

/-- The block of a field in a response declares it with the type that responses show. -/
theorem WellFormed.declares_responseLines (wellFormed : field.WellFormed) :
    Declares field.responseLines field.name field.responseType := by
  -- A block reads as one field, and no other line stands behind it.
  have isRead := wellFormed.isMember_inResponse.fieldsOfLines_memberLines []
  rw [List.append_nil, fieldsOfLines_nil] at isRead
  rw [responseLines_eq]
  exact ⟨_, isRead, rfl, rfl⟩

/-- No line of a field in a request holds a line feed. -/
theorem WellFormed.requestLines_noFeed (wellFormed : field.WellFormed) (options : Options) :
    ∀ line ∈ field.requestLines options, '\n' ∉ line :=
  fun _ listed => ((wellFormed.isMember_inRequest options).isLine_of_mem_memberLines listed).noFeed

/-- No line of a field in a response holds a line feed. -/
theorem WellFormed.responseLines_noFeed (wellFormed : field.WellFormed) :
    ∀ line ∈ field.responseLines, '\n' ∉ line := by
  rw [responseLines_eq]
  exact fun _ listed => (wellFormed.isMember_inResponse.isLine_of_mem_memberLines listed).noFeed

end Field

namespace Entity

variable {source : Text} {entity : Entity}

/-- The line that opens the request class. -/
def requestOpening (entity : Entity) : Text :=
  "export class ".toList ++ entity.requestClass ++ " extends CommonDto \x7b".toList

/-- The line that opens the response class. -/
def responseOpening (entity : Entity) : Text :=
  "export class ".toList ++ entity.responseClass ++ " \x7b".toList

/-- The lines above the request class: its imports and a blank line. -/
def requestAbove (source : Text) (entity : Entity) (options : Options) : List Text :=
  [importLine "IsString, IsOptional, IsInt, IsNotEmpty, IsDate, IsEnum".toList
      "class-validator".toList,
    importLine "Transform".toList "class-transformer".toList,
    importLine "PartialType".toList "@nestjs/mapped-types".toList,
    importLine "CommonDto".toList options.commonDtoImport,
    importLine "boolTransformer, dateTransformer".toList options.transformerImport]
    ++ enumImports source entity.requestFields ++ [blankLine]

/-- The lines above the response class: its imports and a blank line. -/
def responseAbove (source : Text) (entity : Entity) (options : Options) : List Text :=
  [importLine "Expose, Transform".toList "class-transformer".toList,
    importLine "boolTransformer, dateTransformer".toList options.transformerImport]
    ++ enumImports source entity.fields ++ [blankLine]

/-- The lines below the request class: a blank line and its variant for partial updates. -/
def requestBelow (entity : Entity) : List Text :=
  [blankLine,
    "export class ".toList ++ entity.baseName ++ "ReqDto extends PartialType(".toList
      ++ entity.requestClass ++ ") \x7b\x7d".toList]

/-- Only a line above a class can hold line feeds, for an import path may. -/
theorem feedLines_class {above body below : List Text} {opening : Text}
    (openingNoFeed : '\n' ∉ opening) (bodyNoFeed : ∀ line ∈ body, '\n' ∉ line)
    (belowNoFeed : ∀ line ∈ below, '\n' ∉ line) :
    feedLines (joinLines (above ++ opening :: (body ++ closingBrace :: below)))
      = above.flatMap feedLines ++ opening :: (body ++ closingBrace :: below) := by
  -- Only what stands above the class may hold line feeds of its own.
  have noFeeds : ∀ line ∈ opening :: (body ++ closingBrace :: below), '\n' ∉ line := by
    intro line listed
    simp only [List.mem_cons, List.mem_append] at listed
    rcases listed with rfl | inBody | rfl | isBelow
    · exact openingNoFeed
    · exact bodyNoFeed line inBody
    · decide
    · exact belowNoFeed line isBelow
  rw [feedLines_joinLines (by simp), List.flatMap_append, flatMap_feedLines noFeeds]

/-- The lines of a request class, one block for each field that a request may set. -/
theorem feedLines_requestDto (found : ofSource? source = some entity) (options : Options) :
    feedLines (entity.requestDto source options)
      = (requestAbove source entity options).flatMap feedLines ++ entity.requestOpening
        :: (entity.requestFields.flatMap (fun field => field.requestLines options)
          ++ closingBrace :: entity.requestBelow) := by
  have word := allWord_baseName found
  have wellFormed := wellFormed_of_ofSource? found
  have lines : entity.requestDtoLines source options
      = requestAbove source entity options ++ entity.requestOpening
        :: (entity.requestFields.flatMap (fun field => field.requestLines options)
          ++ closingBrace :: entity.requestBelow) := by
    unfold requestDtoLines requestAbove requestOpening requestBelow
    simp only [List.append_assoc, List.cons_append, List.nil_append]
  rw [requestDto, lines]
  refine feedLines_class ?_ ?_ ?_
  · -- The opening is a class header, and so is the line of the variant.
    have isOpening : entity.requestOpening = (requestHeader word).text := List.append_assoc ..
    exact isOpening ▸ (requestHeader word).isLine.noFeed
  · intro line listed
    obtain ⟨field, member, inBlock⟩ := List.mem_flatMap.mp listed
    exact (wellFormed field (List.mem_of_mem_filter member)).requestLines_noFeed options line
      inBlock
  · intro line listed
    simp only [requestBelow, List.mem_cons, List.not_mem_nil, or_false] at listed
    rcases listed with rfl | rfl
    · decide
    · have isHeader := partialHeader_text word
      simp only [List.append_assoc]
      exact isHeader ▸ (partialHeader word).isLine.noFeed

/-- The lines of a response class, one block for each field. -/
theorem feedLines_responseDto (found : ofSource? source = some entity) (options : Options) :
    feedLines (entity.responseDto source options)
      = (responseAbove source entity options).flatMap feedLines ++ entity.responseOpening
        :: (entity.fields.flatMap Field.responseLines ++ [closingBrace]) := by
  have word := allWord_baseName found
  have wellFormed := wellFormed_of_ofSource? found
  -- The class is the last thing in the text, so nothing stands below its brace.
  have lines : entity.responseDtoLines source options
      = responseAbove source entity options ++ entity.responseOpening
        :: (entity.fields.flatMap Field.responseLines ++ [closingBrace]) := by
    unfold responseDtoLines responseAbove responseOpening
    simp only [List.append_assoc, List.cons_append, List.nil_append]
  rw [responseDto, lines]
  refine feedLines_class ?_ ?_ (by simp)
  · have isOpening : entity.responseOpening = (responseHeader word).text := List.append_assoc ..
    exact isOpening ▸ (responseHeader word).isLine.noFeed
  · intro line listed
    obtain ⟨field, member, inBlock⟩ := List.mem_flatMap.mp listed
    exact (wellFormed field member).responseLines_noFeed line inBlock

/-- The body of a request class has one block for each field that a request may set. -/
theorem hasBody_requestDto (found : ofSource? source = some entity) (options : Options) :
    HasBody (entity.requestDto source options) entity.requestOpening
      (entity.requestFields.map fun field => field.requestLines options) :=
  ⟨_, entity.requestBelow, feedLines_requestDto found options⟩

/-- The body of a response class has one block for each field. -/
theorem hasBody_responseDto (found : ofSource? source = some entity) (options : Options) :
    HasBody (entity.responseDto source options) entity.responseOpening
      (entity.fields.map Field.responseLines) :=
  ⟨_, [], feedLines_responseDto found options⟩

end Entity

end EntityDto
