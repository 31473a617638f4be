import EntityDto.Proofs.Conversion.Body

/-!
Which lines are carried over into generated classes: imports of enumerations that stand on one line,
which starts with the import word, and declarations of names that start like this word.
-/

namespace EntityDto

open Text

/--
A line that declares something is carried over exactly when the name that it declares starts like
the import word, no modifier stands before it, and the line mentions an enumeration in use.
-/
theorem mem_enumImports_iff_of_declares {source line : Text} {token : Token}
    {declaration : Declaration} (listed : line ∈ brokenLines source)
    (isToken : token ∈ Token.ofLines [line]) (declares : token.declaration? = some declaration)
    (fields : List Field) :
    line ∈ enumImports source fields ↔
      ("import".toList <+: declaration.name ∧ declaration.name <+: trim line)
        ∧ ∃ field ∈ fields, ∃ name ∈ field.enumNames, name <:+: line := by
  -- What a line declares is read off the line alone, without the blanks around it.
  obtain ⟨other, isLine, -, carries⟩ := Token.of_mem_ofLinesFrom isToken
  rw [List.mem_singleton] at isLine
  subst isLine
  -- The import word is made of name characters, and every modifier starts with another letter.
  have continues : ∀ char ∈ "import".toList, Declaration.continuesName char = true :=
    List.all_eq_true.mp (by decide)
  have starts : "import".toList <+: trim other ↔
      "import".toList <+: declaration.name ∧ declaration.name <+: trim other :=
    Declaration.prefix_iff_of_read? (carries declaration declares) continues (by decide)
  rw [mem_enumImports_iff, and_iff_right listed, starts]

/-- A class of two fields of one enumeration, the name of the first starting like an import. -/
def importedSource : Text :=
  joinLines ["export class AEntity \x7b".toList, "  importKind: KindEnum;".toList,
    "  kind: KindEnum;".toList, "\x7d".toList]

/-- The entity of that class. -/
def importedEntity : Entity where
  className := "AEntity".toList
  baseName := "A".toList
  fields := [⟨"importKind".toList, "KindEnum".toList, false, [], none⟩,
    ⟨"kind".toList, "KindEnum".toList, false, [], none⟩]

/-- Of its two declarations the first is carried over and the second is not. -/
theorem mem_enumImports_iff_of_declares_importKind :
    Entity.ofSource? importedSource = some importedEntity
    ∧ "  importKind: KindEnum;".toList ∈ enumImports importedSource importedEntity.fields
    ∧ "  kind: KindEnum;".toList ∉ enumImports importedSource importedEntity.fields := by
  -- Both lines declare a property and mention the enumeration; the names alone differ.
  have listed : "  importKind: KindEnum;".toList ∈ brokenLines importedSource
      ∧ "  kind: KindEnum;".toList ∈ brokenLines importedSource := by decide +kernel
  have first := mem_enumImports_iff_of_declares listed.1
    (show (⟨.property ⟨"importKind".toList, false, "KindEnum".toList⟩, 1,
      "importKind: KindEnum;".toList⟩ : Token) ∈ Token.ofLines _ by decide +kernel) rfl
    importedEntity.fields
  have second := mem_enumImports_iff_of_declares listed.2
    (show (⟨.property ⟨"kind".toList, false, "KindEnum".toList⟩, 1,
      "kind: KindEnum;".toList⟩ : Token) ∈ Token.ofLines _ by decide +kernel) rfl
    importedEntity.fields
  exact ⟨by decide +kernel, first.mpr (by decide +kernel), mt second.mp (by decide +kernel)⟩

/-- A declaration of a field stands among the imports of the request for its class. -/
theorem exists_declaration_carried :
    Entity.ofSource? importedSource = some importedEntity
    ∧ ∃ line ∈ enumImports importedSource importedEntity.fields,
      (∃ token ∈ Token.ofLines [line], token.declares = true)
      ∧ (feedLines (importedEntity.requestDto importedSource {}))[5]? = some line := by
  decide +kernel

/-- What is joined occurs in what it is joined to. -/
theorem infix_join_of_mem {separator text : Text} {texts : List Text} (member : text ∈ texts) :
    text <:+: join separator texts := by
  -- The induction follows the joining: one text, a separator, then what the others make up.
  fun_induction join separator texts with
  | case1 => exact absurd member List.not_mem_nil
  | case2 last => exact List.mem_singleton.mp member ▸ List.infix_rfl
  | case3 first second rest ih =>
    rcases List.mem_cons.mp member with rfl | behind
    · exact ((List.prefix_append _ _).trans (List.prefix_append _ _)).isInfix
    · -- What is behind the first text occurs in what the others make up.
      exact (ih behind).trans (List.suffix_append _ _).isInfix

/-- An import of names from a path, as it may be written on one line or over several. -/
structure NamedImport where
  /-- The blanks behind the import word. -/
  afterImport : Text
  /-- What stands between the commas inside the braces. -/
  written : List Text
  /-- The blanks behind the braces. -/
  beforeFrom : Text
  /-- The blanks before the quoted path. -/
  beforePath : Text
  quote : Char
  path : Text
  areBlank : AllBlank afterImport ∧ AllBlank beforeFrom ∧ AllBlank beforePath
  isQuote : quote = '\'' ∨ quote = '"'
  isQuoted : quote ∉ path

namespace NamedImport

/-- What stands before the names. -/
def opening (statement : NamedImport) : Text :=
  "import".toList ++ statement.afterImport ++ ['\x7b']

/-- What stands behind the names. -/
def closing (statement : NamedImport) : Text :=
  '\x7d' :: statement.beforeFrom ++ "from".toList ++ statement.beforePath
    ++ statement.quote :: statement.path ++ [statement.quote]

/-- The statement as it is written. -/
def text (statement : NamedImport) : Text :=
  statement.opening ++ join [','] statement.written ++ statement.closing

/-- The statement names what stands between two of its commas, blanks apart. -/
def Names (statement : NamedImport) (name : Text) : Prop :=
  ∃ written ∈ statement.written, trim written = name

/-- A name of the statement occurs in it. -/
theorem Names.infix_text {statement : NamedImport} {name : Text} (names : statement.Names name) :
    name <:+: statement.text := by
  -- The blanks around the name belong to what is written between the commas.
  obtain ⟨written, listed, rfl⟩ := names
  obtain ⟨before, after, -, -, split⟩ := exists_trim_eq written
  have inWritten : trim written <:+: written :=
    ⟨before, after, (List.append_assoc ..).trans split.symm⟩
  -- The names stand in the middle of the statement.
  have inText : join [','] statement.written <:+: statement.text := List.infix_append _ _ _
  exact (inWritten.trans (infix_join_of_mem listed)).trans inText

end NamedImport

/-- A line stands somewhere above the line that opens a class. -/
def HasHeaderLine (text opening line : Text) : Prop :=
  ∃ above below, feedLines text = above ++ opening :: below ∧ line ∈ above

namespace Entity

variable {source : Text} {entity : Entity}

/-- A line that is carried over is one line of the imports it stands among. -/
theorem mem_flatMap_feedLines {fields : List Field} {line : Text} {above : List Text}
    (carried : line ∈ enumImports source fields) (listed : line ∈ above) :
    line ∈ above.flatMap feedLines := by
  -- A line of the source holds no line feed, so no import that it makes up does.
  have noFeed := (isLine_of_mem_brokenLines (mem_enumImports_iff.mp carried).1).noFeed
  refine List.mem_flatMap.mpr ⟨line, listed, ?_⟩
  rw [feedLines, List.splitOn_eq_singleton noFeed]
  exact List.mem_singleton.mpr rfl

/-- What a request carries over stands above its class. -/
theorem hasHeaderLine_requestDto (found : ofSource? source = some entity) (options : Options)
    {line : Text} (carried : line ∈ enumImports source entity.requestFields) :
    HasHeaderLine (entity.requestDto source options) entity.requestOpening line :=
  ⟨_, _, feedLines_requestDto found options,
    mem_flatMap_feedLines carried (by simp [requestAbove, carried])⟩

/-- What a response carries over stands above its class. -/
theorem hasHeaderLine_responseDto (found : ofSource? source = some entity) (options : Options)
    {line : Text} (carried : line ∈ enumImports source entity.fields) :
    HasHeaderLine (entity.responseDto source options) entity.responseOpening line :=
  ⟨_, _, feedLines_responseDto found options,
    mem_flatMap_feedLines carried (by simp [responseAbove, carried])⟩

/--
An enumeration that a request uses is imported in both classes, where its import is on one line.

Of the lines of the source that mention the enumeration, those are carried over, as they are, that
start with the import word, blanks apart. So a statement that names the enumeration stands in both
headers where it lies within such a line, and of one that is laid out over several lines no other
line of it is there.
-/
theorem headers_carry_imports (found : ofSource? source = some entity) (options : Options)
    {field : Field} (kept : field ∈ entity.requestFields) {name : Text}
    (used : name ∈ field.enumNames) :
    (∀ line, name <:+: line →
      (line ∈ enumImports source entity.requestFields
        ↔ line ∈ brokenLines source ∧ "import".toList <+: trim line)
      ∧ (line ∈ enumImports source entity.fields
        ↔ line ∈ brokenLines source ∧ "import".toList <+: trim line))
    ∧ ∀ statement : NamedImport, statement.Names name →
      ∀ line ∈ brokenLines source, statement.text <:+: line → "import".toList <+: trim line →
        HasHeaderLine (entity.requestDto source options) entity.requestOpening line
        ∧ HasHeaderLine (entity.responseDto source options) entity.responseOpening line := by
  -- The name that a line mentions is in use in both classes, which leaves the import word.
  have carries {fields : List Field} (listed : field ∈ fields) {line : Text}
      (mentions : name <:+: line) : line ∈ enumImports source fields
        ↔ line ∈ brokenLines source ∧ "import".toList <+: trim line := by
    rw [mem_enumImports_iff, and_congr_right_iff, and_iff_left_iff_imp]
    exact fun _ _ => ⟨field, listed, name, used, mentions⟩
  have exposed : field ∈ entity.fields := List.mem_of_mem_filter kept
  refine ⟨fun line mentions => ⟨carries kept mentions, carries exposed mentions⟩, ?_⟩
  -- How the statement is laid out does not matter once it lies within one line.
  intro statement names line listed holds isImport
  -- The line holds the statement and, with it, the name.
  have mentions : name <:+: line := names.infix_text.trans holds
  exact ⟨hasHeaderLine_requestDto found options ((carries kept mentions).mpr ⟨listed, isImport⟩),
    hasHeaderLine_responseDto found options ((carries exposed mentions).mpr ⟨listed, isImport⟩)⟩

/-- A class of one field of an enumeration, below some lines. -/
def sourceBelow (above : Text) : Text :=
  above ++ "\nexport class AEntity \x7b\n  kind: KindEnum;\n\x7d".toList

/-- The field of that class. -/
def importedField : Field := ⟨"kind".toList, "KindEnum".toList, false, [], none⟩

/-- The entity of that class. -/
def entityBelow : Entity := ⟨"AEntity".toList, "A".toList, [importedField]⟩

/-- An import from a file of enumerations. -/
def kindImport (written : List Text) : NamedImport where
  afterImport := " ".toList
  written := written
  beforeFrom := " ".toList
  beforePath := " ".toList
  quote := '\''
  path := "./kinds".toList
  areBlank := by decide
  isQuote := by decide
  isQuoted := by decide

/-- Two enumerations are imported on one line, of which the class uses the second. -/
theorem headers_carry_imports_oneLine :
    let statement := kindImport [" OtherEnum".toList, " KindEnum ".toList]
    let line := statement.text ++ [';']
    line = "import \x7b OtherEnum, KindEnum \x7d from './kinds';".toList
    ∧ HasHeaderLine (entityBelow.requestDto (sourceBelow line) {})
      "export class ADto extends CommonDto \x7b".toList line
    ∧ HasHeaderLine (entityBelow.responseDto (sourceBelow line) {})
      "export class AResDto \x7b".toList line := by
  intro statement line
  have found : ofSource? (sourceBelow line) = some entityBelow := by decide +kernel
  -- The one field is no relation and no audit date, so the request keeps it.
  have kept : importedField ∈ entityBelow.requestFields := by decide
  have used : "KindEnum".toList ∈ importedField.enumNames := by decide
  obtain ⟨-, stands⟩ := headers_carry_imports found {} kept used
  have names : statement.Names "KindEnum".toList := ⟨" KindEnum ".toList, by decide, by decide⟩
  have holds : statement.text <:+: line := List.infix_append [] _ _
  exact ⟨by decide, stands statement names line (by decide +kernel) holds (by decide)⟩

/-- A name that a request uses is imported, and the path of the import is in neither class. -/
def Misses (statement : NamedImport) (source : Text) (entity : Entity) : Prop :=
  ofSource? source = some entity
  ∧ (∃ field ∈ entity.requestFields, ∃ name ∈ field.enumNames, statement.Names name)
  ∧ statement.text <:+: source
  ∧ ¬ statement.path <:+: entity.requestDto source {}
  ∧ ¬ statement.path <:+: entity.responseDto source {}

/-- An import over several lines is missed, and one on one line that a comment stands before. -/
theorem exists_import_missed :
    let spread := kindImport ["\n  OtherEnum".toList, "\n  KindEnum\n".toList]
    let oneLine := kindImport [" OtherEnum".toList, " KindEnum ".toList]
    Misses spread (sourceBelow (spread.text ++ [';'])) entityBelow
    ∧ Misses oneLine (sourceBelow ("/* kinds */ ".toList ++ oneLine.text ++ [';']))
      entityBelow := by
  intro spread oneLine
  have usesSpread : spread.Names "KindEnum".toList :=
    ⟨"\n  KindEnum\n".toList, by decide, by decide⟩
  have usesOneLine : oneLine.Names "KindEnum".toList :=
    ⟨" KindEnum ".toList, by decide, by decide⟩
  have used : importedField ∈ entityBelow.requestFields
      ∧ "KindEnum".toList ∈ importedField.enumNames := by decide
  constructor
  · -- The line that starts with the import word has no name, and the others are not carried over.
    exact ⟨by decide +kernel, ⟨_, used.1, _, used.2, usesSpread⟩, by decide +kernel,
      by decide +kernel, by decide +kernel⟩
  · -- The one line has the name but starts with the comment.
    exact ⟨by decide +kernel, ⟨_, used.1, _, used.2, usesOneLine⟩, by decide +kernel,
      by decide +kernel, by decide +kernel⟩

end Entity

end EntityDto
