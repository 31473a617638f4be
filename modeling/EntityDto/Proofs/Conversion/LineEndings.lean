import EntityDto.Conversion
import EntityDto.Proofs.Entity.ClassSearch

/-! Sources that differ only in how they end their lines convert alike, raw texts included. -/

namespace EntityDto

open Text

/-- Merging breaks keeps whether a source asks for anything. -/
theorem isBlankText_mergeBreaks (source : Text) :
    isBlankText (mergeBreaks source) = isBlankText source := by
  -- A text is blank when nothing is left behind its leading blanks, and a pair is two of them.
  have same : (mergeBreaks source).trim = [] ↔ source.trim = [] := by
    rw [trim_eq_nil_iff, trim_eq_nil_iff, AllBlank, AllBlank, ← List.dropWhile_eq_nil_iff,
      ← List.dropWhile_eq_nil_iff]
    show trimStart (mergeBreaks source) = [] ↔ trimStart source = []
    rw [trimStart_mergeBreaks, mergeBreaks_eq_nil_iff]
  rw [Bool.eq_iff_iff, isBlankText, isBlankText, List.isEmpty_iff, List.isEmpty_iff, same]

namespace Entity

/-- Merging breaks keeps the tokens, with the raw texts of their column blocks. -/
theorem tokens_mergeBreaks {source : Text} (paired : ReturnsPaired source) :
    tokens (mergeBreaks source) = tokens source := by
  rw [tokens, tokens, sourceLines_mergeBreaks paired]

/-- Merging breaks keeps the entity. -/
theorem ofSource?_mergeBreaks {source : Text} (paired : ReturnsPaired source) :
    ofSource? (mergeBreaks source) = ofSource? source := by
  -- The class search crosses lines, and the fields are read from the lines alone.
  rw [ofSource?, ofSource?, className?_mergeBreaks, tokens_mergeBreaks paired]

/-- Merging breaks keeps the entity and what is reported on it. -/
theorem read_mergeBreaks {source : Text} (paired : ReturnsPaired source) :
    read (mergeBreaks source) = read source := by
  rw [read, read, ofSource?_mergeBreaks paired, tokens_mergeBreaks paired]

end Entity

/-- Merging breaks keeps the import lines that are carried over. -/
theorem enumImports_mergeBreaks {source : Text} (paired : ReturnsPaired source)
    (fields : List Field) :
    enumImports (mergeBreaks source) fields = enumImports source fields := by
  rw [enumImports, enumImports, brokenLines_mergeBreaks paired]

/-- Merging breaks keeps both generated texts of an entity. -/
theorem Entity.converted_mergeBreaks {source : Text} (paired : ReturnsPaired source)
    (entity : Entity) (options : Options) :
    entity.converted (mergeBreaks source) options = entity.converted source options := by
  -- Beyond the entity, the source gives a generated text nothing but the import lines.
  have request : entity.requestDto (mergeBreaks source) options
      = entity.requestDto source options := by
    rw [requestDto, requestDto, requestDtoLines, requestDtoLines, enumImports_mergeBreaks paired]
  have response : entity.responseDto (mergeBreaks source) options
      = entity.responseDto source options := by
    rw [responseDto, responseDto, responseDtoLines, responseDtoLines,
      enumImports_mergeBreaks paired]
  rw [converted, converted, request, response]

/-- A source converts alike for both ways to end its lines, mixed ones included. -/
theorem convert_mergeBreaks {source : Text} (paired : ReturnsPaired source) (options : Options) :
    convert (mergeBreaks source) options = convert source options := by
  -- Each part that reads the source gives the same for both.
  have blank := isBlankText_mergeBreaks source
  have parsed := Entity.read_mergeBreaks paired
  have converted := fun entity : Entity => entity.converted_mergeBreaks paired options
  simp only [convert, blank, parsed, converted]

/-- A source with both ways to end a line, one of them inside a column block. -/
def mixedEndingsSource : Text :=
  "import \x7b KindEnum \x7d from './kind';\r\nexport class\r\nUserEntity \x7b\n  @Column(\x7b\r\n  \x7d)\r\n  kind: KindEnum;\n\x7d".toList

/-- Without its carriage returns that source converts as it does with them. -/
theorem convert_mergeBreaks_mixed :
    '\r' ∈ mixedEndingsSource
    ∧ convert (mergeBreaks mixedEndingsSource) {} = convert mixedEndingsSource {} :=
  ⟨by decide, convert_mergeBreaks (by decide +kernel) {}⟩

end EntityDto
