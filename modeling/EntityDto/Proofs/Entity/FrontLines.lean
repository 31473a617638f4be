import EntityDto.Proofs.Entity.ClassSearch
import EntityDto.Proofs.Entity.InStep
import EntityDto.Proofs.Token.Extent

/-!
What a field depends on: the lines up to its declaration, and the lines below only as the tail of a
column block that is still open where the source ends.
-/

namespace EntityDto

open Text

/--
The raw texts of a block that is still open at the end, in two sources with the same front.

They begin with the same lines of the front and run on to the two ends.
-/
structure StillOpen (front back otherBack : List Text) (block otherBlock : Text) : Prop where
  opened : ∃ shared, shared <:+ front
    ∧ block = joinLines (shared ++ back) ∧ otherBlock = joinLines (shared ++ otherBack)
  unclosed : 0 < parenBalance block
  otherUnclosed : 0 < parenBalance otherBlock

/-- Raw texts of blocks that open in the same lines and differ only where they are still open. -/
def SameAbove (front back otherBack : List Text) (block otherBlock : Text) : Prop :=
  block = otherBlock ∨ StillOpen front back otherBack block otherBlock

namespace Token

/-- No token stands above the line at which the scan begins. -/
theorem le_lineNumber {number : Nat} {lines : List Text} {before after : List Token} {token : Token}
    (split : ofLinesFrom number lines = before ++ token :: after) : number ≤ token.lineNumber := by
  -- Every token stands at one of the lines, which are numbered from the first one on.
  have member : token ∈ ofLinesFrom number lines := by
    rw [split]
    exact List.mem_append_right _ List.mem_cons_self
  obtain ⟨index, line, -, numbered, -⟩ := exists_standsAt member
  omega

/-- A token that declares nothing stands before the property, if it comes first. -/
theorem exists_cons_of_silent {token property : Token} {tail before after : List Token}
    (split : token :: tail = before ++ property :: after) (silent : token.declares = false)
    (declares : property.declares = true) :
    ∃ behind, before = token :: behind ∧ tail = behind ++ property :: after := by
  rcases List.cons_eq_append_iff.mp split with ⟨-, atProperty⟩ | found
  · -- Otherwise the two would be the same token.
    rw [← (List.cons.inj atProperty).1, declares] at silent
    exact absurd silent (by decide)
  · exact found

/--
A block that does not close in the front is open at the end, if a property is found in the front.

Were it closed further down, it would have swallowed the lines of the front, the property among them.
-/
theorem unclosed_of_property_in_front {number : Nat} {line : Text} {rest back : List Text}
    {before after : List Token} {property : Token}
    (opens : opensColumnBlock (trim line) = true)
    (unclosed : closingIndex? 0 (line :: rest) = none)
    (split : ofLinesFrom number (line :: (rest ++ back)) = before ++ property :: after)
    (declares : property.declares = true)
    (inFront : property.lineNumber < number + (line :: rest).length) :
    0 < parenBalance (joinLines (line :: (rest ++ back)))
    ∧ ∃ behind, before = ⟨.columnBlock (joinLines (line :: (rest ++ back))) false, number, trim line⟩
        :: behind
      ∧ ofLinesFrom (number + 1) (rest ++ back) = behind ++ property :: after := by
  -- A block that closes does so behind the front, so no property below it can lie in front.
  cases closes : closingIndex? 0 (line :: (rest ++ back)) with
  | none =>
    have isOpen := linesBalance_pos_of_unclosed (.inr (by simp)) closes
    rw [← parenBalance_joinLines, Int.zero_add] at isOpen
    rw [ofLinesFrom_unclosed opens closes] at split
    exact ⟨isOpen, exists_cons_of_silent split rfl declares⟩
  | some index =>
    have behindFront := length_le_of_closingIndex?_append unclosed closes
    rw [ofLinesFrom_closed opens closes] at split
    obtain ⟨behind, -, below⟩ := exists_cons_of_silent split rfl declares
    have tooFar := le_lineNumber below
    omega

end Token

/--
A property in the front is the same token in both sources, and what stands above it is in step.

The induction is on the front alone: each block that closes in it closes there in both sources.
-/
theorem inStep_before {number : Nat} {lines front back otherBack : List Text}
    (within : lines <:+ front) {before after otherBefore otherAfter : List Token}
    {property otherProperty : Token}
    (split : Token.ofLinesFrom number (lines ++ back) = before ++ property :: after)
    (otherSplit : Token.ofLinesFrom number (lines ++ otherBack)
      = otherBefore ++ otherProperty :: otherAfter)
    (declares : property.declares = true) (otherDeclares : otherProperty.declares = true)
    (same : property.lineNumber = otherProperty.lineNumber)
    (inFront : property.lineNumber < number + lines.length) :
    property = otherProperty
    ∧ InStep Eq (SameAbove front back otherBack) before otherBefore := by
  have otherInFront := same ▸ inFront
  fun_induction Token.ofLinesFrom number lines generalizing before otherBefore with
  | case1 number =>
    -- No line of the front is left for the property to stand in.
    have tooLow := Token.le_lineNumber split
    simp only [List.length_nil] at inFront
    omega
  | case2 number line rest text opens index closes ih =>
    -- The block closes inside the front, so both sources have it with the same text.
    obtain ⟨inside, -, -⟩ := closingIndex?_eq_some_iff.mp closes
    simp only [List.length_cons] at inside inFront otherInFront
    rw [Token.ofLinesFrom_closed_append opens closes] at split otherSplit
    obtain ⟨behind, rfl, below⟩ := Token.exists_cons_of_silent split rfl declares
    obtain ⟨otherBehind, rfl, otherBelow⟩ :=
      Token.exists_cons_of_silent otherSplit rfl otherDeclares
    have left : rest.drop index <:+ front :=
      (List.drop_suffix index rest).trans ((List.suffix_cons line rest).trans within)
    have inRest : number + index + 1 + (rest.drop index).length = number + (rest.length + 1) := by
      rw [List.length_drop]
      omega
    obtain ⟨equal, run⟩ := ih left below otherBelow (by omega) (by omega)
    exact ⟨equal, .columnBlock rfl (.inl rfl) run⟩
  | case3 number line rest text opens unclosed ih =>
    -- The block is open at both ends, and its two texts begin with the lines from here on.
    have left : rest <:+ front := (List.suffix_cons line rest).trans within
    obtain ⟨isOpen, behind, rfl, below⟩ :=
      Token.unclosed_of_property_in_front opens unclosed split declares inFront
    obtain ⟨otherIsOpen, otherBehind, rfl, otherBelow⟩ :=
      Token.unclosed_of_property_in_front opens unclosed otherSplit otherDeclares otherInFront
    simp only [List.length_cons] at inFront otherInFront
    obtain ⟨equal, run⟩ := ih left below otherBelow (by omega) (by omega)
    exact ⟨equal, .columnBlock rfl
      (.inr ⟨⟨line :: rest, within, rfl, rfl⟩, isOpen, otherIsOpen⟩) run⟩
  | case4 number line rest text single ih =>
    have single : Token.opensColumnBlock (trim line) = false := by simpa using single
    have left : rest <:+ front := (List.suffix_cons line rest).trans within
    simp only [List.length_cons] at inFront otherInFront
    rw [List.cons_append, Token.ofLinesFrom_single single] at split otherSplit
    rcases List.cons_eq_append_iff.mp split with ⟨rfl, here⟩ | ⟨behind, rfl, below⟩ <;>
      rcases List.cons_eq_append_iff.mp otherSplit with
        ⟨rfl, otherHere⟩ | ⟨otherBehind, rfl, otherBelow⟩
    · -- The line is the property itself, with nothing above it on either side.
      exact ⟨(List.cons.inj here).1.trans (List.cons.inj otherHere).1.symm, .nil⟩
    · -- The property cannot stand here on one side and further down on the other.
      have lower := Token.le_lineNumber otherBelow
      rw [(List.cons.inj here).1] at same
      simp only at same
      omega
    · have lower := Token.le_lineNumber below
      rw [(List.cons.inj otherHere).1] at same
      simp only at same
      omega
    · obtain ⟨equal, run⟩ := ih left below otherBelow (by omega) (by omega)
      exact ⟨equal, InStep.cons_singleKind (fun _ => rfl) run _ _⟩

/-- What waits in step with equal decorators makes fields that differ in open blocks at most. -/
theorem Pending.InStep.field_above {front back otherBack : List Text} {pending other : Pending}
    (waits : pending.InStep Eq (SameAbove front back otherBack) other) (declaration : Declaration) :
    (pending.field declaration).name = (other.field declaration).name
    ∧ (pending.field declaration).type = (other.field declaration).type
    ∧ (pending.field declaration).decorators = (other.field declaration).decorators
    ∧ (pending.field declaration = other.field declaration
      ∨ ∃ block ∈ (pending.field declaration).columnMeta,
        ∃ otherBlock ∈ (other.field declaration).columnMeta,
          StillOpen front back otherBack block otherBlock) := by
  obtain ⟨decorators, columnMeta⟩ := pending
  obtain ⟨otherDecorators, otherMeta⟩ := other
  obtain ⟨texts, raw⟩ := waits
  obtain rfl : decorators = otherDecorators := List.forall₂_eq_eq_eq ▸ texts
  refine ⟨rfl, rfl, rfl, ?_⟩
  -- With equal decorators the fields differ only if the raw texts of their blocks do.
  cases raw with
  | none => exact .inl rfl
  | some above =>
    rcases above with rfl | stillOpen
    · exact .inl rfl
    · exact .inr ⟨_, rfl, _, rfl, stillOpen⟩

namespace Entity

/-- A field and its property token come from one place of the tokens. -/
theorem exists_of_mem_zip {source : Text} {property : Token} {field : Field}
    (made : (property, field) ∈ (declaring source).zip (fieldsFrom .none (tokens source))) :
    ∃ before after declaration, tokens source = before ++ property :: after
      ∧ property.declaration? = some declaration
      ∧ field = (before.foldl Pending.step .none).field declaration := by
  obtain ⟨index, listed⟩ := List.mem_iff_getElem?.mp made
  obtain ⟨isToken, isField⟩ := List.getElem?_zip_eq_some.mp listed
  obtain ⟨before, other, after, declaration, split, declares, rfl, made⟩ :=
    exists_of_getElem?_fieldsFrom isField
  -- The token at the place of the field is the one the field was made of.
  rw [declaring_getElem? split (by simp [Token.declares, declares])] at isToken
  cases Option.some.inj isToken
  exact ⟨before, after, declaration, split, declares, made⟩

/--
What a field is depends on the lines up to its declaration alone, unless its block never closes.

Two sources begin with the same lines, among them the class declaration. Wherever both have a
property in these lines, the two fields have the same name, type and decorators. They are equal
altogether, or their blocks are both still open at the end and run through the lines below.
-/
theorem fields_of_front {source other : Text} {front back otherBack : List Text}
    (cut : sourceLines source = front ++ back) (otherCut : sourceLines other = front ++ otherBack)
    (exported : (className? (joinLines front)).isSome = true) :
    ∃ entity otherEntity, ofSource? source = some entity ∧ ofSource? other = some otherEntity
      ∧ (declaring source).length = entity.fields.length
      ∧ (declaring other).length = otherEntity.fields.length
      ∧ ∀ property field otherProperty otherField,
        (property, field) ∈ (declaring source).zip entity.fields →
        (otherProperty, otherField) ∈ (declaring other).zip otherEntity.fields →
        property.lineNumber = otherProperty.lineNumber → property.lineNumber ≤ front.length →
        field.name = otherField.name ∧ field.type = otherField.type
          ∧ field.decorators = otherField.decorators
          ∧ (field = otherField ∨ ∃ block ∈ field.columnMeta, ∃ otherBlock ∈ otherField.columnMeta,
            StillOpen front back otherBack block otherBlock) := by
  -- A class that is declared in the front is found whatever follows.
  have reads {text : Text} {rest : List Text} (cut : sourceLines text = front ++ rest) :
      ∃ className, className? text = some className := by
    obtain ⟨more, joined⟩ := joinLines_prefix front rest
    rw [← Option.isSome_iff_exists, ← className?_joinLines_sourceLines, cut, ← joined]
    exact isSome_className?_append exported more
  obtain ⟨className, named⟩ := reads cut
  obtain ⟨otherName, otherNamed⟩ := reads otherCut
  refine ⟨⟨className, withoutEntitySuffix className, fieldsFrom .none (tokens source)⟩,
    ⟨otherName, withoutEntitySuffix otherName, fieldsFrom .none (tokens other)⟩,
    by rw [ofSource?, named]; rfl, by rw [ofSource?, otherNamed]; rfl,
    length_declaring source, length_declaring other, ?_⟩
  intro property field otherProperty otherField made otherMade same inFront
  obtain ⟨before, after, declaration, split, declares, rfl⟩ := exists_of_mem_zip made
  obtain ⟨otherBefore, otherAfter, otherDeclaration, otherSplit, otherDeclares, rfl⟩ :=
    exists_of_mem_zip otherMade
  rw [tokens, cut] at split
  rw [tokens, otherCut] at otherSplit
  -- The declarations are the same token, and so what waits above them is in step.
  obtain ⟨rfl, run⟩ := inStep_before List.suffix_rfl split otherSplit
    (by simp [Token.declares, declares]) (by simp [Token.declares, otherDeclares]) same (by omega)
  cases Option.some.inj (declares.symm.trans otherDeclares)
  exact (run.foldl_step .none).field_above declaration

/-- The first lines of a class, with a field below a block that closes. -/
def closedFront : List Text :=
  ["export class A \x7b".toList, "  @Column(\x7b".toList, "    nullable: true \x7d)".toList,
    "  x: T;".toList]

/-- The field in these lines. -/
def closedField : Field where
  name := "x".toList
  type := "T".toList
  optional := true
  decorators := ["@Column(\x7b".toList]
  columnMeta := some "  @Column(\x7b\n    nullable: true \x7d)".toList

/-- Lines that may stand below, with a block that does not close. -/
def openTail : List Text :=
  ["  @Column(\x7b width: 1".toList, "  y: U;".toList]

/-- Whatever stands below, the first field is the one that is read when nothing does. -/
theorem fields_of_front_closed :
    ofSource? (joinLines closedFront) = some ⟨"A".toList, "A".toList, [closedField]⟩
    ∧ ∃ otherEntity, ofSource? (joinLines (closedFront ++ openTail)) = some otherEntity
      ∧ ∀ otherField, otherEntity.fields[0]? = some otherField → otherField = closedField := by
  have found : ofSource? (joinLines closedFront)
      = some ⟨"A".toList, "A".toList, [closedField]⟩ := by decide +kernel
  have cut : sourceLines (joinLines closedFront) = closedFront ++ [] := by decide +kernel
  have otherCut : sourceLines (joinLines (closedFront ++ openTail)) = closedFront ++ openTail := by
    decide +kernel
  obtain ⟨entity, otherEntity, isEntity, otherFound, -, -, same⟩ :=
    fields_of_front cut otherCut (by decide +kernel)
  refine ⟨found, otherEntity, otherFound, ?_⟩
  cases Option.some.inj (isEntity.symm.trans found)
  intro otherField isFirst
  have made : (⟨.property ⟨"x".toList, false, "T".toList⟩, 4, "x: T;".toList⟩, closedField)
      ∈ (declaring (joinLines closedFront)).zip [closedField] := by decide +kernel
  have otherToken : (declaring (joinLines (closedFront ++ openTail)))[0]?
      = some ⟨.property ⟨"x".toList, false, "T".toList⟩, 4, "x: T;".toList⟩ := by decide +kernel
  have otherMade : (⟨.property ⟨"x".toList, false, "T".toList⟩, 4, "x: T;".toList⟩, otherField)
      ∈ (declaring (joinLines (closedFront ++ openTail))).zip otherEntity.fields :=
    List.mem_of_getElem? (List.getElem?_zip_eq_some.mpr ⟨otherToken, isFirst⟩)
  obtain ⟨-, -, -, equal | ⟨block, isBlock, otherBlock, -, stillOpen⟩⟩ :=
    same _ _ _ _ made otherMade rfl (by decide)
  · exact equal.symm
  · -- The block of the field closes in its second line.
    cases Option.some.inj isBlock
    exact absurd stillOpen.unclosed (by decide)

/-- The first lines of a class, with a field below a block that does not close. -/
def openFront : List Text :=
  ["export class A \x7b".toList, "  @Column(\x7b".toList, "  x: T;".toList]

/-- A line that may stand below them. -/
def belowOpenFront : Text :=
  "nullable: true, type: 'tinyint', width: 1".toList

/-- A line below a field does change it through a block that is still open above the field. -/
theorem exists_field_changed_from_below :
    (className? (joinLines openFront)).isSome = true
    ∧ (Token.ofLines openFront).filter Token.declares
      = [⟨.property ⟨"x".toList, false, "T".toList⟩, 3, "x: T;".toList⟩]
    ∧ (Token.ofLines (openFront ++ [belowOpenFront])).filter Token.declares
      = [⟨.property ⟨"x".toList, false, "T".toList⟩, 3, "x: T;".toList⟩]
    ∧ (ofSource? (joinLines openFront)).map (outline Field.traits)
      = some ("A".toList, "A".toList,
        [⟨"x".toList, "T".toList, false, false, false, false, false, false⟩])
    ∧ (ofSource? (joinLines (openFront ++ [belowOpenFront]))).map (outline Field.traits)
      = some ("A".toList, "A".toList,
        [⟨"x".toList, "T".toList, true, false, false, false, true, false⟩]) := by
  refine ⟨?_, ?_, ?_, ?_, ?_⟩ <;> decide +kernel

end Entity

end EntityDto
