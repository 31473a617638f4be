import EntityDto.Field.Traits
import EntityDto.Proofs.Entity.Attachment
import EntityDto.Proofs.Entity.SearchText

/-!
Two runs of tokens in step with each other: where the decorators and blocks that wait say the same,
the fields made of them are classified alike.
-/

namespace EntityDto

open Text

/--
Two runs of tokens that declare the same properties in order, below related texts.

Lines that neither decorate nor declare may stand anywhere on either side.
-/
inductive InStep (sameText sameBlock : Text → Text → Prop) : List Token → List Token → Prop
  | nil : InStep sameText sameBlock [] []
  | decorator {number otherNumber : Nat} {text other : Text} {tokens others : List Token}
      (same : sameText text other) (rest : InStep sameText sameBlock tokens others) :
      InStep sameText sameBlock (⟨.decorator, number, text⟩ :: tokens)
        (⟨.decorator, otherNumber, other⟩ :: others)
  | columnBlock {number otherNumber : Nat} {text other block otherBlock : Text}
      {closed otherClosed : Bool} {tokens others : List Token} (same : sameText text other)
      (raw : sameBlock block otherBlock) (rest : InStep sameText sameBlock tokens others) :
      InStep sameText sameBlock (⟨.columnBlock block closed, number, text⟩ :: tokens)
        (⟨.columnBlock otherBlock otherClosed, otherNumber, other⟩ :: others)
  | property {number otherNumber : Nat} {text other : Text} (declaration : Declaration)
      {tokens others : List Token} (rest : InStep sameText sameBlock tokens others) :
      InStep sameText sameBlock (⟨.property declaration, number, text⟩ :: tokens)
        (⟨.property declaration, otherNumber, other⟩ :: others)
  | skip {number : Nat} {text : Text} {tokens others : List Token}
      (rest : InStep sameText sameBlock tokens others) :
      InStep sameText sameBlock (⟨.other, number, text⟩ :: tokens) others
  | skipOther {number : Nat} {text : Text} {tokens others : List Token}
      (rest : InStep sameText sameBlock tokens others) :
      InStep sameText sameBlock tokens (⟨.other, number, text⟩ :: others)

/-- A line that stands by itself may stand on both sides in front of runs in step. -/
theorem InStep.cons_singleKind {sameText sameBlock : Text → Text → Prop} {text : Text}
    (same : text.startsWith ['@'] = true → sameText text text) {tokens others : List Token}
    (rest : InStep sameText sameBlock tokens others) (number otherNumber : Nat) :
    InStep sameText sameBlock (⟨Token.singleKind text, number, text⟩ :: tokens)
      (⟨Token.singleKind text, otherNumber, text⟩ :: others) := by
  unfold Token.singleKind
  -- The kind is the same on both sides, for it is read off the same text.
  split
  · next signed => exact .decorator (same signed) rest
  · split
    · next declaration _ => exact .property declaration rest
    · exact .skip (.skipOther rest)

/-- What waits on two sides is related text by text. -/
structure Pending.InStep (sameText sameBlock : Text → Text → Prop) (pending other : Pending) :
    Prop where
  decorators : List.Forall₂ sameText pending.decorators other.decorators
  columnMeta : Option.Rel sameBlock pending.columnMeta other.columnMeta

section Run

variable {sameText sameBlock : Text → Text → Prop}

/-- Nothing waits on both sides. -/
theorem Pending.InStep.none : Pending.none.InStep sameText sameBlock .none where
  decorators := .nil
  columnMeta := .none

/-- What waits stays in step when related decorators come in. -/
theorem Pending.InStep.append {pending other : Pending}
    (waits : pending.InStep sameText sameBlock other) {text otherText : Text}
    (same : sameText text otherText) :
    List.Forall₂ sameText (pending.decorators ++ [text]) (other.decorators ++ [otherText]) :=
  List.rel_append waits.decorators (.cons same .nil)

/-- What waits in step is in step in any weaker sense for the decorators. -/
theorem Pending.InStep.imp {pending other : Pending}
    (waits : pending.InStep sameText sameBlock other) {nextText : Text → Text → Prop}
    (weaker : ∀ text otherText, sameText text otherText → nextText text otherText) :
    pending.InStep nextText sameBlock other where
  decorators := waits.decorators.imp weaker
  columnMeta := waits.columnMeta

/-- Behind runs in step, what waits is in step again. -/
theorem InStep.foldl_step {tokens others : List Token} (run : InStep sameText sameBlock tokens others)
    {pending other : Pending} (waits : pending.InStep sameText sameBlock other) :
    (tokens.foldl Pending.step pending).InStep sameText sameBlock
      (others.foldl Pending.step other) := by
  -- The two runs advance together, and what waits stays in step whatever has waited before.
  induction run generalizing pending other with
  | nil => exact waits
  | decorator same _ ih => exact ih ⟨waits.append same, waits.columnMeta⟩
  | columnBlock same raw _ ih => exact ih ⟨waits.append same, .some raw⟩
  | property declaration _ ih => exact ih .none
  | skip _ ih => exact ih waits
  | skipOther _ ih => exact ih waits

/-- Runs in step make fields that look the same if what waits in step makes such fields. -/
theorem InStep.map_fieldsFrom {tokens others : List Token}
    (run : InStep sameText sameBlock tokens others) {pending other : Pending}
    (waits : pending.InStep sameText sameBlock other) {β : Type} {view : Field → β}
    (made : ∀ {pending other : Pending}, pending.InStep sameText sameBlock other →
      ∀ declaration, view (pending.field declaration) = view (other.field declaration)) :
    (fieldsFrom pending tokens).map view = (fieldsFrom other others).map view := by
  -- A property makes a field on each side, and leaves nothing waiting on either.
  induction run generalizing pending other with
  | nil => rfl
  | decorator same _ ih => exact ih ⟨waits.append same, waits.columnMeta⟩
  | columnBlock same raw _ ih => exact ih ⟨waits.append same, .some raw⟩
  | property declaration _ ih => exact congrArg₂ List.cons (made waits declaration) (ih .none)
  | skip _ ih => exact ih waits
  | skipOther _ ih => exact ih waits

end Run

/-- Decorator texts that say the same of a field. -/
structure SameDecorator (text other : Text) : Prop where
  signed : text.startsWith ['@'] = true
  otherSigned : other.startsWith ['@'] = true
  nullable : holdsSomewhere Attribute.nullableHere text = holdsSomewhere Attribute.nullableHere other
  relation : holdsSomewhere (decoratorHere relationDecorators) text
    = holdsSomewhere (decoratorHere relationDecorators) other
  generatedKey : holdsSomewhere (decoratorHere generatedKeyDecorators) text
    = holdsSomewhere (decoratorHere generatedKeyDecorators) other
  audit : holdsSomewhere (decoratorHere auditDecorators) text
    = holdsSomewhere (decoratorHere auditDecorators) other

/-- A decorator says the same as itself. -/
theorem SameDecorator.refl {text : Text} (signed : text.startsWith ['@'] = true) :
    SameDecorator text text :=
  ⟨signed, signed, rfl, rfl, rfl, rfl⟩

/-- Raw texts of column blocks in which the same attributes are found. -/
structure SameBlock (text other : Text) : Prop where
  column : text.contains "@Column(".toList = other.contains "@Column(".toList
  nullable : holdsSomewhere Attribute.nullableHere text = holdsSomewhere Attribute.nullableHere other
  tinyint : holdsSomewhere Attribute.tinyintHere text = holdsSomewhere Attribute.tinyintHere other
  widthOne : holdsSomewhere Attribute.widthOneHere text = holdsSomewhere Attribute.widthOneHere other
  date : holdsSomewhere Attribute.dateHere text = holdsSomewhere Attribute.dateHere other

/-- In one text the same attributes are found. -/
theorem SameBlock.refl (text : Text) : SameBlock text text :=
  ⟨rfl, rfl, rfl, rfl, rfl⟩

/-- What a field is declared and classified as, whatever raw text says so. -/
structure FieldTraits where
  name : Text
  type : Text
  optional : Bool
  isRelation : Bool
  isGeneratedKey : Bool
  isAudit : Bool
  isTinyintBoolean : Bool
  isDateColumn : Bool
  deriving DecidableEq

/-- The traits of a field. -/
def Field.traits (field : Field) : FieldTraits where
  name := field.name
  type := field.type
  optional := field.optional
  isRelation := field.isRelation
  isGeneratedKey := field.isGeneratedKey
  isAudit := field.isAudit
  isTinyintBoolean := field.isTinyintBoolean
  isDateColumn := field.isDateColumn

/-- The names of an entity and what is to be seen of each of its fields. -/
def Entity.outline {β : Type} (view : Field → β) (entity : Entity) : Text × Text × List β :=
  (entity.className, entity.baseName, entity.fields.map view)

/-- A test that related texts share holds of one of the texts on both sides or on none. -/
theorem any_eq_of_forall₂ {same : Text → Text → Prop} {texts others : List Text}
    (related : List.Forall₂ same texts others) {test : Text → Bool}
    (shared : ∀ {text other}, same text other → test text = test other) :
    texts.any test = others.any test := by
  induction related with
  | nil => rfl
  | cons head _ ih => rw [List.any_cons, List.any_cons, shared head, ih]

/-- What is asked of the raw text has one answer for related blocks, and for none on both sides. -/
theorem metaText_eq_of_rel {same : Text → Text → Prop} {columnMeta other : Option Text}
    (related : Option.Rel same columnMeta other) {β : Type} {ask : Text → β}
    (shared : ∀ {text other}, same text other → ask text = ask other) :
    ask (columnMeta.getD []) = ask (other.getD []) := by
  cases related with
  | some raw => exact shared raw
  | none => rfl

/-- What waits in step makes fields of the same traits. -/
theorem Pending.InStep.traits_field {pending other : Pending}
    (waits : pending.InStep SameDecorator SameBlock other) (declaration : Declaration) :
    (pending.field declaration).traits = (other.field declaration).traits := by
  have named (names : List Text)
      (shared : ∀ {text other}, SameDecorator text other →
        holdsSomewhere (decoratorHere names) text = holdsSomewhere (decoratorHere names) other) :
      (pending.field declaration).hasDecorator names
        = (other.field declaration).hasDecorator names :=
    any_eq_of_forall₂ waits.decorators shared
  have signed : ∀ line ∈ pending.decorators, line.startsWith ['@'] = true :=
    (List.forall₂_and_left _ _).mp (waits.decorators.imp fun _ _ same => ⟨same.signed, same⟩) |>.1
  have otherSigned : ∀ line ∈ other.decorators, line.startsWith ['@'] = true :=
    (List.forall₂_and_left _ _).mp
      (waits.decorators.flip.imp fun _ _ same => ⟨same.otherSigned, same⟩) |>.1
  -- Whether the attribute is there is decided text by text, and each text agrees.
  have optional : (pending.field declaration).optional = (other.field declaration).optional := by
    simp only [Pending.field, holdsSomewhere_nullableHere_searchText signed,
      holdsSomewhere_nullableHere_searchText otherSigned,
      any_eq_of_forall₂ waits.decorators (·.nullable),
      metaText_eq_of_rel waits.columnMeta (·.nullable)]
  have tinyint : (pending.field declaration).isTinyintBoolean
      = (other.field declaration).isTinyintBoolean := by
    simp only [Field.isTinyintBoolean, Field.metaText, Pending.field,
      metaText_eq_of_rel waits.columnMeta (·.column),
      metaText_eq_of_rel waits.columnMeta (·.tinyint),
      metaText_eq_of_rel waits.columnMeta (·.widthOne)]
  have date : (pending.field declaration).isDateColumn = (other.field declaration).isDateColumn :=
    congrArg (decide (trim declaration.type = "Date".toList) || ·)
      (metaText_eq_of_rel waits.columnMeta (·.date))
  simp only [Field.traits, optional, tinyint, date, Field.isRelation, Field.isGeneratedKey,
    Field.isAudit, named _ (·.relation), named _ (·.generatedKey), named _ (·.audit)]
  rfl

end EntityDto
