import EntityDto.Attribute
import EntityDto.Field.Basic

/-! What the decorators, the column block and the declared type of a field say about it. -/

namespace EntityDto

open Text

/-- Whether one of the decorator names starts here as a whole word. -/
def decoratorHere (names : List Text) (text : Text) : Bool :=
  match after? ['@'] text with
  | some rest => names.any fun name => startsWithWordEnd rest name
  | none => false

/-- Decorators that tie a field to other entities. -/
def relationDecorators : List Text :=
  ["OneToOne".toList, "OneToMany".toList, "ManyToOne".toList, "ManyToMany".toList,
    "JoinColumn".toList, "JoinTable".toList]

/-- Decorators of a primary key that the database generates. -/
def generatedKeyDecorators : List Text :=
  ["PrimaryGeneratedColumn".toList]

/-- Decorators of creation, update and soft-delete timestamps. -/
def auditDecorators : List Text :=
  ["CreateDateColumn".toList, "UpdateDateColumn".toList, "DeleteDateColumn".toList]

/-- The ending that marks the name of an enumeration. -/
def enumSuffix : Text := "Enum".toList

/-- Whether a type text without its blanks names an enumeration. -/
def isEnumType (type : Text) : Bool :=
  type.withoutBlanks.holdsSomewhere fun place => place.startsWithWordEnd enumSuffix

namespace Field

/-- Whether one of the names occurs as a decorator somewhere in the field's decorator lines. -/
def hasDecorator (field : Field) (names : List Text) : Bool :=
  field.decorators.any fun line => holdsSomewhere (decoratorHere names) line

/-- Whether the field refers to other entities. -/
def isRelation (field : Field) : Bool :=
  field.hasDecorator relationDecorators

/-- Whether the field is a primary key that the database generates. -/
def isGeneratedKey (field : Field) : Bool :=
  field.hasDecorator generatedKeyDecorators

/-- Whether the field is a creation, update or soft-delete timestamp. -/
def isAudit (field : Field) : Bool :=
  field.hasDecorator auditDecorators

/-- The raw text of the column block, empty without one. -/
def metaText (field : Field) : Text :=
  field.columnMeta.getD []

/-- Whether the field is a truth value stored as a one-digit tiny integer. -/
def isTinyintBoolean (field : Field) : Bool :=
  field.metaText.contains "@Column(".toList
    && field.metaText.holdsSomewhere Attribute.tinyintHere
    && field.metaText.holdsSomewhere Attribute.widthOneHere

/-- The declared type without surrounding blanks. -/
def plainType (field : Field) : Text :=
  field.type.trim

/-- Whether the field holds a date, by its declared type or by its column's. -/
def isDateColumn (field : Field) : Bool :=
  field.plainType = "Date".toList || field.metaText.holdsSomewhere Attribute.dateHere

/-- The enumeration names in the declared type, in order and with repetitions. -/
def enumNames (field : Field) : List Text :=
  field.type.words.filter fun word => word.endsWith enumSuffix

end Field

end EntityDto
