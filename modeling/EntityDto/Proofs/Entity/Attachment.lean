import EntityDto.Entity
import Mathlib.Data.List.DropRight
import Mathlib.Data.List.Forall2

/-!
Which tokens a field is made of: a property takes the decorators and the column block that wait for
it, so none of them is lost, doubled or moved to another field.
-/

namespace EntityDto

open Text

namespace Token

/-- The declaration of a property token. -/
def declaration? (token : Token) : Option Declaration :=
  match token.kind with
  | .property declaration => some declaration
  | _ => none

/-- The raw text of a column block token. -/
def block? (token : Token) : Option Text :=
  match token.kind with
  | .columnBlock text _ => some text
  | _ => none

/-- Whether the token is a property. -/
def declares (token : Token) : Bool :=
  token.declaration?.isSome

/-- Whether the text of the token waits for the next property. -/
def waits (token : Token) : Bool :=
  match token.kind with
  | .decorator | .columnBlock _ _ => true
  | _ => false

/-- A column block waits for the next property. -/
theorem waits_of_block? {token : Token} {block : Text} (isBlock : token.block? = some block) :
    token.waits = true := by
  unfold block? at isBlock
  unfold waits
  -- Only column blocks have such a text, and they wait.
  split at isBlock
  · next kind => rw [kind]
  · cases isBlock

end Token

namespace Pending

/-- What waits behind one more token. -/
def step (pending : Pending) (token : Token) : Pending :=
  match token.kind with
  | .decorator => ⟨pending.decorators ++ [token.text], pending.columnMeta⟩
  | .columnBlock text _ => ⟨pending.decorators ++ [token.text], some text⟩
  | .property _ => .none
  | .other => pending

/-- Behind a property nothing waits. -/
theorem step_of_declaration? {token : Token} {declaration : Declaration}
    (declares : token.declaration? = some declaration) (pending : Pending) :
    pending.step token = .none := by
  unfold Token.declaration? at declares
  unfold step
  -- Only properties declare something, and they take all that waits.
  split at declares
  · next kind => rw [kind]
  · simp at declares

/-- A token that declares nothing adds its text if it waits, and its block if it is one. -/
theorem step_of_declaration?_eq_none {token : Token} (silent : token.declaration? = .none)
    (pending : Pending) :
    pending.step token =
      ⟨pending.decorators ++ if token.waits then [token.text] else [],
        token.block?.or pending.columnMeta⟩ := by
  -- Of the four kinds only a property is ruled out, and each other one adds what it has.
  unfold Token.declaration? at silent
  unfold step Token.waits Token.block?
  cases kind : token.kind with
  | decorator => simp
  | columnBlock text closed => simp
  | property declaration => simp [kind] at silent
  | other => simp

end Pending

/-- One token yields the field it declares, if any, and leaves the rest with what then waits. -/
theorem fieldsFrom_cons (pending : Pending) (token : Token) (rest : List Token) :
    fieldsFrom pending (token :: rest) =
      (token.declaration?.map pending.field).toList ++ fieldsFrom (pending.step token) rest := by
  -- Both sides decide by the kind of the token.
  rw [fieldsFrom]
  unfold Token.declaration? Pending.step
  cases token.kind <;> rfl

/-- The fields of two runs of tokens follow each other, with what waits behind the first. -/
theorem fieldsFrom_append (pending : Pending) (first second : List Token) :
    fieldsFrom pending (first ++ second) =
      fieldsFrom pending first ++ fieldsFrom (first.foldl Pending.step pending) second := by
  -- Each token of the first run passes on what waits behind it.
  induction first generalizing pending with
  | nil => rfl
  | cons token first ih =>
    rw [List.cons_append, fieldsFrom_cons, fieldsFrom_cons, ih, List.foldl_cons, List.append_assoc]

/-- Each property token yields one field with its name and type, in order. -/
theorem fieldsFrom_forall₂ (pending : Pending) (tokens : List Token) :
    List.Forall₂ (fun field declaration =>
        field.name = declaration.name ∧ field.type = declaration.type)
      (fieldsFrom pending tokens) (tokens.filterMap Token.declaration?) := by
  induction tokens generalizing pending with
  | nil => exact .nil
  | cons token tokens ih =>
    rw [fieldsFrom_cons]
    cases declares : token.declaration? with
    | none =>
      -- Such a token is left out of both lists.
      rw [List.filterMap_cons_none declares]
      exact ih _
    | some declaration =>
      -- What waits goes into the field, but not into its name or its type.
      rw [List.filterMap_cons_some declares]
      exact .cons ⟨rfl, rfl⟩ (ih _)

/-- Tokens without a property among them yield no field. -/
theorem fieldsFrom_eq_nil {tokens : List Token}
    (silent : ∀ token ∈ tokens, token.declaration? = none) (pending : Pending) :
    fieldsFrom pending tokens = [] := by
  -- There are as many fields as declarations, and of these there are none.
  have counted := (fieldsFrom_forall₂ pending tokens).length_eq
  rw [List.filterMap_eq_nil_iff.mpr silent] at counted
  exact List.eq_nil_of_length_eq_zero counted

/--
No text of a waiting token is lost, doubled or moved.

What the fields took so far and what still waits are together, in order, what came in.
-/
theorem fieldsFrom_decorators (pending : Pending) (tokens : List Token) :
    (fieldsFrom pending tokens).flatMap Field.decorators
        ++ (tokens.foldl Pending.step pending).decorators
      = pending.decorators ++ (tokens.filter Token.waits).map Token.text := by
  -- One step moves what waits into a field or lets it grow by the token's text.
  induction tokens generalizing pending with
  | nil => simp [fieldsFrom]
  | cons token tokens ih =>
    rw [fieldsFrom_cons, List.flatMap_append, List.foldl_cons, List.append_assoc, ih]
    cases declares : token.declaration? with
    | none =>
      -- No field is made, and the text goes behind what waits already.
      rw [Pending.step_of_declaration?_eq_none declares]
      by_cases waiting : token.waits = true <;> simp [waiting]
    | some declaration =>
      -- The field takes all that waited, and a property itself does not wait.
      have notWaiting : token.waits = false := by
        unfold Token.declaration? at declares
        unfold Token.waits
        split at declares
        · next kind => rw [kind]
        · simp at declares
      simp [Pending.step_of_declaration? declares, notWaiting, Pending.field, Pending.none]

/-- Without a property among the tokens, what waits gathers their texts and their last block. -/
theorem foldl_step {tokens : List Token} (silent : ∀ token ∈ tokens, token.declaration? = none)
    (pending : Pending) :
    tokens.foldl Pending.step pending =
      ⟨pending.decorators ++ (tokens.filter Token.waits).map Token.text,
        (tokens.filterMap Token.block?).getLast?.or pending.columnMeta⟩ := by
  induction tokens generalizing pending with
  | nil => simp
  | cons token tokens ih =>
    rw [List.foldl_cons, Pending.step_of_declaration?_eq_none (silent token (by simp)),
      ih fun other member => silent other (by simp [member])]
    -- A later block wins over this one, and this one over what waited before.
    have lastBlock : ((token :: tokens).filterMap Token.block?).getLast?
        = (tokens.filterMap Token.block?).getLast?.or token.block? := by
      cases isBlock : token.block? with
      | none => simp [List.filterMap_cons_none isBlock]
      | some text => simp [List.filterMap_cons_some isBlock, List.getLast?_cons, Option.or_some]
    rw [lastBlock, Option.or_assoc]
    by_cases waiting : token.waits = true <;> simp [waiting]

/-- Right behind a property, or where no token came yet, nothing waits. -/
theorem foldl_step_eq_none {tokens : List Token}
    (last : ∀ token ∈ tokens.getLast?, token.declaration?.isSome) :
    tokens.foldl Pending.step .none = .none := by
  -- The last token alone decides, whatever waited before it.
  cases tokens using List.reverseRecOn with
  | nil => rfl
  | append_singleton tokens token =>
    obtain ⟨declaration, declares⟩ := Option.isSome_iff_exists.mp (last token (by simp))
    rw [List.foldl_append, List.foldl_cons, List.foldl_nil,
      Pending.step_of_declaration? declares]

/-- Every field is what its property token makes of what waits behind the tokens before it. -/
theorem exists_of_getElem?_fieldsFrom {pending : Pending} {tokens : List Token} {index : Nat}
    {field : Field} (listed : (fieldsFrom pending tokens)[index]? = some field) :
    ∃ before property after declaration, tokens = before ++ property :: after
      ∧ property.declaration? = some declaration
      ∧ (before.filter Token.declares).length = index
      ∧ field = (before.foldl Pending.step pending).field declaration := by
  induction tokens generalizing pending index with
  | nil => simp [fieldsFrom] at listed
  | cons token tokens ih =>
    rw [fieldsFrom_cons] at listed
    cases isProperty : token.declaration? with
    | none =>
      -- No field is made here, so the field keeps its place among those made behind.
      rw [isProperty] at listed
      obtain ⟨before, property, after, declaration, rfl, declares, counted, made⟩ := ih listed
      refine ⟨token :: before, property, after, declaration, rfl, declares, ?_, made⟩
      rw [List.filter_cons_of_neg (by simp [Token.declares, isProperty]), counted]
    | some declaration =>
      rw [isProperty] at listed
      cases index with
      | zero =>
        exact ⟨[], token, tokens, declaration, rfl, isProperty, rfl, by simpa using listed.symm⟩
      | succ index =>
        obtain ⟨before, property, after, other, rfl, declares, counted, made⟩ := ih listed
        refine ⟨token :: before, property, after, other, rfl, declares, ?_, made⟩
        rw [List.filter_cons_of_pos (by simp [Token.declares, isProperty]), List.length_cons,
          counted]

namespace Entity

/-- The property tokens of a source. -/
def declaring (source : Text) : List Token :=
  (tokens source).filter Token.declares

/-- The property token of a field comes at the place of the field. -/
theorem declaring_getElem? {source : Text} {before after : List Token} {property : Token}
    (split : tokens source = before ++ property :: after) (declares : property.declares = true) :
    (declaring source)[(before.filter Token.declares).length]? = some property := by
  rw [declaring, split, List.filter_append, List.filter_cons_of_pos declares,
    List.getElem?_append_right (Nat.le_refl _), Nat.sub_self]
  rfl

/-- There are as many property tokens as fields. -/
theorem length_declaring (source : Text) :
    (declaring source).length = (fieldsFrom .none (tokens source)).length := by
  have counted := (fieldsFrom_forall₂ .none (tokens source)).length_eq
  rw [counted, declaring, ← List.countP_eq_length_filter, List.length_filterMap_eq_countP]
  rfl

/-- The tokens up to the last property token. -/
def throughLastProperty (tokens : List Token) : List Token :=
  tokens.rdropWhile fun token => token.declaration?.isNone

/-- Behind the last property token no token declares anything. -/
theorem exists_eq_throughLastProperty_append (tokens : List Token) :
    ∃ back, tokens = throughLastProperty tokens ++ back
      ∧ ∀ token ∈ back, token.declaration? = none := by
  -- What is cut off at the end is a run of tokens that declare nothing.
  refine ⟨tokens.rtakeWhile fun token => token.declaration?.isNone,
    List.rdropWhile_append_rtakeWhile.symm, ?_⟩
  intro token member
  have isNone := List.mem_rtakeWhile_imp
    (p := fun token : Token => token.declaration?.isNone) member
  exact Option.isNone_iff_eq_none.mp isNone

/-- The tokens up to the last property token end with it. -/
theorem declares_getLast?_throughLastProperty (tokens : List Token) :
    ∀ token ∈ (throughLastProperty tokens).getLast?, token.declaration?.isSome := by
  intro token isLast
  obtain ⟨nonempty, rfl⟩ := List.mem_getLast?_eq_getLast isLast
  -- What is cut off at the end is all that declares nothing.
  have declares := List.rdropWhile_last_not
    (fun token : Token => token.declaration?.isNone) tokens nonempty
  rw [Option.isSome_iff_ne_none]
  intro silent
  exact declares (Option.isNone_iff_eq_none.mpr silent)

/--
Every field is made of its property token and of the waiting tokens since the one before.

These are the tokens to which the property is the first one behind them, so each waiting token goes
to one field at most, and only those behind the last property go to none.
-/
theorem fields_attach {source : Text} {entity : Entity} (found : ofSource? source = some entity) :
    List.Forall₂ (fun field declaration =>
        field.name = declaration.name ∧ field.type = declaration.type)
      entity.fields ((tokens source).filterMap Token.declaration?)
    ∧ entity.fields.flatMap Field.decorators
      = ((throughLastProperty (tokens source)).filter Token.waits).map Token.text
    ∧ ∀ before between property after declaration,
      tokens source = before ++ (between ++ property :: after) →
      (∀ token ∈ before.getLast?, token.declaration?.isSome) →
      (∀ token ∈ between, token.declaration? = none) →
      property.declaration? = some declaration →
      ∃ field, entity.fields[(before.filterMap Token.declaration?).length]? = some field
        ∧ field.name = declaration.name ∧ field.type = declaration.type
        ∧ field.decorators = (between.filter Token.waits).map Token.text
        ∧ field.columnMeta = (between.filterMap Token.block?).getLast? := by
  simp only [ofSource?, Option.map_eq_some_iff] at found
  obtain ⟨className, -, rfl⟩ := found
  refine ⟨fieldsFrom_forall₂ .none (tokens source), ?_, ?_⟩
  · -- Behind the last property no field is made, and right behind it nothing waits.
    obtain ⟨back, split, silent⟩ := exists_eq_throughLastProperty_append (tokens source)
    have front : fieldsFrom .none (tokens source)
        = fieldsFrom .none (throughLastProperty (tokens source)) := by
      conv_lhs => rw [split]
      rw [fieldsFrom_append, fieldsFrom_eq_nil silent, List.append_nil]
    have taken := fieldsFrom_decorators .none (throughLastProperty (tokens source))
    rw [foldl_step_eq_none (declares_getLast?_throughLastProperty _), ← front] at taken
    simpa [Pending.none] using taken
  · -- The tokens in between all wait for this property, and nothing waited before them.
    intro before between property after declaration split last silent declares
    have index : (fieldsFrom .none before).length = (before.filterMap Token.declaration?).length :=
      (fieldsFrom_forall₂ .none before).length_eq
    refine ⟨(between.foldl Pending.step .none).field declaration, ?_, rfl, rfl, ?_, ?_⟩
    · -- Its place among the fields is the number of properties before it.
      rw [split, fieldsFrom_append, foldl_step_eq_none last, fieldsFrom_append,
        fieldsFrom_eq_nil silent, List.nil_append, fieldsFrom_cons, declares, ← index]
      simp
    · rw [foldl_step silent]
      rfl
    · rw [foldl_step silent]
      exact Option.or_none

/-- A class whose first field stands behind two column blocks, and whose last has nothing. -/
def twoBlocksSource : Text :=
  "export class A \x7b\n  @Column(\x7b a: 1 \x7d)\n  @Column(\x7b\n  \x7d)\n  x: T;\n  y: U;\n  @Index()\n\x7d".toList

/-- The entity of that class. -/
def twoBlocksEntity : Entity where
  className := "A".toList
  baseName := "A".toList
  fields :=
    [⟨"x".toList, "T".toList, false,
        ["@Column(\x7b a: 1 \x7d)".toList, "@Column(\x7b".toList],
        some "  @Column(\x7b\n  \x7d)".toList⟩,
      ⟨"y".toList, "U".toList, false, [], none⟩]

/-- The second block of that class replaces the first as metadata, and both stay as decorators. -/
theorem fields_attach_two_blocks :
    ofSource? twoBlocksSource = some twoBlocksEntity
    ∧ twoBlocksEntity.fields.flatMap Field.decorators
      = ((throughLastProperty (tokens twoBlocksSource)).filter Token.waits).map Token.text
    ∧ ∃ field ∈ twoBlocksEntity.fields[0]?, field.columnMeta
      = (((tokens twoBlocksSource).take 3).filterMap Token.block?).getLast? := by
  have found : ofSource? twoBlocksSource = some twoBlocksEntity := by decide +kernel
  obtain ⟨-, taken, attach⟩ := fields_attach found
  -- The first property is the fourth token, and the three above it declare nothing.
  obtain ⟨property, isFourth, declares⟩ : ∃ property, (tokens twoBlocksSource)[3]? = some property
      ∧ property.declaration? = some ⟨"x".toList, false, "T".toList⟩ :=
    ⟨⟨.property ⟨"x".toList, false, "T".toList⟩, 5, "x: T;".toList⟩, by decide +kernel, rfl⟩
  have split : tokens twoBlocksSource
      = [] ++ ((tokens twoBlocksSource).take 3 ++ property :: (tokens twoBlocksSource).drop 4) := by
    obtain ⟨inBounds, rfl⟩ := List.getElem?_eq_some_iff.mp isFourth
    rw [List.nil_append, List.getElem_cons_drop, List.take_append_drop]
  obtain ⟨field, isFirst, -, -, -, last⟩ :=
    attach _ _ _ _ _ split (by simp) (by decide +kernel) declares
  exact ⟨found, taken, field, isFirst, last⟩

end Entity

end EntityDto
