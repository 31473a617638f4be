import EntityDto.Proofs.Field.ListType
import Mathlib.Data.List.Infix

/-!
Angle brackets of response types. They stay balanced exactly where no list in generic notation is
taken apart whose two ends are no pair, as the ends of a union of two such lists are not.
-/

namespace EntityDto

open Text

/-- Angle brackets are balanced: none is closed before it is opened, and none is left open. -/
structure BalancedAngles (text : Text) : Prop where
  opened : ∀ front, front <+: text → front.count '>' ≤ front.count '<'
  closed : text.count '<' = text.count '>'

instance (text : Text) : Decidable (BalancedAngles text) :=
  decidable_of_iff ((∀ front ∈ text.inits, front.count '>' ≤ front.count '<')
      ∧ text.count '<' = text.count '>')
    ⟨fun checks => ⟨fun front isFront => checks.1 front ((List.mem_inits _ _).mpr isFront), checks.2⟩,
      fun balanced => ⟨fun front isFront => balanced.opened front ((List.mem_inits _ _).mp isFront),
        balanced.closed⟩⟩

/-- The first angle bracket of a text is closed by its last character, and not before. -/
def EndsPaired (text : Text) : Prop :=
  ∀ front, front <+: text → front ≠ text → '<' ∈ front → front.count '>' < front.count '<'

instance (text : Text) : Decidable (EndsPaired text) :=
  decidable_of_iff (∀ front ∈ text.inits, front ≠ text → '<' ∈ front →
      front.count '>' < front.count '<')
    ⟨fun checks front isFront => checks front ((List.mem_inits _ _).mpr isFront),
      fun paired front isFront => paired front ((List.mem_inits _ _).mp isFront)⟩

/-- Whether a character is an angle bracket. -/
def isAngle (char : Char) : Bool :=
  char = '<' || char = '>'

/-- The angle brackets of a text, in order. -/
def angles (text : Text) : Text :=
  text.filter isAngle

/-- The angle brackets of joined texts are joined. -/
theorem angles_append (front back : Text) : angles (front ++ back) = angles front ++ angles back :=
  List.filter_append ..

/-- No other character plays a part in whether angle brackets are balanced. -/
theorem balancedAngles_angles {text : Text} :
    BalancedAngles (angles text) ↔ BalancedAngles text := by
  have opening (text : Text) : (angles text).count '<' = text.count '<' :=
    List.count_filter (by decide)
  have closing (text : Text) : (angles text).count '>' = text.count '>' :=
    List.count_filter (by decide)
  constructor
  · intro balanced
    constructor
    · intro front isFront
      rw [← opening front, ← closing front]
      exact balanced.opened _ (isFront.filter isAngle)
    · rw [← opening text, ← closing text]
      exact balanced.closed
  · intro balanced
    constructor
    · -- The first few brackets are those of some front of the text.
      intro front isFront
      obtain ⟨textFront, isTextFront, rfl⟩ := List.prefix_filter_iff.mp isFront
      change (angles textFront).count '>' ≤ (angles textFront).count '<'
      rw [opening, closing]
      exact balanced.opened textFront isTextFront
    · rw [opening, closing]
      exact balanced.closed

/-- Texts with the same angle brackets are balanced alike. -/
theorem balancedAngles_congr {text other : Text} (same : angles text = angles other) :
    BalancedAngles text ↔ BalancedAngles other := by
  rw [← balancedAngles_angles, same, balancedAngles_angles]

/-- Blanks around a text are no brackets. -/
theorem angles_trim (text : Text) : angles (trim text) = angles text := by
  -- Blanks are no angles, so trimming takes none away.
  have noAngle {blanks : Text} (blank : AllBlank blanks) : angles blanks = [] := by
    apply List.filter_eq_nil_iff.mpr
    intro char held isAngle
    have isBlank := blank char held
    simp only [EntityDto.isAngle, Bool.or_eq_true, decide_eq_true_eq] at isAngle
    rcases isAngle with rfl | rfl
    · exact absurd isBlank (by decide)
    · exact absurd isBlank (by decide)
  obtain ⟨before, after, beforeBlank, afterBlank, split⟩ := exists_trim_eq text
  have joined := congrArg angles split
  rw [angles_append, angles_append, noAngle beforeBlank, noAngle afterBlank, List.nil_append,
    List.append_nil] at joined
  exact joined.symm

/-- Neither suffix of a class name holds a bracket. -/
theorem angles_withResponseSuffix (type : Text) :
    angles (withResponseSuffix type) = angles type := by
  -- Of the name, only a suffix is exchanged, and neither suffix holds an angle.
  have noAngle : angles entitySuffix = [] ∧ angles responseSuffix = [] := ⟨by decide, by decide⟩
  rcases withResponseSuffix_cases type with ⟨base, rfl, replaced⟩ | ⟨-, kept⟩
  · rw [replaced, angles_append, angles_append, noAngle.1, noAngle.2]
  · rw [kept]

/-- Square brackets behind a type leave its angle brackets as they are. -/
theorem angles_append_listBrackets (type : Text) : angles (type ++ listBrackets) = angles type := by
  rw [angles_append]
  exact List.append_nil _

/-- The front of a list in generic notation opens one bracket. -/
theorem count_genericFront (text : Text) :
    ("Array<".toList ++ text).count '<' = text.count '<' + 1
      ∧ ("Array<".toList ++ text).count '>' = text.count '>' := by
  -- The word in front opens one angle and closes none.
  have opens : "Array<".toList.count '<' = 1 := by decide
  have closes : "Array<".toList.count '>' = 0 := by decide
  rw [List.count_append, List.count_append, opens, closes]
  omega

/-- The back of a list in generic notation closes it again. -/
theorem count_genericList (item : Text) :
    (genericList item).count '<' = item.count '<' + 1
      ∧ (genericList item).count '>' = item.count '>' + 1 := by
  -- One closing angle stands behind what the front and the item count.
  obtain ⟨opened, closed⟩ := count_genericFront item
  have split (char : Char) : (genericList item).count char
      = ("Array<".toList ++ item).count char + ['>'].count char := List.count_append
  rw [split, split, opened, closed]
  exact ⟨rfl, rfl⟩

/-- Where a front of a list in generic notation ends: in the name, in the item or with the list. -/
theorem of_prefix_genericList {item front : Text} (isFront : front <+: genericList item) :
    front <+: "Array".toList
      ∨ (∃ itemFront, itemFront <+: item ∧ front = "Array<".toList ++ itemFront)
      ∨ front = genericList item := by
  unfold genericList at isFront ⊢
  rcases List.prefix_concat_iff.mp isFront with whole | isFront
  · exact .inr (.inr whole)
  · rcases List.prefix_or_prefix_of_prefix isFront (List.prefix_append _ item) with inName | behind
    · -- The opening bracket is the last character of the front that all such lists have.
      rcases List.prefix_concat_iff.mp (show front <+: "Array".toList ++ ['<'] from inName) with
        rfl | inName
      · exact .inr (.inl ⟨[], List.nil_prefix, rfl⟩)
      · exact .inl inName
    · obtain ⟨itemFront, rfl⟩ := behind
      exact .inr (.inl ⟨itemFront, (List.prefix_append_right_inj _).mp isFront, rfl⟩)

/-- A list of a balanced item type is balanced. -/
theorem BalancedAngles.genericList {item : Text} (balanced : BalancedAngles item) :
    BalancedAngles (genericList item) := by
  have counts := count_genericList item
  have closed := balanced.closed
  constructor
  · intro front isFront
    rcases of_prefix_genericList isFront with inName | ⟨itemFront, inItem, rfl⟩ | rfl
    · -- The name closes nothing.
      have noClosing : '>' ∉ front := fun held => absurd (inName.subset held) (by decide)
      rw [List.count_eq_zero_of_not_mem noClosing]
      exact Nat.zero_le _
    · have opened := balanced.opened itemFront inItem
      have fronts := count_genericFront itemFront
      omega
    · omega
  · omega

/-- The ends of a balanced list in generic notation are a pair exactly where its item is balanced. -/
theorem endsPaired_genericList_iff {item : Text} (balanced : BalancedAngles (genericList item)) :
    EndsPaired (genericList item) ↔ BalancedAngles item := by
  have counts := count_genericList item
  have closed := balanced.closed
  constructor
  · intro paired
    constructor
    · intro itemFront inItem
      have fronts := count_genericFront itemFront
      -- Inside the list, the bracket before the item is still open.
      have isFront : "Array<".toList ++ itemFront <+: genericList item :=
        ((List.prefix_append_right_inj _).mpr inItem).trans (List.prefix_append _ _)
      have isShorter : "Array<".toList ++ itemFront ≠ genericList item := by
        intro same
        have shorter := inItem.length_le
        have sameLength := congrArg List.length same
        unfold genericList at sameLength
        simp only [List.length_append, List.length_singleton] at sameLength
        omega
      have stillOpen := paired _ isFront isShorter (List.mem_append_left _ (by decide))
      omega
    · omega
  · intro itemBalanced front isFront isShorter opens
    rcases of_prefix_genericList isFront with inName | ⟨itemFront, inItem, rfl⟩ | rfl
    · exact absurd (inName.subset opens) (by decide)
    · have opened := itemBalanced.opened itemFront inItem
      have fronts := count_genericFront itemFront
      omega
    · exact absurd rfl isShorter

/-- A list has the brackets of its item, and in generic notation a pair around them. -/
theorem listItem?_trim_cases {type item : Text} (found : listItem? (trim type) = some item) :
    (genericItem? (trim type) = some item ∧ trim type = genericList item)
      ∨ angles item = angles type := by
  -- Of the two notations, square brackets leave the angles as they are.
  rcases listItem?_eq_some_iff.mp found with generic | brackets
  · exact .inl ⟨generic, (genericItem?_eq_some_iff.mp generic).1⟩
  · right
    rw [← angles_trim type, brackets, angles_append_listBrackets]

/-- A type is balanced where what it is mapped to is. -/
theorem BalancedAngles.of_responseTypeOf {type : Text}
    (balanced : BalancedAngles (responseTypeOf type)) : BalancedAngles type := by
  -- Level by level, a pair of brackets is put back around a balanced item.
  fun_induction responseTypeOf type with
  | case1 type item found ih =>
    rw [balancedAngles_congr (angles_append_listBrackets _)] at balanced
    rcases listItem?_trim_cases found with ⟨-, isGeneric⟩ | same
    · rw [← balancedAngles_congr (angles_trim type), isGeneric]
      exact (ih balanced).genericList
    · exact (balancedAngles_congr same).mp (ih balanced)
  | case2 type noList =>
    rw [balancedAngles_congr (angles_withResponseSuffix _)] at balanced
    exact (balancedAngles_congr (angles_trim type)).mp balanced

/-- What stands inside a type is balanced where what the type is mapped to is. -/
theorem Unwraps.balancedAngles {depth : Nat} {type inner : Text} (unwraps : Unwraps depth type inner)
    (balanced : BalancedAngles (responseTypeOf type)) : BalancedAngles inner := by
  -- The two are mapped to the same, but for the square brackets.
  induction unwraps with
  | whole type => exact balanced.of_responseTypeOf
  | inside found below ih =>
    rw [responseTypeOf_of_item found, balancedAngles_congr (angles_append_listBrackets _)] at balanced
    exact ih balanced

/--
The angle brackets of a balanced type stay balanced exactly where the mapping takes no list in
generic notation apart whose ends are no pair, at whatever depth it comes to it.
-/
theorem balancedAngles_responseTypeOf_iff {type : Text} (balanced : BalancedAngles type) :
    BalancedAngles (responseTypeOf type) ↔
      ∀ depth level item, Unwraps depth type level → genericItem? (trim level) = some item →
        EndsPaired (trim level) := by
  constructor
  · intro resultBalanced depth level item unwraps generic
    have found := listItem?_eq_some_iff.mpr (.inl generic)
    have itemBalanced := (unwraps.item found).balancedAngles resultBalanced
    obtain ⟨isGeneric, -⟩ := genericItem?_eq_some_iff.mp generic
    change trim level = genericList item at isGeneric
    rw [isGeneric]
    exact (endsPaired_genericList_iff itemBalanced.genericList).mpr itemBalanced
  · intro paired
    -- The induction is on the calls of the mapping; every call is made on a balanced type.
    fun_induction responseTypeOf type with
    | case1 type item found ih =>
      rw [balancedAngles_congr (angles_append_listBrackets _)]
      have itemBalanced : BalancedAngles item := by
        rcases listItem?_trim_cases found with ⟨generic, isGeneric⟩ | same
        · have ends := paired 0 type item (.whole type) generic
          rw [← balancedAngles_congr (angles_trim type), isGeneric] at balanced
          rw [isGeneric] at ends
          exact (endsPaired_genericList_iff balanced).mp ends
        · exact (balancedAngles_congr same).mpr balanced
      apply ih itemBalanced
      intro depth level inner unwraps generic
      exact paired (depth + 1) level inner (.inside found unwraps) generic
    | case2 type noList =>
      rw [balancedAngles_congr (angles_withResponseSuffix _), balancedAngles_congr (angles_trim type)]
      exact balanced

/-- A union of two types in a list is taken out of it as it stands. -/
theorem balancedAngles_responseTypeOf_iff_union :
    let type := "Array<Array<A> | B>".toList
    BalancedAngles type ∧ EndsPaired type ∧ responseTypeOf type = "Array<A> | B[]".toList
      ∧ BalancedAngles (responseTypeOf type) := by
  intro type
  have balanced : BalancedAngles type := by decide
  have found : listItem? (trim type) = some "Array<A> | B".toList := by decide
  have noList : listItem? (trim "Array<A> | B".toList) = none := by decide
  have paired : EndsPaired (trim type) := by decide
  have isMapped : responseTypeOf type = "Array<A> | B[]".toList := by
    rw [responseTypeOf_of_item found, responseTypeOf_of_no_item noList]
    decide
  refine ⟨balanced, by decide, isMapped, (balancedAngles_responseTypeOf_iff balanced).mpr ?_⟩
  -- The union is no list itself, so the mapping takes nothing else apart.
  intro depth level item unwraps generic
  cases unwraps with
  | whole => exact paired
  | inside outer below =>
    rw [found] at outer
    cases outer
    cases below with
    | whole =>
      rw [listItem?_eq_some_iff.mpr (.inl generic)] at noList
      cases noList
    | inside inner below =>
      rw [noList] at inner
      cases inner

/-- The ends of a union of two lists are taken for a pair, which leaves each of them open. -/
theorem exists_union_unbalanced :
    let type := "Array<A> | Array<B>".toList
    BalancedAngles type ∧ responseTypeOf type = "A> | Array<B[]".toList
      ∧ ¬ BalancedAngles (responseTypeOf type) := by
  intro type
  -- The first angle and the last one are taken for a pair, though they belong to two lists.
  have found : listItem? (trim type) = some "A> | Array<B".toList := by decide
  have noList : listItem? (trim "A> | Array<B".toList) = none := by decide
  have isMapped : responseTypeOf type = "A> | Array<B[]".toList := by
    rw [responseTypeOf_of_item found, responseTypeOf_of_no_item noList]
    decide
  rw [isMapped]
  decide

end EntityDto
