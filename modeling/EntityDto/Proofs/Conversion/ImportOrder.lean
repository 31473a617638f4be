import EntityDto.Proofs.Text.Scan
import EntityDto.ResponseDto

/-!
Lines are carried over in the order of the source, whatever the order of the fields. More fields
carry over more lines, but leave the others in their places.
-/

namespace EntityDto

open Text

section FirstOccurrences

variable {α : Type} [BEq α]

/-- Some members of a list, each once, in the order in which they first occur there. -/
structure FirstOccurrences (kept all : List α) : Prop where
  nodup : kept.Nodup
  sublist : kept.Sublist all
  ordered : kept.Pairwise fun first second => all.idxOf first < all.idxOf second

/-- Some of the first occurrences are first occurrences. -/
theorem FirstOccurrences.of_sublist {some kept all : List α} (occurrences : FirstOccurrences kept all)
    (fewer : some.Sublist kept) : FirstOccurrences some all :=
  ⟨occurrences.nodup.sublist fewer, fewer.trans occurrences.sublist,
    occurrences.ordered.sublist fewer⟩

variable [LawfulBEq α]

/-- Dropping repetitions and dropping what fails a test can be done in either order. -/
theorem eraseDups_filter (keep : α → Bool) (list : List α) :
    (list.filter keep).eraseDups = list.eraseDups.filter keep := by
  cases list with
  | nil => rfl
  | cons first rest =>
    -- The members other than the first are fewer, and the two tests on them commute.
    have fewer := List.length_filter_le (fun other => !other == first) rest
    have others := eraseDups_filter keep (rest.filter fun other => !other == first)
    rw [List.filter_comm] at others
    rw [List.eraseDups_cons, List.filter_cons, List.filter_cons]
    split
    · rw [List.eraseDups_cons, others]
    · next dropped =>
      -- What is kept differs from the first member anyway.
      have differs : (rest.filter keep).filter (fun other => !other == first)
          = rest.filter keep := by
        refine List.filter_eq_self.mpr fun other member => ?_
        rw [Bool.not_eq_true', beq_eq_false_iff_ne]
        rintro rfl
        exact dropped (List.of_mem_filter member)
      rw [← others, differs]
  termination_by list.length
  decreasing_by
    rw [List.length_cons]
    omega

/-- What is left when repetitions are dropped are the first occurrences. -/
theorem firstOccurrences_eraseDups (list : List α) : FirstOccurrences list.eraseDups list := by
  induction list with
  | nil => exact ⟨List.nodup_nil, List.Sublist.slnil, List.Pairwise.nil⟩
  | cons first rest ih =>
    rw [List.eraseDups_cons, eraseDups_filter]
    have kept : (rest.eraseDups.filter fun other => !other == first).Sublist rest.eraseDups :=
      List.filter_sublist
    have differs : ∀ other ∈ rest.eraseDups.filter (fun other => !other == first),
        first ≠ other := by
      rintro other member rfl
      simpa using List.of_mem_filter member
    refine ⟨?_, (kept.trans ih.sublist).cons_cons first, ?_⟩
    · exact List.nodup_cons.mpr ⟨fun member => differs first member rfl, ih.nodup.sublist kept⟩
    · rw [List.pairwise_cons]
      constructor
      · -- The first member is found at once, and any other one behind it.
        intro other member
        rw [List.idxOf_cons_self, List.idxOf_cons_ne _ (differs other member)]
        omega
      · refine (ih.ordered.sublist kept).imp_of_mem ?_
        intro one two isOne isTwo before
        rw [List.idxOf_cons_ne _ (differs one isOne), List.idxOf_cons_ne _ (differs two isTwo)]
        omega

end FirstOccurrences

/-- A name is looked for among the imports exactly when one of the fields uses it. -/
theorem mem_enumNamesOf_iff {name : Text} {fields : List Field} :
    name ∈ enumNamesOf fields ↔ ∃ field ∈ fields, name ∈ field.enumNames := by
  rw [enumNamesOf, List.mem_eraseDups, List.mem_flatMap]

/--
A line is an import of something in use exactly when it starts with the import word, blanks apart,
and a name of an enumeration that one of the fields uses occurs in it.
-/
theorem importsSome_iff {line : Text} {fields : List Field} :
    importsSome (enumNamesOf fields) line = true ↔
      "import".toList <+: trim line
        ∧ ∃ field ∈ fields, ∃ name ∈ field.enumNames, name <:+: line := by
  have starts : (trim line).startsWith "import".toList = true ↔ "import".toList <+: trim line := by
    rw [startsWith_iff]
    exact exists_congr fun behind => eq_comm
  have mentions : ((enumNamesOf fields).any fun name => line.contains name) = true
      ↔ ∃ field ∈ fields, ∃ name ∈ field.enumNames, name <:+: line := by
    simp only [List.any_eq_true, contains_iff, mem_enumNamesOf_iff]
    -- The names of all fields are looked through, or those of each field in turn.
    constructor
    · rintro ⟨name, ⟨field, isField, used⟩, occurs⟩
      exact ⟨field, isField, name, used, occurs⟩
    · rintro ⟨field, isField, name, used, occurs⟩
      exact ⟨name, ⟨field, isField, used⟩, occurs⟩
  rw [importsSome, Bool.and_eq_true, starts, mentions]

/--
A line is carried over exactly when it is a line of the source that starts with the import word,
blanks apart, and a name of an enumeration that one of the fields uses occurs in it.
-/
theorem mem_enumImports_iff {source line : Text} {fields : List Field} :
    line ∈ enumImports source fields ↔
      line ∈ brokenLines source ∧ "import".toList <+: trim line
        ∧ ∃ field ∈ fields, ∃ name ∈ field.enumNames, name <:+: line := by
  rw [enumImports, List.mem_eraseDups, List.mem_filter, importsSome_iff]

/-- The lines that are carried over are chosen among the different lines of the source. -/
theorem enumImports_eq (source : Text) (fields : List Field) :
    enumImports source fields
      = (brokenLines source).eraseDups.filter (importsSome (enumNamesOf fields)) := by
  rw [enumImports, eraseDups_filter]

/-- More fields carry over the same lines, and perhaps others between them. -/
theorem enumImports_sublist {fields others : List Field} (fewer : fields ⊆ others) (source : Text) :
    (enumImports source fields).Sublist (enumImports source others) := by
  rw [enumImports_eq, enumImports_eq]
  -- A name that is used by some of the fields is used by all of them together.
  refine List.monotone_filter_right _ ?_
  intro line imports
  obtain ⟨isImport, field, isField, named⟩ := importsSome_iff.mp imports
  exact importsSome_iff.mpr ⟨isImport, field, fewer isField, named⟩

/-- Fewer fields carry over no further lines. -/
theorem enumImports_subset {fields others : List Field} (fewer : fields ⊆ others) (source : Text) :
    enumImports source fields ⊆ enumImports source others :=
  (enumImports_sublist fewer source).subset

namespace Entity

/-- What a request class carries over: the lines behind its own five imports up to a blank line. -/
def requestCarried (source : Text) (entity : Entity) (options : Options) : List Text :=
  ((entity.requestDtoLines source options).drop 5).takeWhile fun line => line ≠ blankLine

/-- What a response class carries over: the lines behind its own two imports up to a blank line. -/
def responseCarried (source : Text) (entity : Entity) (options : Options) : List Text :=
  ((entity.responseDtoLines source options).drop 2).takeWhile fun line => line ≠ blankLine

/-- No blank line is carried over, so a blank line ends what is. -/
theorem takeWhile_enumImports (source : Text) (fields : List Field) (below : List Text) :
    (enumImports source fields ++ blankLine :: below).takeWhile (fun line => line ≠ blankLine)
      = enumImports source fields := by
  have noBlank : ∀ line ∈ enumImports source fields, decide (line ≠ blankLine) = true := by
    intro line carried
    rw [decide_eq_true_eq]
    rintro rfl
    -- A line that is carried over starts with the import word.
    exact absurd (mem_enumImports_iff.mp carried).2.1 (by decide)
  rw [List.takeWhile_append_of_pos noBlank, List.takeWhile_cons_of_neg (by simp), List.append_nil]

/-- A request class carries over the lines for the fields that it keeps. -/
theorem requestCarried_eq (source : Text) (entity : Entity) (options : Options) :
    entity.requestCarried source options = enumImports source entity.requestFields := by
  -- Past the fixed imports, what is carried runs up to the blank line above the class.
  unfold requestCarried requestDtoLines
  simp only [List.append_assoc, List.cons_append, List.nil_append, List.drop_succ_cons,
    List.drop_zero]
  exact takeWhile_enumImports source _ _

/-- A response class carries over the lines for all fields. -/
theorem responseCarried_eq (source : Text) (entity : Entity) (options : Options) :
    entity.responseCarried source options = enumImports source entity.fields := by
  -- There are fewer fixed imports than in a request, and the same stands behind them.
  unfold responseCarried responseDtoLines
  simp only [List.append_assoc, List.cons_append, List.nil_append, List.drop_succ_cons,
    List.drop_zero]
  exact takeWhile_enumImports source _ _

end Entity

/--
Exactly those lines of the source are carried over that are imports and mention an enumeration of a
field, each once, where it first stands.

The order of the fields and their repetitions do not matter. What some fields carry over stands in
the same order among what more fields do, as in a response among the lines of the request.
-/
theorem enumImports_in_order (source : Text) (fields : List Field) :
    FirstOccurrences (enumImports source fields) (brokenLines source)
    ∧ (∀ line, line ∈ enumImports source fields ↔
      line ∈ brokenLines source ∧ "import".toList <+: trim line
        ∧ ∃ field ∈ fields, ∃ name ∈ field.enumNames, name <:+: line)
    ∧ (∀ others, fields ⊆ others → others ⊆ fields →
      enumImports source fields = enumImports source others)
    ∧ (∀ others, fields ⊆ others →
      (enumImports source fields).Sublist (enumImports source others))
    ∧ ∀ (entity : Entity) (options : Options),
      (entity.requestCarried source options).Sublist (entity.responseCarried source options) := by
  refine ⟨?_, fun line => mem_enumImports_iff, ?_, ?_, ?_⟩
  · rw [enumImports_eq]
    exact (firstOccurrences_eraseDups _).of_sublist List.filter_sublist
  · -- Each is part of the other, so neither has a line more.
    intro others fewer more
    exact (enumImports_sublist fewer source).antisymm (enumImports_sublist more source)
  · exact fun others fewer => enumImports_sublist fewer source
  · intro entity options
    rw [Entity.requestCarried_eq, Entity.responseCarried_eq]
    -- A request keeps some of the fields.
    exact enumImports_sublist (fun field kept => List.mem_of_mem_filter kept) source

/-- A source with one import twice, its lines ended in three ways. -/
def repeatedSource : Text :=
  "import \x7b AEnum \x7d from 'a';\r\nimport \x7b BEnum \x7d from 'b';\u0085".toList
    ++ "import \x7b AEnum \x7d from 'a';\nimport 'c';".toList

/-- A field of the first enumeration. -/
def firstEnum : Field := ⟨"a".toList, "AEnum".toList, false, [], none⟩

/-- A field of the second enumeration. -/
def secondEnum : Field := ⟨"b".toList, "BEnum[]".toList, false, [], none⟩

/-- The repeated line is carried over in its first place, however often its field is listed. -/
theorem enumImports_in_order_repeated :
    enumImports repeatedSource [firstEnum, secondEnum]
      = ["import \x7b AEnum \x7d from 'a';".toList, "import \x7b BEnum \x7d from 'b';".toList]
    ∧ enumImports repeatedSource [secondEnum, firstEnum, secondEnum]
      = enumImports repeatedSource [firstEnum, secondEnum]
    ∧ (enumImports repeatedSource [secondEnum]).Sublist
      (enumImports repeatedSource [firstEnum, secondEnum]) := by
  -- Neither the order nor the repetition of the fields shows in the lines that are carried.
  obtain ⟨-, -, same, -, -⟩ :=
    enumImports_in_order repeatedSource [secondEnum, firstEnum, secondEnum]
  obtain ⟨-, -, -, more, -⟩ := enumImports_in_order repeatedSource [secondEnum]
  exact ⟨by decide +kernel, same _ (by simp) (by simp), more _ (by simp)⟩

end EntityDto
