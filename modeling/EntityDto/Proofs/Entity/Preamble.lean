import EntityDto.Proofs.Entity.ClassSearch
import EntityDto.Proofs.Token.Extent

/-!
What the lines above a class contribute: their property tokens become fields in front of those of
the class, and a column block that reaches down into the class keeps its lines from becoming fields.
-/

namespace EntityDto

open Text

/-- The text in front of the leftmost class declaration. -/
def beforeClass : Text → Text
  | [] => []
  | char :: rest =>
    if (classNameHere? (char :: rest)).isSome then [] else char :: beforeClass rest

/-- The lines above the one in which the leftmost class declaration starts. -/
def preamble (source : Text) : Text :=
  (beforeClass source).dropEndWhile (· ≠ '\n')

/-- The text from the line on in which the leftmost class declaration starts. -/
def fromClass (source : Text) : Text :=
  source.drop (preamble source).length

/--
A source is cut right above the line in which its leftmost class declaration starts.

There are whole lines above, and a declaration starts at no place in them; it does at some place in
the first line below.
-/
structure CutAtClass (source above below : Text) : Prop where
  cut : source = above ++ below
  whole : ∀ last ∈ above.getLast?, last = '\n'
  classless : ∀ upper char rest, above = upper ++ char :: rest →
    classNameHere? (char :: (rest ++ below)) = none
  starts : ∃ front place, below = front ++ place ∧ '\n' ∉ front
    ∧ (classNameHere? place).isSome = true

/-- The text in front of the declaration is passed over, and the declaration stands behind it. -/
theorem exists_eq_beforeClass_append {source : Text} (named : (className? source).isSome = true) :
    ∃ place, source = beforeClass source ++ place ∧ (classNameHere? place).isSome = true
      ∧ ∀ upper char rest, beforeClass source = upper ++ char :: rest →
        classNameHere? (char :: (rest ++ place)) = none := by
  induction source with
  | nil => exact ⟨[], rfl, named, by simp [beforeClass]⟩
  | cons char source ih =>
    by_cases here : (classNameHere? (char :: source)).isSome = true
    · exact ⟨char :: source, by simp [beforeClass, here], here, by simp [beforeClass, here]⟩
    · have nothingHere := Option.not_isSome_iff_eq_none.mp here
      rw [className?, findFrom?_cons_of_none nothingHere] at named
      obtain ⟨place, split, starts, nothing⟩ := ih named
      rw [beforeClass, if_neg here]
      refine ⟨place, by rw [List.cons_append, ← split], starts, ?_⟩
      intro upper next rest passed
      -- The place is the very start, or one that the search of the rest passed over.
      rcases List.cons_eq_append_iff.mp passed with ⟨-, atStart⟩ | ⟨upper, -, within⟩
      · obtain ⟨rfl, rfl⟩ := List.cons.inj atStart
        rw [← split]
        exact nothingHere
      · exact nothing upper next rest within

/-- Every source with a class is cut above the line of its declaration. -/
theorem cutAtClass_preamble {source : Text} (named : (className? source).isSome = true) :
    CutAtClass source (preamble source) (fromClass source) := by
  obtain ⟨place, split, starts, nothing⟩ := exists_eq_beforeClass_append named
  -- What is taken off the end is the front of the line in which the declaration starts.
  obtain ⟨front, parts, passed, ends⟩ :=
    exists_eq_dropEndWhile_append (· ≠ '\n') (beforeClass source)
  change beforeClass source = preamble source ++ front at parts
  have cut : source = preamble source ++ (front ++ place) := by
    rw [← List.append_assoc, ← parts, ← split]
  have below : fromClass source = front ++ place :=
    (congrArg (List.drop (preamble source).length) cut).trans List.drop_left
  refine ⟨below ▸ cut, ?_, ?_, front, place, below, ?_, starts⟩
  · exact fun last isLast => not_not.mp (of_decide_eq_false (ends last isLast))
  · intro upper char rest isAbove
    rw [below, ← List.append_assoc]
    refine nothing upper char (rest ++ front) ?_
    rw [parts, isAbove, List.append_assoc, List.cons_append]
  · exact fun feed => of_decide_eq_true (passed '\n' feed) rfl

/-- The class is found in the text below as it is in the whole source. -/
theorem CutAtClass.className?_below {source above below : Text}
    (isCut : CutAtClass source above below) : className? below = className? source := by
  obtain ⟨rfl, -, classless, -⟩ := isCut
  -- No class is declared above, so the search passes it one character after the other.
  induction above with
  | nil => rfl
  | cons char above ih =>
    have passed : className? (char :: (above ++ below)) = className? (above ++ below) :=
      findFrom?_cons_of_none (classless [] char above rfl)
    rw [List.cons_append, passed]
    refine ih fun upper next rest within => classless (char :: upper) next rest ?_
    rw [within, List.cons_append]

/-- What a declaration says of its field wherever it stands: the name and the type. -/
def Declaration.signature (declaration : Declaration) : Text × Text :=
  (declaration.name, declaration.type)

/-- The names and types that tokens declare, in order. -/
def declared (tokens : List Token) : List (Text × Text) :=
  (tokens.filterMap Token.declaration?).map Declaration.signature

/-- The names and types of fields, in order. -/
def signatures (fields : List Field) : List (Text × Text) :=
  fields.map fun field => (field.name, field.type)

/-- Whatever waits, the fields of tokens have the names and types that these declare. -/
theorem signatures_fieldsFrom (pending : Pending) (tokens : List Token) :
    signatures (fieldsFrom pending tokens) = declared tokens := by
  have sameParts := fieldsFrom_forall₂ pending tokens
  rw [signatures, declared]
  -- The two lists are in step, which is all that counts of them.
  generalize fieldsFrom pending tokens = fields at sameParts ⊢
  generalize tokens.filterMap Token.declaration? = declarations at sameParts ⊢
  induction sameParts with
  | nil => rfl
  | cons same _ ih => rw [List.map_cons, List.map_cons, ih, Declaration.signature, same.1, same.2]

/-- The names and types of two runs of tokens follow each other. -/
theorem declared_append (front back : List Token) :
    declared (front ++ back) = declared front ++ declared back := by
  simp only [declared, List.filterMap_append, List.map_append]

/-- Nothing is declared exactly when no token declares anything. -/
theorem declared_eq_nil_iff {tokens : List Token} :
    declared tokens = [] ↔ ∀ token ∈ tokens, token.declares = false := by
  simp [declared, List.filterMap_eq_nil_iff, Token.declares]

namespace Entity

/-- The tokens that start in the first lines of a source. -/
def tokensAbove (source : Text) (height : Nat) : List Token :=
  (tokens source).filter fun token => token.lineNumber ≤ height

/--
The tokens that start in the first lines stand for these lines, and perhaps for some more.

Behind them the rest of the source is read as if it began there.
-/
theorem exists_tokens_eq_tokensAbove_append {source : Text} {height : Nat}
    (within : height ≤ (sourceLines source).length) :
    ∃ taken, height ≤ taken ∧ Token.Tile 1 (tokensAbove source height) (1 + taken)
      ∧ tokens source = tokensAbove source height
        ++ Token.ofLinesFrom (1 + taken) ((sourceLines source).drop taken) := by
  have noFeeds : ∀ line ∈ sourceLines source, '\n' ∉ line := fun _ =>
    feed_not_mem_of_mem_sourceLines
  -- The tokens come in the order of their lines, so those that start above are the first of them.
  have split := ((tile_tokens source).filter_append height).symm
  obtain ⟨taken, tile, read⟩ := Token.exists_ofLinesFrom_of_append noFeeds split
  have tileBelow := Token.tile_ofLinesFrom (1 + taken) fun line (member : line ∈ _) =>
    noFeeds line (List.mem_of_mem_drop (i := taken) member)
  rw [← read, List.length_drop] at tileBelow
  refine ⟨taken, ?_, tile, by rw [← read]; exact split⟩
  cases below : (tokens source).filter fun token => height < token.lineNumber with
  | nil =>
    -- There is no token below, so all lines were taken.
    rw [below] at tileBelow
    have ends : 1 + taken = 1 + taken + ((sourceLines source).length - taken) := tileBelow
    omega
  | cons next others =>
    -- The first token below starts where those above end.
    rw [below] at tileBelow
    have isBelow := List.of_mem_filter (below ▸ List.mem_cons_self : next ∈ _)
    have first := tileBelow.1
    simp only [decide_eq_true_eq] at isBelow
    omega

/--
The lines above the class contribute the fields that they declare, and no others.

Without them the source holds the same class. Its fields are then those behind the declarations of
the lines above, so they have the same names and types exactly when nothing is declared above. The
exception is a column block that starts above the class and takes the line of the class declaration
in: it closes, and of the lines below only those behind it make fields.
-/
theorem fields_of_preamble {source : Text} {entity : Entity}
    (found : ofSource? source = some entity) :
    let height := (preamble source).count '\n'
    let above := tokensAbove source height
    CutAtClass source (preamble source) (fromClass source)
    ∧ ∃ kept, ofSource? (fromClass source) = some kept
      ∧ kept.className = entity.className ∧ kept.baseName = entity.baseName
      ∧ ((∀ token ∈ above, ¬ token.Covers (height + 1)) →
        signatures entity.fields = declared above ++ signatures kept.fields
        ∧ (signatures kept.fields = signatures entity.fields
          ↔ ∀ token ∈ above, token.declares = false))
      ∧ ∀ block ∈ above, block.Covers (height + 1) →
        (∃ text, block.kind = .columnBlock text true)
        ∧ signatures entity.fields = declared above ++ signatures (fieldsOfLines .none
          ((sourceLines source).drop (block.lineNumber + block.height - 1))) := by
  intro height above
  obtain ⟨className, named, rfl⟩ := Option.map_eq_some_iff.mp found
  have isCut : CutAtClass source (preamble source) (fromClass source) :=
    cutAtClass_preamble (by rw [named]; rfl)
  obtain ⟨lines, counted, cut⟩ := exists_sourceLines_append isCut.whole (fromClass source)
  rw [← isCut.cut] at cut
  change lines.length = height at counted
  have within : height ≤ (sourceLines source).length := by
    rw [cut, List.length_append, counted]
    omega
  obtain ⟨taken, enough, tile, split⟩ := exists_tokens_eq_tokensAbove_append within
  -- Names and types come from the tokens above and from the lines behind these.
  have parts : signatures (fieldsFrom .none (tokens source)) = declared above
      ++ signatures (fieldsOfLines .none ((sourceLines source).drop taken)) := by
    rw [signatures_fieldsFrom, split, declared_append, ← signatures_fieldsFrom .none
      (Token.ofLinesFrom _ _), Nat.add_comm, fieldsFrom_ofLinesFrom]
  have isKept : ofSource? (fromClass source) = some ⟨className, withoutEntitySuffix className,
      fieldsFrom .none (tokens (fromClass source))⟩ := by
    rw [ofSource?, isCut.className?_below, named]
    rfl
  refine ⟨isCut, _, isKept, rfl, rfl, ?_, ?_⟩
  · intro apart
    -- Were more lines taken than stand above, a token above would reach the class.
    have noMore : taken = height := by
      by_contra more
      have inside : height + 1 < 1 + taken := by omega
      obtain ⟨token, member, covers⟩ := tile.exists_covers (by omega) inside
      exact apart token member covers
    have kept : (sourceLines source).drop taken = sourceLines (fromClass source) := by
      rw [noMore, cut, ← counted, List.drop_left]
    rw [kept] at parts
    refine ⟨parts, ?_⟩
    simp only
    rw [parts, ← declared_eq_nil_iff]
    constructor
    · intro same
      exact List.self_eq_append_left.mp same
    · intro nothing
      rw [nothing]
      rfl
  · intro block member covers
    have start : ∀ token ∈ above, token.lineNumber < height + 1 := fun token member =>
      Nat.lt_succ_of_le (of_decide_eq_true (List.mem_filter.mp member).2)
    -- The block is the last of the tokens above, and it has more lines than its first.
    have ends := tile.ends_of_covers start member covers
    have low := start block member
    have high := covers.2
    have behind : block.lineNumber + block.height - 1 = taken := by omega
    rw [behind]
    exact ⟨Token.exists_kind_of_one_lt_height (by omega), parts⟩

/-- A source with an interface above the class. -/
def interfaceSource : Text :=
  "interface I \x7b\n  id: number;\n\x7d\nexport class A \x7b\n  x: T;\n\x7d".toList

/-- A source in which a column block opens above the class and closes in it. -/
def straddlingSource : Text :=
  "@Column(\x7b\nexport class A \x7b\n  x: T;\n\x7d)\n  y: U;\n\x7d".toList

/-- The block in these lines. -/
def straddlingBlock : Token where
  kind := .columnBlock "@Column(\x7b\nexport class A \x7b\n  x: T;\n\x7d)".toList true
  lineNumber := 1
  text := "@Column(\x7b".toList

/-- The member of the interface comes in front, and only what is behind the block is declared. -/
theorem fields_of_preamble_straddling :
    (∃ entity kept, ofSource? interfaceSource = some entity
      ∧ ofSource? (fromClass interfaceSource) = some kept
      ∧ signatures entity.fields = ("id".toList, "number".toList) :: signatures kept.fields)
    ∧ straddlingBlock ∈ tokensAbove straddlingSource 1 ∧ straddlingBlock.Covers 2
    ∧ ∃ entity, ofSource? straddlingSource = some entity
      ∧ signatures entity.fields
        = signatures (fieldsOfLines .none ["  y: U;".toList, "\x7d".toList]) := by
  have found : ofSource? interfaceSource = some ⟨"A".toList, "A".toList,
      [⟨"id".toList, "number".toList, false, [], none⟩,
        ⟨"x".toList, "T".toList, false, [], none⟩]⟩ := by
    decide +kernel
  have foundToo : ofSource? straddlingSource = some ⟨"A".toList, "A".toList,
      [⟨"y".toList, "U".toList, false, ["@Column(\x7b".toList],
        some "@Column(\x7b\nexport class A \x7b\n  x: T;\n\x7d)".toList⟩]⟩ := by
    decide +kernel
  have member : straddlingBlock ∈ tokensAbove straddlingSource 1 := by decide +kernel
  have covers : straddlingBlock.Covers 2 := by decide +kernel
  -- The cut of the first source runs between tokens, and that of the second through one.
  obtain ⟨-, kept, isKept, -, -, apart, -⟩ := fields_of_preamble found
  obtain ⟨-, -, -, -, -, -, reaching⟩ := fields_of_preamble foundToo
  have height : (preamble interfaceSource).count '\n' = 3 := by decide +kernel
  have heightToo : (preamble straddlingSource).count '\n' = 1 := by decide +kernel
  rw [height] at apart
  rw [heightToo] at reaching
  have above : declared (tokensAbove interfaceSource 3) = [("id".toList, "number".toList)] := by
    decide +kernel
  have behind : (sourceLines straddlingSource).drop
      (straddlingBlock.lineNumber + straddlingBlock.height - 1)
        = ["  y: U;".toList, "\x7d".toList] := by
    decide +kernel
  have nothingAbove : declared (tokensAbove straddlingSource 1) = [] := by decide +kernel
  refine ⟨⟨_, kept, found, isKept, ?_⟩, member, covers, _, foundToo, ?_⟩
  · rw [(apart (by decide +kernel)).1, above]
    rfl
  · rw [(reaching straddlingBlock member covers).2, behind, nothingAbove]
    rfl

/-- Without the lines above a class its fields may be others: fewer, or those of a block, too. -/
theorem exists_field_above_class :
    preamble interfaceSource = "interface I \x7b\n  id: number;\n\x7d\n".toList
    ∧ (ofSource? interfaceSource).map (fun entity => signatures entity.fields)
      = some [("id".toList, "number".toList), ("x".toList, "T".toList)]
    ∧ (ofSource? (fromClass interfaceSource)).map (fun entity => signatures entity.fields)
      = some [("x".toList, "T".toList)]
    ∧ preamble straddlingSource = "@Column(\x7b\n".toList
    ∧ (ofSource? straddlingSource).map (fun entity => signatures entity.fields)
      = some [("y".toList, "U".toList)]
    ∧ (ofSource? (fromClass straddlingSource)).map (fun entity => signatures entity.fields)
      = some [("x".toList, "T".toList), ("y".toList, "U".toList)] := by
  refine ⟨?_, ?_, ?_, ?_, ?_, ?_⟩ <;> decide +kernel

end Entity

end EntityDto
