import EntityDto.Proofs.Text.Trim
import EntityDto.Text.Lines

/-! Cutting a text into lines undoes joining them, and no line holds a break. -/

namespace EntityDto.Text

/-- A line that comes back as it was when lines are joined and cut again. -/
structure IsLine (line : Text) : Prop where
  noFeed : '\n' ∉ line
  /-- A carriage return at the end would be taken for a part of the break behind it. -/
  noReturn : line.getLast? ≠ some '\r'

instance (line : Text) : Decidable (IsLine line) :=
  decidable_of_iff ('\n' ∉ line ∧ line.getLast? ≠ some '\r')
    ⟨fun ⟨noFeed, noReturn⟩ => ⟨noFeed, noReturn⟩, fun isLine => ⟨isLine.noFeed, isLine.noReturn⟩⟩

/-- A carriage return is blank, so a text with a solid end does not end with one. -/
theorem IsLine.of_endsSolid {line : Text} (noFeed : '\n' ∉ line) (solid : EndsSolid line) :
    IsLine line :=
  ⟨noFeed, fun isReturn => absurd (solid '\r' isReturn) (by decide)⟩

/-- A text always has a first line. -/
theorem sourceLines_ne_nil (text : Text) : sourceLines text ≠ [] := by
  -- Every branch puts at least one line in front.
  fun_cases sourceLines text <;> simp

/-- A character that starts no break extends the line behind it. -/
theorem sourceLines_cons {char : Char} {rest line : Text} {lines : List Text}
    (noFeed : char ≠ '\n') (noPair : char = '\r' → rest.head? ≠ some '\n')
    (cut : sourceLines rest = line :: lines) :
    sourceLines (char :: rest) = (char :: line) :: lines := by
  -- Neither of the two branches that break the line applies.
  have notPaired : ∀ back, char = '\r' → rest = '\n' :: back → False := by
    intro back isReturn isFeed
    exact noPair isReturn (by rw [isFeed]; rfl)
  rw [sourceLines.eq_4 char rest noFeed notPaired, cut]

/-- A line with a line feed behind it is cut off as it stands. -/
theorem sourceLines_append {line : Text} (isLine : IsLine line) (rest : Text) :
    sourceLines (line ++ '\n' :: rest) = line :: sourceLines rest := by
  -- Each character extends the line behind it, and the last of them meets the break alone.
  induction line with
  | nil => rfl
  | cons char line ih =>
    obtain ⟨noFeed, noReturn⟩ := isLine
    simp only [List.mem_cons, not_or] at noFeed
    rw [List.cons_append]
    refine sourceLines_cons (Ne.symm noFeed.1) ?_ (ih ⟨noFeed.2, ?_⟩)
    · -- A return before a feed would have to end the line.
      intro isReturn followed
      cases line with
      | nil => simp [isReturn] at noReturn
      | cons next line =>
        simp only [List.cons_append, List.head?_cons, Option.some.injEq] at followed
        simp [followed] at noFeed
    · -- What is left of the line ends as the line does.
      cases line with
      | nil => simp
      | cons next line => simpa using noReturn

/-- A text without a line feed is one line. -/
theorem sourceLines_of_no_feed {line : Text} (noFeed : '\n' ∉ line) :
    sourceLines line = [line] := by
  induction line with
  | nil => rfl
  | cons char line ih =>
    simp only [List.mem_cons, not_or] at noFeed
    refine sourceLines_cons (Ne.symm noFeed.1) ?_ (ih noFeed.2)
    -- No pair can start here, for its second half would be a feed.
    intro _ followed
    exact noFeed.2 (List.mem_of_mem_head? followed)

/-- A further line goes behind a line feed. -/
theorem joinLines_cons (line : Text) {lines : List Text} (more : lines ≠ []) :
    joinLines (line :: lines) = line ++ '\n' :: joinLines lines := by
  cases lines with
  | nil => exact absurd rfl more
  | cons second lines => simp [joinLines, join]

/-- Two runs of lines are joined with a line feed between them. -/
theorem joinLines_append {front back : List Text} (some : front ≠ []) (more : back ≠ []) :
    joinLines (front ++ back) = joinLines front ++ '\n' :: joinLines back := by
  -- The line feed between the two parts stands behind the last line of the front.
  induction front with
  | nil => exact absurd rfl some
  | cons line front ih =>
    by_cases last : front = []
    · subst last
      exact joinLines_cons line more
    · rw [List.cons_append, joinLines_cons line (by simp [last]), ih last, joinLines_cons line last,
        List.append_assoc, List.cons_append]

/-- Joined lines begin with the first of them joined. -/
theorem joinLines_prefix (front back : List Text) : joinLines front <+: joinLines (front ++ back) := by
  -- Where either part is empty, no line feed is put between them.
  by_cases empty : front = []
  · rw [empty]
    exact List.nil_prefix
  · by_cases last : back = []
    · subst last
      exact ⟨[], by rw [List.append_nil, List.append_nil]⟩
    · rw [joinLines_append empty last]
      exact List.prefix_append _ _

/-- The last line stands behind all lines above it, with a break where there are any. -/
theorem exists_joinLines_concat (above : List Text) :
    ∃ before, joinLines above <+: before ∧ ∀ line, joinLines (above ++ [line]) = before ++ line := by
  -- The line feed in front of the last line is there only if a line stands above it.
  by_cases first : above = []
  · rw [first]
    exact ⟨[], List.nil_prefix, fun line => rfl⟩
  · refine ⟨joinLines above ++ ['\n'], List.prefix_append _ _, fun line => ?_⟩
    rw [joinLines_append first (by simp), List.append_assoc]
    rfl

/-- A line stands between the lines above it and those below it, with breaks where there are any. -/
theorem exists_joinLines_eq (above below : List Text) :
    ∃ before after, joinLines above <+: before ∧ (∀ char ∈ after.head?, char = '\n')
      ∧ ∀ line, joinLines (above ++ line :: below) = before ++ (line ++ after) := by
  obtain ⟨before, isPrefix, upper⟩ := exists_joinLines_concat above
  -- The line feed behind the line is there only if a line stands below it.
  by_cases last : below = []
  · refine ⟨before, [], isPrefix, by simp, fun line => ?_⟩
    rw [last, upper, List.append_nil]
  · refine ⟨before, '\n' :: joinLines below, isPrefix, by simp, fun line => ?_⟩
    rw [List.append_cons, joinLines_append (by simp) last, upper, List.append_assoc]

/-- Joined lines hold one line feed less than there are lines. -/
theorem count_feed_joinLines (line : Text) {lines : List Text}
    (noFeeds : ∀ other ∈ line :: lines, '\n' ∉ other) :
    (joinLines (line :: lines)).count '\n' = lines.length := by
  -- Every line but the first has one line feed in front, and none holds another one.
  induction lines generalizing line with
  | nil => exact List.count_eq_zero_of_not_mem (noFeeds line (by simp))
  | cons second lines ih =>
    have inLine : line.count '\n' = 0 := List.count_eq_zero_of_not_mem (noFeeds line (by simp))
    have behind := ih second fun other member => noFeeds other (List.mem_cons_of_mem _ member)
    rw [joinLines_cons line (by simp), List.count_append, inLine, List.count_cons_self, behind,
      List.length_cons, Nat.zero_add]

/-- Joined lines are cut into the same lines again. -/
theorem sourceLines_joinLines {lines : List Text} (some : lines ≠ [])
    (areLines : ∀ line ∈ lines, IsLine line) : sourceLines (joinLines lines) = lines := by
  induction lines with
  | nil => exact absurd rfl some
  | cons line lines ih =>
    -- The last line has no break behind it, and every other one is cut off at its break.
    by_cases more : lines = []
    · subst more
      exact sourceLines_of_no_feed (areLines line (by simp)).noFeed
    · rw [joinLines_cons line more, sourceLines_append (areLines line (by simp)),
        ih more fun other member => areLines other (by simp [member])]

/-- Above whole lines, a text has its own lines: one for each of the line feeds above. -/
theorem exists_sourceLines_append {above : Text} (whole : ∀ last ∈ above.getLast?, last = '\n')
    (below : Text) :
    ∃ lines, lines.length = above.count '\n'
      ∧ sourceLines (above ++ below) = lines ++ sourceLines below := by
  induction above with
  | nil => exact ⟨[], rfl, rfl⟩
  | cons char above ih =>
    cases above with
    | nil =>
      -- A single character has to be the line feed at the end.
      obtain rfl : char = '\n' := whole char rfl
      exact ⟨[[]], rfl, rfl⟩
    | cons next above =>
      obtain ⟨lines, counted, cut⟩ := ih whole
      by_cases isFeed : char = '\n'
      · subst isFeed
        refine ⟨[] :: lines, ?_, ?_⟩
        · rw [List.length_cons, counted, List.count_cons_self]
        · rw [List.cons_append, sourceLines, cut, List.cons_append]
      · -- The first line takes the character in, unless it is a return that goes with a feed.
        have counts : (char :: next :: above).count '\n' = (next :: above).count '\n' :=
          List.count_cons_of_ne isFeed
        by_cases paired : char = '\r' ∧ next = '\n'
        · obtain ⟨rfl, rfl⟩ := paired
          exact ⟨lines, by rw [counted, counts], cut⟩
        · have feeds : '\n' ∈ next :: above := by
            obtain ⟨last, isLast⟩ : ∃ last, (next :: above).getLast? = some last :=
              Option.isSome_iff_exists.mp (by simp)
            obtain rfl : last = '\n' := whole last isLast
            exact List.mem_of_getLast? isLast
          -- So there is a line to take the character in.
          have some : lines ≠ [] := by
            rw [← List.length_pos_iff, counted]
            exact List.count_pos_iff.mpr feeds
          obtain ⟨line, others, rfl⟩ := List.exists_cons_of_ne_nil some
          refine ⟨(char :: line) :: others, by rw [counts, ← counted]; rfl, ?_⟩
          refine sourceLines_cons isFeed ?_ cut
          intro isReturn followed
          exact paired ⟨isReturn, by simpa using followed⟩

/-- No line holds a line feed. -/
theorem feed_not_mem_of_mem_sourceLines {text line : Text} (member : line ∈ sourceLines text) :
    '\n' ∉ line := by
  fun_induction sourceLines text generalizing line with
  | case1 => simp_all
  | case2 rest ih =>
    rcases List.mem_cons.mp member with rfl | member
    · simp
    · exact ih member
  | case3 rest ih =>
    rcases List.mem_cons.mp member with rfl | member
    · simp
    · exact ih member
  | case4 char rest noFeed _ cut ih => exact absurd cut (sourceLines_ne_nil rest)
  | case5 char rest noFeed _ first lines cut ih =>
    -- The character that was put in front of the first line is no line feed.
    rcases List.mem_cons.mp member with rfl | member
    · have firstLine : '\n' ∉ first := ih (by rw [cut]; simp)
      simp only [List.mem_cons, not_or]
      exact ⟨Ne.symm noFeed, firstLine⟩
    · exact ih (by rw [cut]; simp [member])

/-- No line between Unicode boundaries holds such a boundary. -/
theorem not_break_of_mem_brokenLines {text line : Text} (member : line ∈ brokenLines text) :
    ∀ char ∈ line, breakCodes.has char = false := by
  fun_induction brokenLines text generalizing line with
  | case1 => simp at member
  | case2 rest ih =>
    -- A boundary closes a line that is empty so far, and stays out of the lines itself.
    rcases List.mem_cons.mp member with rfl | member
    · simp
    · exact ih member
  | case3 char rest _ breaks ih =>
    rcases List.mem_cons.mp member with rfl | member
    · simp
    · exact ih member
  | case4 char rest _ inside _ ih =>
    rw [List.mem_singleton] at member
    subst member
    simpa using inside
  | case5 char rest _ inside first lines cut ih =>
    rw [cut] at ih
    rcases List.mem_cons.mp member with rfl | member
    · -- What was put in front of the first line is no boundary either.
      intro other held
      rcases List.mem_cons.mp held with rfl | held
      · simpa using inside
      · exact ih List.mem_cons_self other held
    · exact ih (List.mem_cons_of_mem _ member)

/-- A line between Unicode boundaries stays one line. -/
theorem isLine_of_mem_brokenLines {text line : Text} (member : line ∈ brokenLines text) :
    IsLine line where
  noFeed := fun held =>
    absurd (not_break_of_mem_brokenLines member '\n' held) (by decide)
  noReturn := fun isReturn =>
    absurd (not_break_of_mem_brokenLines member '\r' (List.mem_of_getLast? isReturn)) (by decide)

/-- The lines of a text that ends its lines in line feeds alone. -/
def feedLines (text : Text) : List Text :=
  text.splitOn '\n'

/-- Lines without a line feed are the lines of the text that they make up. -/
theorem flatMap_feedLines {lines : List Text} (noFeeds : ∀ line ∈ lines, '\n' ∉ line) :
    lines.flatMap feedLines = lines := by
  induction lines with
  | nil => rfl
  | cons line lines ih =>
    -- The first line is one line, and the others stay as they are.
    rw [List.flatMap_cons, feedLines, List.splitOn_eq_singleton (noFeeds line List.mem_cons_self),
      ih fun other member => noFeeds other (List.mem_cons_of_mem _ member)]
    rfl

/-- Joined texts have the lines of each of them, in order. -/
theorem feedLines_joinLines {texts : List Text} (some : texts ≠ []) :
    feedLines (joinLines texts) = texts.flatMap feedLines := by
  induction texts with
  | nil => exact absurd rfl some
  | cons text texts ih =>
    by_cases last : texts = []
    · subst last
      rw [List.flatMap_singleton]
      rfl
    · -- The line feed behind the first text parts its lines from the others.
      rw [joinLines_cons text last, List.flatMap_cons, ← ih last, feedLines,
        List.splitOn_append_cons_self]
      rfl

end EntityDto.Text
