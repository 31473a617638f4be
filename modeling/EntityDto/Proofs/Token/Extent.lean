import EntityDto.Proofs.Token.Runs

/-! Which lines each token stands for: every line of a source belongs to one token or block. -/

namespace EntityDto

open Text

namespace Token

/-- How many lines a token stands for: a closed block takes all its lines, any other token one. -/
def height (token : Token) : Nat :=
  match token.kind with
  | .columnBlock text true => text.count '\n' + 1
  | _ => 1

/-- The token stands for the line with that number, among others perhaps. -/
def Covers (token : Token) (number : Nat) : Prop :=
  token.lineNumber ≤ number ∧ number < token.lineNumber + token.height

instance (token : Token) (number : Nat) : Decidable (token.Covers number) :=
  instDecidableAnd

/-- The tokens stand for the lines from `first` on to right before `last`, without gap or overlap. -/
def Tile (first : Nat) : List Token → Nat → Prop
  | [], last => first = last
  | token :: tokens, last => token.lineNumber = first ∧ Tile (first + token.height) tokens last

/-- A token stands for its own line at least. -/
theorem height_pos (token : Token) : 0 < token.height := by
  unfold height
  split <;> omega

/-- Only a column block that closes stands for more than one line. -/
theorem exists_kind_of_one_lt_height {token : Token} (tall : 1 < token.height) :
    ∃ text, token.kind = .columnBlock text true := by
  unfold height at tall
  -- All other tokens are one line high.
  split at tall
  · next text kind => exact ⟨text, kind⟩
  · omega

/-- A line by itself makes a token of one line. -/
theorem height_singleKind (line : Text) (number : Nat) :
    height ⟨singleKind (trim line), number, trim line⟩ = 1 := by
  rcases singleKind_cases line with ⟨-, kind⟩ | ⟨declaration, -, kind⟩ | ⟨-, kind⟩ <;>
    simp only [height, kind]

/-- A token stands for as many lines as it is made of. -/
theorem MadeOf.height_eq {below run : List Text} {token : Token} (made : MadeOf below token run)
    (noFeeds : ∀ line ∈ run, '\n' ∉ line) : token.height = run.length := by
  cases made with
  | single => exact height_singleKind _ _
  | @closed line rest =>
    -- The text of the block has one break less than it has lines.
    simp only [height, count_feed_joinLines line noFeeds, List.length_cons]
  | unclosed => rfl

/-- Tokens stand for the lines that they are made of. -/
theorem Runs.tile {number : Nat} {tokens : List Token} {runs : List (List Text)}
    (made : Runs number tokens runs) (noFeeds : ∀ line ∈ runs.flatten, '\n' ∉ line) :
    Tile number tokens (number + runs.flatten.length) := by
  -- Each run has as many lines as its token is high, so the next one starts below it.
  induction made with
  | nil => rfl
  | cons numbered made below ih =>
    rw [List.flatten_cons] at noFeeds
    have height := made.height_eq fun line member => noFeeds line (List.mem_append_left _ member)
    have lower := ih fun line member => noFeeds line (List.mem_append_right _ member)
    refine ⟨numbered, ?_⟩
    rwa [height, List.flatten_cons, List.length_append, ← Nat.add_assoc]

/-- The tokens of some lines stand for exactly these lines. -/
theorem tile_ofLinesFrom (number : Nat) {lines : List Text}
    (noFeeds : ∀ line ∈ lines, '\n' ∉ line) :
    Tile number (ofLinesFrom number lines) (number + lines.length) := by
  obtain ⟨runs, rfl, made⟩ := exists_runs number lines
  exact made.tile noFeeds

/-- Two runs of tokens that follow each other meet at one line. -/
theorem Tile.of_append {first last : Nat} {front back : List Token}
    (tile : Tile first (front ++ back) last) :
    ∃ middle, Tile first front middle ∧ Tile middle back last := by
  -- The tokens of the front are passed one by one, each starting where the last one ended.
  induction front generalizing first with
  | nil => exact ⟨first, rfl, tile⟩
  | cons token front ih =>
    obtain ⟨middle, upper, lower⟩ := ih tile.2
    exact ⟨middle, ⟨tile.1, upper⟩, lower⟩

/-- Where tokens end fixes where they begin. -/
theorem Tile.first_eq {first other last : Nat} {tokens : List Token} (tile : Tile first tokens last)
    (otherTile : Tile other tokens last) : first = other := by
  cases tokens with
  | nil => exact tile.trans otherTile.symm
  | cons token tokens => exact tile.1.symm.trans otherTile.1

/-- Behind the first of its tokens, some lines are read as if they began right below these. -/
theorem exists_ofLinesFrom_of_append {number : Nat} {lines : List Text} {front back : List Token}
    (noFeeds : ∀ line ∈ lines, '\n' ∉ line) (split : ofLinesFrom number lines = front ++ back) :
    ∃ taken, Tile number front (number + taken)
      ∧ back = ofLinesFrom (number + taken) (lines.drop taken) := by
  obtain ⟨runs, rfl, made⟩ := exists_runs number lines
  rw [split] at made
  obtain ⟨upper, lower, rfl, behind⟩ := made.exists_of_append
  obtain ⟨middle, tile, tileBehind⟩ := (made.tile noFeeds).of_append
  rw [List.flatten_append] at noFeeds tileBehind ⊢
  -- The tokens in front end where those behind begin, which is right below the upper runs.
  have lowerTile := behind.tile fun line member => noFeeds line (List.mem_append_right _ member)
  rw [List.length_append, ← Nat.add_assoc] at tileBehind
  obtain rfl := tileBehind.first_eq lowerTile
  refine ⟨upper.flatten.length, tile, ?_⟩
  rw [List.drop_left]
  exact behind.ofLinesFrom_flatten.symm

/-- Every token stands between the ends of its run. -/
theorem Tile.bounds {first last : Nat} {tokens : List Token} (tile : Tile first tokens last) :
    first ≤ last ∧ ∀ token ∈ tokens, first ≤ token.lineNumber ∧ token.lineNumber < last := by
  -- Each token takes at least one line, and all later ones start below it.
  induction tokens generalizing first with
  | nil => exact ⟨Nat.le_of_eq tile, by simp⟩
  | cons token tokens ih =>
    obtain ⟨here, below⟩ := tile
    obtain ⟨ends, inside⟩ := ih below
    have takes := token.height_pos
    refine ⟨by omega, ?_⟩
    intro other member
    rcases List.mem_cons.mp member with rfl | member
    · omega
    · have bounds := inside other member
      omega

/-- Each token starts further down than all tokens before it. -/
theorem Tile.pairwise {first last : Nat} {tokens : List Token} (tile : Tile first tokens last) :
    tokens.Pairwise fun token later => token.lineNumber < later.lineNumber := by
  -- The bounds of what lies below the first token part its line from all others.
  induction tokens generalizing first with
  | nil => exact List.Pairwise.nil
  | cons token tokens ih =>
    obtain ⟨here, below⟩ := tile
    refine .cons (fun later member => ?_) (ih below)
    have bounds := below.bounds.2 later member
    have takes := token.height_pos
    omega

/-- Where a run ends with the last token that starts above a line, a token over the line ends it. -/
theorem Tile.ends_of_covers {first last number : Nat} {tokens : List Token}
    (tile : Tile first tokens last) (start : ∀ token ∈ tokens, token.lineNumber < number)
    {token : Token} (member : token ∈ tokens) (covers : token.Covers number) :
    token.lineNumber + token.height = last := by
  obtain ⟨front, back, rfl⟩ := List.append_of_mem member
  obtain ⟨middle, -, here, below⟩ := tile.of_append
  rw [here]
  cases back with
  | nil => exact below
  | cons next back =>
    -- A token behind it would start below all its lines, and so below the line it covers.
    have startsAbove := start next (by simp)
    have startsBelow := below.1
    have high := covers.2
    omega

/-- The tokens that start in the first lines come before all others. -/
theorem Tile.filter_append {first last : Nat} {tokens : List Token} (tile : Tile first tokens last)
    (height : Nat) :
    (tokens.filter fun token => token.lineNumber ≤ height)
      ++ (tokens.filter fun token => height < token.lineNumber) = tokens := by
  induction tokens generalizing first with
  | nil => rfl
  | cons token tokens ih =>
    have inside := tile.bounds.2
    by_cases above : token.lineNumber ≤ height
    · have notBelow : ¬ height < token.lineNumber := by omega
      simp only [List.filter_cons, above, notBelow, decide_true, decide_false, if_true,
        Bool.false_eq_true, if_false, List.cons_append, ih tile.2]
    · -- Every later token starts further down than this one.
      have allBelow : ∀ other ∈ token :: tokens, height < other.lineNumber := by
        intro other member
        have bound := (inside other member).1
        have here := tile.1
        omega
      rw [List.filter_eq_nil_iff.mpr, List.filter_eq_self.mpr, List.nil_append]
      · exact fun other member => decide_eq_true (allBelow other member)
      · intro other member
        have below := allBelow other member
        simp only [decide_eq_true_eq]
        omega

/-- Every line between the ends of a run belongs to one of its tokens. -/
theorem Tile.exists_covers {first last number : Nat} {tokens : List Token}
    (tile : Tile first tokens last) (low : first ≤ number) (high : number < last) :
    ∃ token ∈ tokens, token.Covers number := by
  induction tokens generalizing first with
  | nil =>
    have ends : first = last := tile
    omega
  | cons token tokens ih =>
    obtain ⟨here, below⟩ := tile
    -- The line belongs to the first token, or it lies below all its lines.
    by_cases inside : number < first + token.height
    · exact ⟨token, by simp, by omega, by omega⟩
    · obtain ⟨other, member, covers⟩ := ih below (by omega)
      exact ⟨other, List.mem_cons_of_mem _ member, covers⟩

/-- No line belongs to two tokens. -/
theorem Tile.eq_of_covers {first last number : Nat} {tokens : List Token}
    (tile : Tile first tokens last) {token other : Token} (member : token ∈ tokens)
    (otherMember : other ∈ tokens) (covers : token.Covers number)
    (otherCovers : other.Covers number) : token = other := by
  induction tokens generalizing first with
  | nil => simp at member
  | cons head tokens ih =>
    obtain ⟨here, below⟩ := tile
    -- Every later token begins below the last line of the first one.
    have behind := below.bounds.2
    obtain ⟨low, high⟩ := covers
    obtain ⟨otherLow, otherHigh⟩ := otherCovers
    rcases List.mem_cons.mp member with rfl | later <;>
      rcases List.mem_cons.mp otherMember with rfl | otherLater
    · rfl
    · have bound := behind other otherLater
      omega
    · have bound := behind token later
      omega
    · exact ih below later otherLater

/-- What a token is, read off the line that it stands at. -/
structure StandsAt (token : Token) (line : Text) : Prop where
  text : token.text = trim line
  signed : token.waits = true → (trim line).startsWith ['@'] = true
  skipped : token.waits = false → token.declaration? = none → IsSkipped line ∧ token.height = 1

/-- A line by itself makes a token that stands at it. -/
theorem standsAt_singleKind (line : Text) (number : Nat) :
    StandsAt ⟨singleKind (trim line), number, trim line⟩ line := by
  -- A single line is a decorator, a property or skipped, and only a decorator waits.
  refine ⟨rfl, ?_, ?_⟩ <;>
    rcases singleKind_cases line with ⟨signed, kind⟩ | ⟨declaration, -, kind⟩ | ⟨skipped, kind⟩
  · exact fun _ => signed
  · simp [waits, kind]
  · simp [waits, kind]
  · simp [waits, kind]
  · simp [declaration?, kind]
  · exact fun _ _ => ⟨skipped, height_singleKind line number⟩

/-- A column block stands at the line that opens it. -/
theorem standsAt_columnBlock {line : Text} (opens : opensColumnBlock (trim line) = true)
    (block : Text) (closed : Bool) (number : Nat) :
    StandsAt ⟨.columnBlock block closed, number, trim line⟩ line where
  text := rfl
  signed _ := startsWith_of_opensColumnBlock opens
  skipped still := absurd still (by simp [waits])

/-- A token stands at the first of the lines that it is made of. -/
theorem MadeOf.exists_standsAt {below run : List Text} {token : Token}
    (made : MadeOf below token run) : ∃ line rest, run = line :: rest ∧ token.StandsAt line := by
  -- A token stands at the first line of its run, which is the only one unless its block closes.
  cases made with
  | @single line number _ => exact ⟨line, [], rfl, standsAt_singleKind line number⟩
  | @closed line rest number opens _ => exact ⟨line, rest, rfl, standsAt_columnBlock opens _ _ _⟩
  | @unclosed line number opens _ => exact ⟨line, [], rfl, standsAt_columnBlock opens _ _ _⟩

/-- Every token stands at a line, by its number. -/
theorem exists_standsAt {number : Nat} {lines : List Text} {token : Token}
    (member : token ∈ ofLinesFrom number lines) :
    ∃ index line, lines[index]? = some line ∧ token.lineNumber = number + index
      ∧ token.StandsAt line := by
  obtain ⟨above, run, below, rfl, numbered, made⟩ := exists_run_of_mem member
  obtain ⟨line, rest, rfl, stands⟩ := made.exists_standsAt
  exact ⟨above.length, line, by simp, numbered, stands⟩

end Token

/-- The tokens of a source stand for all its lines. -/
theorem Entity.tile_tokens (source : Text) :
    Token.Tile 1 (tokens source) (1 + (sourceLines source).length) :=
  Token.tile_ofLinesFrom 1 fun _ isLine => feed_not_mem_of_mem_sourceLines isLine

end EntityDto
