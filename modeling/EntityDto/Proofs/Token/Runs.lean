import EntityDto.Proofs.Token.Lines

/-!
The lines of a source fall into runs, one for each token: a column block that closes is made of all
its lines, and any other token of a single line. Whatever tokens are made of some lines in this way,
they are the tokens of these lines, so the tokens of two sources make up those of both together.
-/

namespace EntityDto

open Text

/-- The parentheses of a run balance at its last line, and at no line before. -/
def ClosesAtEnd (run : List Text) : Prop :=
  linesBalance run ≤ 0
    ∧ ∀ count, 0 < count → count < run.length → 0 < linesBalance (run.take count)

/-- The parentheses of some lines balance at none of them. -/
def StaysOpen (lines : List Text) : Prop :=
  ∀ count, 0 < count → count ≤ lines.length → 0 < linesBalance (lines.take count)

/-- The lines up to the closing one are a run that closes at its end. -/
theorem closesAtEnd_of_closingIndex? {line : Text} {rest : List Text} {index : Nat}
    (closes : closingIndex? 0 (line :: rest) = some index) :
    ClosesAtEnd (line :: rest.take index) := by
  obtain ⟨within, balanced, before⟩ := closingIndex?_eq_some_iff.mp closes
  simp only [Int.zero_add, List.take_succ_cons] at balanced before
  refine ⟨balanced, ?_⟩
  intro count some inside
  obtain ⟨earlier, rfl⟩ := Nat.exists_eq_add_one.mpr some
  -- As far as the run goes, its lines are those that the balance was taken of.
  simp only [List.length_cons, List.length_take] at inside
  rw [List.take_succ_cons, List.take_take, Nat.min_eq_left (by omega)]
  exact before earlier (by omega)

/-- A run that closes at its end closes there whatever stands below it. -/
theorem ClosesAtEnd.closingIndex?_eq {line : Text} {rest : List Text}
    (closes : ClosesAtEnd (line :: rest)) (below : List Text) :
    closingIndex? 0 (line :: (rest ++ below)) = some rest.length := by
  obtain ⟨balanced, before⟩ := closes
  -- The run alone closes at its last line, and lines further down do not move the closing one.
  have closesAlone : closingIndex? 0 (line :: rest) = some rest.length := by
    simp only [closingIndex?_eq_some_iff, Int.zero_add]
    refine ⟨by simp, ?_, fun earlier inside => before _ (by omega) (by simpa using inside)⟩
    rwa [List.take_of_length_le (by simp)]
  exact closingIndex?_append closesAlone below

/-- Lines stay open exactly when there is no closing line among them. -/
theorem closingIndex?_eq_none_iff {lines : List Text} :
    closingIndex? 0 lines = none ↔ StaysOpen lines := by
  constructor
  · intro unclosed count some inside
    -- A line that closed the front would close all the lines.
    have frontUnclosed : closingIndex? 0 (lines.take count) = none := by
      rw [Option.eq_none_iff_forall_ne_some]
      intro index closes
      have closesAll := closingIndex?_append closes (lines.drop count)
      rw [List.take_append_drop, unclosed] at closesAll
      cases closesAll
    have nonempty : lines.take count ≠ [] := by
      rw [← List.length_pos_iff, List.length_take]
      omega
    simpa using linesBalance_pos_of_unclosed (.inr nonempty) frontUnclosed
  · intro isOpen
    rw [Option.eq_none_iff_forall_ne_some]
    intro index closes
    obtain ⟨within, balanced, -⟩ := closingIndex?_eq_some_iff.mp closes
    -- The balance up to a closing line is not above zero.
    have opened := isOpen (index + 1) (by omega) within
    omega

namespace Token

/-- A token is made of a run of lines, below which other lines stand. -/
inductive MadeOf (below : List Text) : Token → List Text → Prop
  /-- A line that opens no column block is a token by itself. -/
  | single {line : Text} (number : Nat) (single : opensColumnBlock (trim line) = false) :
    MadeOf below ⟨singleKind (trim line), number, trim line⟩ [line]
  /-- A column block that closes is made of its lines up to the closing one. -/
  | closed {line : Text} {rest : List Text} (number : Nat)
    (opens : opensColumnBlock (trim line) = true) (closes : ClosesAtEnd (line :: rest)) :
    MadeOf below ⟨.columnBlock (joinLines (line :: rest)) true, number, trim line⟩ (line :: rest)
  /-- One that never closes is made of its first line, but its text runs on to the end. -/
  | unclosed {line : Text} (number : Nat) (opens : opensColumnBlock (trim line) = true)
    (isOpen : StaysOpen (line :: below)) :
    MadeOf below ⟨.columnBlock (joinLines (line :: below)) false, number, trim line⟩ [line]

/-- Tokens are made of the lines from `number` on, each of the run right behind the last one. -/
inductive Runs : Nat → List Token → List (List Text) → Prop
  | nil (number : Nat) : Runs number [] []
  | cons {number : Nat} {token : Token} {tokens : List Token} {run : List Text}
    {runs : List (List Text)} (numbered : token.lineNumber = number)
    (made : MadeOf runs.flatten token run) (below : Runs (number + run.length) tokens runs) :
    Runs number (token :: tokens) (run :: runs)

/-- A token is made of one line at least. -/
theorem MadeOf.length_pos {below run : List Text} {token : Token} (made : MadeOf below token run) :
    0 < run.length := by
  cases made <;> simp

/-- Lines are cut into the runs that their tokens are made of. -/
theorem exists_runs (number : Nat) (lines : List Text) :
    ∃ runs, runs.flatten = lines ∧ Runs number (ofLinesFrom number lines) runs := by
  -- The cases are those of the scan, each of which puts one run before those of its rest.
  fun_induction ofLinesFrom number lines with
  | case1 number => exact ⟨[], rfl, .nil number⟩
  | case2 number line rest text opens index closes ih =>
    obtain ⟨runs, cut, below⟩ := ih
    -- The scan goes on right behind the lines of the block.
    obtain ⟨within, -, -⟩ := closingIndex?_eq_some_iff.mp closes
    rw [List.length_cons] at within
    have height : (line :: rest.take index).length = index + 1 := by
      rw [List.length_cons, List.length_take]
      omega
    refine ⟨(line :: rest.take index) :: runs, ?_, ?_⟩
    · rw [List.flatten_cons, cut, List.cons_append, List.take_append_drop]
    · refine .cons rfl (.closed number opens (closesAtEnd_of_closingIndex? closes)) ?_
      rwa [height, ← Nat.add_assoc]
  | case3 number line rest text opens unclosed ih =>
    obtain ⟨runs, rfl, below⟩ := ih
    have isOpen := closingIndex?_eq_none_iff.mp unclosed
    exact ⟨[line] :: runs, rfl, .cons rfl (.unclosed number opens isOpen) below⟩
  | case4 number line rest text single ih =>
    obtain ⟨runs, rfl, below⟩ := ih
    exact ⟨[line] :: runs, rfl, .cons rfl (.single number (by simpa using single)) below⟩

/-- Tokens that are made of the runs of some lines are the tokens of these lines. -/
theorem Runs.ofLinesFrom_flatten {number : Nat} {tokens : List Token} {runs : List (List Text)}
    (made : Runs number tokens runs) : ofLinesFrom number runs.flatten = tokens := by
  induction made with
  | nil => rw [List.flatten_nil, ofLinesFrom]
  | cons numbered made below ih =>
    subst numbered
    rw [List.flatten_cons]
    -- In each case the scan takes the first run whole and goes on with the lines of the others.
    cases made with
    | single number single =>
      rw [List.singleton_append, ofLinesFrom_single single]
      exact congrArg _ ih
    | @closed line rest number opens closes =>
      rw [List.cons_append, ofLinesFrom_closed opens (closes.closingIndex?_eq _), List.take_left,
        List.drop_left]
      exact congrArg _ ih
    | unclosed number opens isOpen =>
      rw [List.singleton_append, ofLinesFrom_unclosed opens (closingIndex?_eq_none_iff.mpr isOpen)]
      exact congrArg _ ih

/-- A run, with the token that is made of it, takes the line with that number. -/
def Takes (piece : Token × List Text) (number : Nat) : Prop :=
  piece.1.lineNumber ≤ number ∧ number < piece.1.lineNumber + piece.2.length

/-- No token stands above the first of its lines. -/
theorem Runs.le_lineNumber {number : Nat} {tokens : List Token} {runs : List (List Text)}
    (made : Runs number tokens runs) :
    ∀ piece ∈ tokens.zip runs, number ≤ piece.1.lineNumber := by
  induction made with
  | nil => simp
  | cons numbered made below ih =>
    intro piece member
    rw [List.zip_cons_cons, List.mem_cons] at member
    rcases member with rfl | member
    · exact Nat.le_of_eq numbered.symm
    · -- Further runs begin below the first one.
      have lower := ih piece member
      omega

/-- Every line belongs to one run, and to no other. -/
theorem Runs.existsUnique_takes {number : Nat} {tokens : List Token} {runs : List (List Text)}
    (made : Runs number tokens runs) {index : Nat} (within : index < runs.flatten.length) :
    ∃! piece, piece ∈ tokens.zip runs ∧ Takes piece (number + index) := by
  -- The index counts from the first run, and so it gets smaller from run to run.
  induction made generalizing index with
  | nil => simp at within
  | @cons number token tokens run runs numbered made below ih =>
    rw [List.flatten_cons, List.length_append] at within
    simp only [List.zip_cons_cons, List.mem_cons]
    by_cases inFirst : index < run.length
    · -- The first run takes the line, and all others begin below that run.
      refine ⟨(token, run), ⟨.inl rfl, by simp only; omega, by simp only; omega⟩, ?_⟩
      rintro piece ⟨rfl | member, low, -⟩
      · rfl
      · have lower := below.le_lineNumber piece member
        omega
    · -- The first run ends above the line, so the line belongs to one of the others.
      obtain ⟨piece, ⟨member, low, high⟩, only⟩ := @ih (index - run.length) (by omega)
      have same : number + run.length + (index - run.length) = number + index := by omega
      rw [same] at low high only
      refine ⟨piece, ⟨.inr member, low, high⟩, ?_⟩
      rintro other ⟨rfl | member, takes⟩
      · have high := takes.2
        simp only at high
        omega
      · exact only other ⟨member, takes⟩

/-- There are no more runs than lines. -/
theorem Runs.length_le {number : Nat} {tokens : List Token} {runs : List (List Text)}
    (made : Runs number tokens runs) : tokens.length ≤ runs.flatten.length := by
  -- Each token is made of one line at least.
  induction made with
  | nil => simp
  | cons numbered made below ih =>
    have some := made.length_pos
    rw [List.flatten_cons, List.length_append, List.length_cons]
    omega

/--
The tokens of some lines are made of runs that follow each other from the first line to the last.

Each line belongs to one run and to no other, and each run is made of one line at least, so that the
scan ends after as many tokens as there are lines at most.
-/
theorem ofLines_tile (lines : List Text) :
    ∃ runs, runs.flatten = lines ∧ Runs 1 (ofLines lines) runs
      ∧ (∀ index : Fin lines.length,
        ∃! piece, piece ∈ (ofLines lines).zip runs ∧ Takes piece (1 + index))
      ∧ (ofLines lines).length ≤ lines.length := by
  obtain ⟨runs, rfl, made⟩ := exists_runs 1 lines
  exact ⟨runs, rfl, made, fun index => made.existsUnique_takes index.isLt, made.length_le⟩

/-- Behind the first tokens, the others are made of the runs that are left. -/
theorem Runs.exists_of_append {number : Nat} {front back : List Token} {runs : List (List Text)}
    (made : Runs number (front ++ back) runs) :
    ∃ upper lower, runs = upper ++ lower ∧ Runs (number + upper.flatten.length) back lower := by
  induction front generalizing number runs with
  | nil => exact ⟨[], runs, rfl, made⟩
  | cons token front ih =>
    -- The run of the first token goes to those above.
    cases made with
    | @cons _ _ _ run runs numbered made below =>
      obtain ⟨upper, lower, rfl, behind⟩ := ih below
      refine ⟨run :: upper, lower, rfl, ?_⟩
      rwa [List.flatten_cons, List.length_append, ← Nat.add_assoc]

/-- Every token is made of a run of the lines. -/
theorem exists_run_of_mem {number : Nat} {lines : List Text} {token : Token}
    (member : token ∈ ofLinesFrom number lines) :
    ∃ above run below, lines = above ++ (run ++ below)
      ∧ token.lineNumber = number + above.length ∧ MadeOf below token run := by
  obtain ⟨runs, rfl, made⟩ := exists_runs number lines
  -- The tokens before it are made of the lines above.
  obtain ⟨front, back, split⟩ := List.append_of_mem member
  rw [split] at made
  obtain ⟨upper, lower, rfl, behind⟩ := made.exists_of_append
  cases behind with
  | @cons _ _ _ run lower numbered own _ =>
    exact ⟨upper.flatten, run, lower.flatten, List.flatten_append, numbered, own⟩

/-- A token starts with a line, and declares what can be read from that line. -/
theorem MadeOf.declaration?_eq {below run : List Text} {token : Token}
    (made : MadeOf below token run) :
    ∃ line rest, run = line :: rest ∧ token.text = trim line
      ∧ token.declaration? = Declaration.read? (trim line) := by
  -- Nothing can be read from the first line of a column block, which is a decorator.
  have silent {line : Text} (opens : opensColumnBlock (trim line) = true) :
      Declaration.read? (trim line) = none := by
    rw [Option.eq_none_iff_forall_ne_some]
    intro declaration isRead
    have plain := startsWith_eq_false_of_read? isRead
    rw [startsWith_of_opensColumnBlock opens] at plain
    cases plain
  cases made with
  | @single line number _ => exact ⟨line, [], rfl, rfl, declaration?_singleKind _ number⟩
  | @closed line rest number opens _ => exact ⟨line, rest, rfl, rfl, (silent opens).symm⟩
  | @unclosed line number opens _ => exact ⟨line, [], rfl, rfl, (silent opens).symm⟩

/-- Every token carries a line, trimmed, and declares nothing but what can be read from it. -/
theorem of_mem_ofLinesFrom {number : Nat} {lines : List Text} {token : Token}
    (member : token ∈ ofLinesFrom number lines) :
    ∃ line ∈ lines, token.text = trim line
      ∧ ∀ declaration, token.declaration? = some declaration →
        Declaration.read? (trim line) = some declaration := by
  obtain ⟨above, run, below, rfl, -, made⟩ := exists_run_of_mem member
  obtain ⟨line, rest, rfl, text, declares⟩ := made.declaration?_eq
  exact ⟨line, by simp, text, fun declaration isDeclared => declares.symm.trans isDeclared⟩

/-- The token is a column block that never closes. -/
def neverCloses (token : Token) : Bool :=
  match token.kind with
  | .columnBlock _ false => true
  | _ => false

/-- A line by itself is no column block. -/
theorem neverCloses_singleKind (line : Text) (number : Nat) (text : Text) :
    neverCloses ⟨singleKind (trim line), number, text⟩ = false := by
  rcases singleKind_cases line with ⟨-, kind⟩ | ⟨declaration, -, kind⟩ | ⟨-, kind⟩ <;>
    simp only [neverCloses, kind]

/-- A line by itself holds no raw text of a column block. -/
theorem block?_singleKind (line : Text) (number : Nat) (text : Text) :
    block? ⟨singleKind (trim line), number, text⟩ = none := by
  rcases singleKind_cases line with ⟨-, kind⟩ | ⟨declaration, -, kind⟩ | ⟨-, kind⟩ <;>
    simp only [block?, kind]

/-- A token never closes if it is a column block that is open to the end of the lines. -/
theorem MadeOf.neverCloses_iff {below run : List Text} {token : Token}
    (made : MadeOf below token run) :
    token.neverCloses = true ↔ token.block?.isSome = true ∧ StaysOpen (run ++ below) := by
  cases made with
  | single => rw [neverCloses_singleKind, block?_singleKind]; simp
  | @closed line rest number opens closes =>
    -- The run of a block that closes is a front of the lines at which the parentheses balance.
    refine iff_of_false Bool.false_ne_true fun isOpen => ?_
    have opened := isOpen.2 (line :: rest).length (by simp) (by simp)
    rw [List.take_left] at opened
    have balanced := closes.1
    omega
  | unclosed number opens isOpen => exact iff_of_true rfl ⟨rfl, isOpen⟩

/-- Whether a token never closes, read off the lines from its own one on. -/
theorem neverCloses_iff_of_mem {lines : List Text} {token : Token}
    (member : token ∈ ofLines lines) :
    token.neverCloses = true ↔
      token.block?.isSome = true ∧ StaysOpen (lines.drop (token.lineNumber - 1)) := by
  obtain ⟨above, run, below, rfl, numbered, made⟩ := exists_run_of_mem member
  rw [made.neverCloses_iff, numbered, Nat.add_sub_cancel_left, List.drop_left]

/-- A token warns of itself, by its line, if it never closes. -/
theorem warning?_eq (token : Token) :
    token.warning? =
      if token.neverCloses then some (.unterminatedBlock token.lineNumber) else none := by
  unfold warning? neverCloses
  -- Only a block can be left open, and it tells whether it is.
  cases token.kind with
  | columnBlock text closed => cases closed <;> rfl
  | _ => rfl

/-- What a token is made of does not depend on the lines below, unless its block is open to them. -/
theorem MadeOf.of_closes {below run : List Text} {token : Token} (made : MadeOf below token run)
    (closes : token.neverCloses = false) (others : List Text) : MadeOf others token run := by
  -- What stands below matters only to a block that never closes.
  cases made with
  | single number single => exact .single number single
  | closed number opens balances => exact .closed number opens balances
  | unclosed => cases closes

/-- A block that never closes is made of its first line, and all lines below belong to its text. -/
theorem MadeOf.of_neverCloses {below run : List Text} {token : Token}
    (made : MadeOf below token run) (never : token.neverCloses = true) :
    ∃ line, run = [line] ∧ token.kind = .columnBlock (joinLines (line :: below)) false := by
  -- Of the three ways to make a token, only one leaves a block open.
  cases made with
  | single =>
    rw [neverCloses_singleKind] at never
    cases never
  | closed => cases never
  | unclosed => exact ⟨_, rfl, rfl⟩

/-- Runs go on with further runs below, when no block is open to these. -/
theorem Runs.append {number : Nat} {tokens others : List Token} {runs otherRuns : List (List Text)}
    (upper : Runs number tokens runs) (closes : ∀ token ∈ tokens, token.neverCloses = false)
    (lower : Runs (number + runs.flatten.length) others otherRuns) :
    Runs number (tokens ++ others) (runs ++ otherRuns) := by
  induction upper with
  | nil => exact lower
  | cons numbered made below ih =>
    -- The lower lines are new to the first token as well, which is open to none of them.
    refine .cons numbered (made.of_closes (closes _ List.mem_cons_self) _) (ih ?_ ?_)
    · exact fun token member => closes token (List.mem_cons_of_mem _ member)
    · rwa [List.flatten_cons, List.length_append, ← Nat.add_assoc] at lower

/-- Every column block that opens in the lines closes in them as well. -/
def BlocksClose (lines : List Text) : Prop :=
  ∀ token ∈ ofLines lines, token.neverCloses = false

instance (lines : List Text) : Decidable (BlocksClose lines) :=
  inferInstanceAs (Decidable (∀ token ∈ ofLines lines, token.neverCloses = false))

/--
The tokens of some lines stay the same wherever other lines follow, with the tokens of these behind
them under higher numbers, exactly when every block that opens in the lines closes in them.
-/
theorem ofLines_append_iff {front : List Text} :
    (∀ back, ofLines (front ++ back)
        = ofLines front ++ (ofLines back).map (shifted front.length)) ↔ BlocksClose front := by
  constructor
  · intro composes token member
    by_contra never
    rw [Bool.not_eq_false] at never
    -- Below the lines, one blank line more would belong to the text of a block that never closes.
    have found : token ∈ ofLines (front ++ [[]]) := by
      rw [composes]
      exact List.mem_append_left _ member
    obtain ⟨above, run, below, split, numbered, made⟩ := exists_run_of_mem member
    obtain ⟨others, otherRun, otherBelow, otherSplit, otherNumbered, otherMade⟩ :=
      exists_run_of_mem found
    obtain ⟨line, rfl, kind⟩ := made.of_neverCloses never
    obtain ⟨other, rfl, otherKind⟩ := otherMade.of_neverCloses never
    -- Both times the block stands at the same line, so its two texts differ in that line alone.
    rw [split, List.append_assoc] at otherSplit
    obtain ⟨rfl, behind⟩ := List.append_inj otherSplit (by omega)
    rw [List.singleton_append, List.singleton_append] at behind
    rw [← behind, joinLines_append (by simp) (by simp), kind] at otherKind
    simp at otherKind
  · intro closes back
    obtain ⟨runs, rfl, upper⟩ := exists_runs 1 front
    obtain ⟨otherRuns, rfl, lower⟩ := exists_runs (1 + runs.flatten.length) back
    -- The runs of both together are runs of all the lines, so their tokens are the tokens of these.
    have joined := (upper.append closes lower).ofLinesFrom_flatten
    rwa [List.flatten_append, ofLinesFrom_add] at joined

end Token

end EntityDto
