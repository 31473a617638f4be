import EntityDto.Session
import Mathlib.Data.List.Infix

/-!
Sessions after any run of updates: their inputs are the values given last, and their result is the
conversion of these inputs, whatever was converted before.
-/

namespace EntityDto

/-- What a conversion is made from. -/
structure Inputs where
  source : Text
  options : Options
  deriving DecidableEq

namespace Inputs

/-- The value given last, or the initial one where none was given. -/
def lastGiven (initial : α) (given : List α) : α :=
  given.getLast?.getD initial

/-- The inputs after some changes: each is the value given last, and the import paths stay. -/
def after (initial : Inputs) (changes : List Session.Change) : Inputs where
  source := lastGiven initial.source (changes.filterMap Session.Change.source)
  -- A change that gives no value for a flag leaves the one before it standing.
  options :=
    { initial.options with
      forceOptional := lastGiven initial.options.forceOptional
        (changes.filterMap Session.Change.forceOptional)
      stripAudit := lastGiven initial.options.stripAudit
        (changes.filterMap Session.Change.stripAudit) }

/-- What the inputs are converted to. -/
def outcome (inputs : Inputs) : Conversion :=
  (convert inputs.source inputs.options).value

/-- How many of the changes, made one after another, leave other inputs than they find. -/
def alterations (inputs : Inputs) : List Session.Change → Nat
  | [] => 0
  | change :: rest =>
    let changed := inputs.after [change]
    -- A value that is given again alters nothing.
    (if changed = inputs then 0 else 1) + changed.alterations rest

/-- A value that is given first stands until another one is given. -/
theorem lastGiven_filterMap_cons (given : Session.Change → Option α) (initial : α)
    (change : Session.Change) (rest : List Session.Change) :
    lastGiven initial ((change :: rest).filterMap given)
      = lastGiven ((given change).getD initial) (rest.filterMap given) := by
  -- Only where nothing else is given does the first value matter.
  cases isGiven : given change with
  | none => simp [lastGiven, isGiven]
  | some value => simp [lastGiven, isGiven, List.getLast?_cons]

/-- Changes may be made one after another. -/
theorem after_cons (initial : Inputs) (change : Session.Change) (rest : List Session.Change) :
    initial.after (change :: rest) = (initial.after [change]).after rest := by
  -- Each input goes its own way, and the first change hands its value on to the rest.
  simp only [after, lastGiven_filterMap_cons, List.filterMap_nil]
  rfl

end Inputs

namespace Session

/-- The current inputs of a session. -/
def inputs (session : Session) : Inputs :=
  ⟨session.source, session.options⟩

/-- A session that has not converted anything yet. -/
def start (source : Text) (options : Options) : Session :=
  { source, options }

/-- Makes changes one after another. -/
def run (session : Session) (changes : List Change) : Session :=
  changes.foldl (fun session change => (session.update change).value) session

/-- What the updates of a run answer: each the result that the session holds behind it. -/
def answers (session : Session) : List Change → List Conversion
  | [] => []
  | change :: rest =>
    let updated := (session.update change).value
    updated.result :: updated.answers rest

/-- The session holds the conversion of its own inputs. -/
def IsCurrent (session : Session) : Prop :=
  session.result = session.inputs.outcome

/-- The inputs behind a change are those that the change makes of the inputs before it. -/
theorem after_inputs (session : Session) (change : Change) :
    session.inputs.after [change] = ⟨session.sourceAfter change, session.optionsAfter change⟩ := by
  simp only [Inputs.after, Inputs.lastGiven_filterMap_cons, List.filterMap_nil]
  rfl

/-- A result is kept exactly where there is one and the inputs stay the same. -/
theorem keepsResult_iff (session : Session) (change : Change) :
    session.keepsResult change = true ↔
      session.inputs.after [change] = session.inputs ∧ session.recomputations ≠ 0 := by
  -- The inputs are equal when the source and the options are.
  rw [after_inputs]
  simp only [keepsResult, inputs, Inputs.mk.injEq, Bool.and_eq_true, decide_eq_true_eq, bne_iff_ne]

/-- An update that keeps the result changes nothing at all. -/
theorem update_of_keepsResult {session : Session} {change : Change}
    (keeps : session.keepsResult change = true) : (session.update change).value = session := by
  simp only [update, keeps, if_true]

/-- An update that does not keep the result converts the new inputs. -/
theorem update_of_converts {session : Session} {change : Change}
    (converts : session.keepsResult change = false) :
    (session.update change).value =
      ⟨session.sourceAfter change, session.optionsAfter change,
        (session.inputs.after [change]).outcome, session.recomputations + 1⟩ := by
  rw [after_inputs]
  simp only [update, converts, Bool.false_eq_true, if_false]
  rfl

/-- Whether or not the result is kept, an update puts the new inputs in place. -/
theorem inputs_update (session : Session) (change : Change) :
    (session.update change).value.inputs = session.inputs.after [change] := by
  cases keeps : session.keepsResult change with
  | true =>
    -- The inputs are not written then, but they are the new ones already.
    rw [update_of_keepsResult keeps]
    exact ((keepsResult_iff session change).mp keeps).1.symm
  | false =>
    rw [update_of_converts keeps, after_inputs]
    rfl

/-- An update that does not keep the result leaves a current one. -/
theorem isCurrent_of_converts {session : Session} {change : Change}
    (converts : session.keepsResult change = false) : (session.update change).value.IsCurrent := by
  rw [IsCurrent, inputs_update, update_of_converts converts]

/-- An update leaves a current result, from a session that holds one or never converted. -/
theorem isCurrent_update {session : Session} (change : Change)
    (was : session.recomputations = 0 ∨ session.IsCurrent) :
    (session.update change).value.IsCurrent := by
  cases keeps : session.keepsResult change with
  | true =>
    -- A session that never converted keeps nothing, so the kept result was current before.
    obtain ⟨-, converted⟩ := (keepsResult_iff session change).mp keeps
    rw [update_of_keepsResult keeps]
    exact was.resolve_left converted
  | false => exact isCurrent_of_converts keeps

/-- An update counts as a recomputation, unless there is a result and the inputs stay the same. -/
theorem recomputations_update (session : Session) (change : Change) :
    (session.update change).value.recomputations = session.recomputations
      + if session.inputs.after [change] = session.inputs ∧ session.recomputations ≠ 0 then 0
        else 1 := by
  -- An update that keeps the result does so for the reasons that the count goes by.
  cases keeps : session.keepsResult change with
  | true =>
    rw [update_of_keepsResult keeps, if_pos ((keepsResult_iff session change).mp keeps)]
    rfl
  | false =>
    have converts : ¬(session.inputs.after [change] = session.inputs
        ∧ session.recomputations ≠ 0) := by
      rw [← keepsResult_iff, keeps]
      exact Bool.false_ne_true
    rw [update_of_converts keeps, if_neg converts]

/-- A session never forgets that it converted. -/
theorem recomputations_update_ne_zero (session : Session) (change : Change) :
    (session.update change).value.recomputations ≠ 0 := by
  -- The count is kept only where it is not zero, and else it grows.
  rw [recomputations_update]
  split
  · next kept => exact kept.2
  · omega

/-- A run leaves the inputs that its changes make, one after another. -/
theorem inputs_run (session : Session) (changes : List Change) :
    (session.run changes).inputs = session.inputs.after changes := by
  -- The session is left open, for each update hands on one with other inputs.
  induction changes generalizing session with
  | nil => rfl
  | cons change rest ih =>
    rw [Inputs.after_cons, ← inputs_update]
    exact ih _

/-- Once a session holds a current result, it does so along every run. -/
theorem isCurrent_run {session : Session} (current : session.IsCurrent) (changes : List Change) :
    (session.run changes).IsCurrent := by
  induction changes generalizing session with
  | nil => exact current
  | cons change rest ih => exact ih (isCurrent_update change (.inr current))

/-- A session that has converted recomputes once for each change that alters its inputs. -/
theorem recomputations_run {session : Session} (converted : session.recomputations ≠ 0)
    (changes : List Change) :
    (session.run changes).recomputations
      = session.recomputations + session.inputs.alterations changes := by
  induction changes generalizing session with
  | nil => rfl
  | cons change rest ih =>
    -- The first change adds its own part, and the rest starts from the inputs it leaves.
    have later := ih (recomputations_update_ne_zero session change)
    rw [inputs_update, recomputations_update] at later
    simp only [converted, ne_eq, not_false_eq_true, and_true] at later
    rw [Inputs.alterations, ← Nat.add_assoc]
    exact later

/-- Every update of a run answers with the conversion of the inputs given so far. -/
theorem answers_eq {session : Session} (was : session.recomputations = 0 ∨ session.IsCurrent)
    (changes : List Change) :
    session.answers changes =
      changes.inits.tail.map fun given => (session.inputs.after given).outcome := by
  induction changes generalizing session with
  | nil => rfl
  | cons change rest ih =>
    have current := isCurrent_update change was
    rw [IsCurrent, inputs_update] at current
    -- What is given up to a later update is the first change and what is given behind it.
    have behind : rest.inits = [] :: rest.inits.tail := by cases rest <;> simp
    rw [answers, ih (.inr (isCurrent_update change was)), current, inputs_update, List.inits_cons,
      List.tail_cons, List.map_map, behind, List.map_cons, List.tail_cons]
    congr 1
    apply List.map_congr_left
    intro given _
    rw [Function.comp_apply, Inputs.after_cons session.inputs change given]

/--
A session is current after every update, and its history leaves no trace in its result.

Its source and flags are the values given last, its import paths are those it began with, its result
is the conversion of these inputs, and so is every answer on the way. It converted at the first
update and at each later one that altered an input. Two sessions with equal inputs hold equal
results.
-/
theorem run_isCurrent (source : Text) (options : Options) (first : Change) (later : List Change) :
    let session := (start source options).run (first :: later)
    session.source = Inputs.lastGiven source ((first :: later).filterMap Change.source)
    ∧ session.options.forceOptional
      = Inputs.lastGiven options.forceOptional ((first :: later).filterMap Change.forceOptional)
    ∧ session.options.stripAudit
      = Inputs.lastGiven options.stripAudit ((first :: later).filterMap Change.stripAudit)
    ∧ session.options.commonDtoImport = options.commonDtoImport
    ∧ session.options.transformerImport = options.transformerImport
    ∧ session.result = (convert session.source session.options).value
    ∧ (start source options).answers (first :: later)
      = (first :: later).inits.tail.map
        (fun given => (Inputs.after ⟨source, options⟩ given).outcome)
    ∧ session.recomputations = 1 + (Inputs.after ⟨source, options⟩ [first]).alterations later
    ∧ ∀ otherSource otherOptions otherFirst otherLater,
      let other := (start otherSource otherOptions).run (otherFirst :: otherLater)
      other.source = session.source → other.options = session.options →
        other.result = session.result := by
  intro session
  have inputs : session.inputs = Inputs.after ⟨source, options⟩ (first :: later) :=
    inputs_run _ _
  have sameSource : session.source = (Inputs.after ⟨source, options⟩ (first :: later)).source :=
    congrArg Inputs.source inputs
  have sameOptions : session.options = (Inputs.after ⟨source, options⟩ (first :: later)).options :=
    congrArg Inputs.options inputs
  -- The first update converts whatever it is given, and from then on the result is current.
  have runs (source : Text) (options : Options) (first : Change) (later : List Change) :
      ((start source options).run (first :: later)).IsCurrent :=
    isCurrent_run (isCurrent_update first (.inl rfl)) later
  have current : session.result = (convert session.source session.options).value :=
    runs source options first later
  have counted := recomputations_run
    (recomputations_update_ne_zero (start source options) first) later
  rw [inputs_update, recomputations_update, if_neg (fun kept => kept.2 rfl)] at counted
  refine ⟨sameSource, by rw [sameOptions]; rfl, by rw [sameOptions]; rfl, by rw [sameOptions]; rfl,
    by rw [sameOptions]; rfl, current, answers_eq (.inl rfl) _, ?_, ?_⟩
  · -- The count starts at zero, and the first update makes it one.
    exact counted
  · intro otherSource otherOptions otherFirst otherLater other sourcesAgree optionsAgree
    have otherCurrent : other.result = (convert other.source other.options).value :=
      runs otherSource otherOptions otherFirst otherLater
    rw [otherCurrent, current, sourcesAgree, optionsAgree]

/-- The source of an empty class. -/
def emptyClassSource : Text :=
  "export class A \x7b\x7d".toList

/-- A failed and a blank conversion before the same class change nothing about its result. -/
theorem run_isCurrent_detour :
    let session := (start [] {}).run [{ source := some emptyClassSource }]
    let other := (start "const x = 1;".toList {}).run
      [{}, { source := some "  ".toList }, { source := some emptyClassSource }]
    other.source = session.source ∧ other.options = session.options
      ∧ other.recomputations = 3 ∧ other.result = session.result := by
  -- Both runs end with the same inputs, and that decides the result, not the way there.
  obtain ⟨-, -, -, -, -, -, -, -, sameResult⟩ :=
    run_isCurrent [] {} { source := some emptyClassSource } []
  obtain ⟨-, -, -, -, -, -, -, counted, -⟩ := run_isCurrent "const x = 1;".toList {} {}
    [{ source := some "  ".toList }, { source := some emptyClassSource }]
  refine ⟨by decide +kernel, by decide +kernel, counted.trans (by decide +kernel), ?_⟩
  exact sameResult _ _ _ _ (by decide +kernel) (by decide +kernel)

end Session

end EntityDto
