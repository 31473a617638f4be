import EntityDto.Proofs.Conversion.Session

/-!
Sessions whose inputs are also assigned without an update: their result is the conversion of the
inputs of the latest recomputation, so an update can answer with the result of inputs that are gone.
-/

namespace EntityDto

/-- What can be done to a session. -/
inductive Session.Action where
  | update (change : Session.Change)
  /-- Other values are put into the options, past any update. -/
  | assignOptions (options : Options)
  /-- Another source is put in place, past any update. -/
  | assignSource (source : Text)
  deriving DecidableEq

namespace Session

/-- The session after an action. -/
def act (session : Session) : Action → Session
  | .update change => (session.update change).value
  | .assignOptions options => session.withOptions options
  | .assignSource source => session.withSource source

/-- The session after actions, one after another. -/
def perform (session : Session) (actions : List Action) : Session :=
  actions.foldl act session

/-- The inputs that the latest recomputation among some actions put in place, if there is one. -/
def latestConverted? (session : Session) : List Action → Option Inputs
  | [] => none
  | action :: rest =>
    let next := session.act action
    -- A recomputation shows in the count, which nothing else moves.
    (next.latestConverted? rest).or
      (if next.recomputations = session.recomputations then none else some next.inputs)

/-- An action leaves the result as it is, unless it recomputes and so converts its inputs. -/
theorem result_act (session : Session) (action : Action) :
    (session.act action).result =
      if (session.act action).recomputations = session.recomputations then session.result
      else (session.act action).inputs.outcome := by
  cases action with
  | assignOptions options => exact (if_pos rfl).symm
  | assignSource source => exact (if_pos rfl).symm
  | update change =>
    -- Only an update that recomputes moves the count, and it moves it by one.
    cases keeps : session.keepsResult change with
    | true =>
      have kept : session.act (.update change) = session := update_of_keepsResult keeps
      rw [kept, if_pos rfl]
    | false =>
      have counted :
          (session.act (.update change)).recomputations = session.recomputations + 1 := by
        rw [act, update_of_converts keeps]
      rw [if_neg (by omega)]
      exact isCurrent_of_converts keeps

/-- Behind some actions, a session holds the conversion of the inputs it converted last. -/
theorem result_perform (session : Session) (actions : List Action) :
    (session.perform actions).result =
      ((session.latestConverted? actions).map Inputs.outcome).getD session.result := by
  induction actions generalizing session with
  | nil => rfl
  | cons action rest ih =>
    have later : (session.perform (action :: rest)).result
        = ((session.act action).perform rest).result := rfl
    rw [later, ih, latestConverted?, result_act]
    -- A later recomputation counts before this one, and this one before what was there.
    cases (session.act action).latestConverted? rest with
    | some inputs => rfl
    | none => split <;> rfl

/-- An update recomputes exactly where there is no result yet or an input is altered. -/
theorem keepsResult_eq_false_iff (session : Session) (change : Change) :
    session.keepsResult change = false ↔
      session.recomputations = 0 ∨ session.inputs.after [change] ≠ session.inputs := by
  rw [← Bool.not_eq_true, keepsResult_iff, Classical.not_and_iff_not_or_not, Classical.not_not,
    or_comm]

/--
What an update answers behind any actions, and when that is the conversion of the inputs it leaves.

An update that is the first one, or that gives some input a value other than the session holds then,
converts the inputs it leaves. Any other one answers with the conversion of the inputs that were
converted last. That is stale exactly where an assignment since then has put inputs in place which
convert to something else, for the assigned values are taken for those of the result.
-/
theorem answer_isCurrent_iff (session : Session) (actions : List Action) (change : Change) :
    let before := session.perform actions
    let after := (before.update change).value
    let held := ((session.latestConverted? actions).map Inputs.outcome).getD session.result
    (after.result =
      if before.recomputations = 0 ∨ before.inputs.after [change] ≠ before.inputs then
        (convert after.source after.options).value
      else held)
    ∧ (after.result = (convert after.source after.options).value ↔
      before.recomputations = 0 ∨ before.inputs.after [change] ≠ before.inputs
        ∨ held = (convert before.source before.options).value) := by
  intro before after held
  cases keeps : before.keepsResult change with
  | false =>
    -- The update converts what it leaves, so its answer cannot be stale.
    have recomputes := (keepsResult_eq_false_iff before change).mp keeps
    have current : after.result = (convert after.source after.options).value :=
      isCurrent_of_converts keeps
    refine ⟨by rw [if_pos recomputes, current], iff_of_true current ?_⟩
    exact recomputes.imp_right .inl
  | true =>
    have kept : ¬(before.recomputations = 0 ∨ before.inputs.after [change] ≠ before.inputs) := by
      rw [← keepsResult_eq_false_iff, keeps]
      exact Bool.noConfusion
    -- The update changes nothing, so it answers with what the actions before it left.
    have unchanged : after = before := update_of_keepsResult keeps
    have answer : after.result = held := by
      rw [unchanged]
      exact result_perform session actions
    refine ⟨by rw [if_neg kept, answer], ?_⟩
    rw [answer, unchanged, ← or_assoc]
    exact (or_iff_right kept).symm

/-- The source of another empty class. -/
def otherClassSource : Text :=
  "export class B \x7b\x7d".toList

/-- An update behind an assignment answers with the conversion of the source before it. -/
theorem exists_stale_answer :
    let before := (start emptyClassSource {}).perform
      [.update {}, .assignSource otherClassSource]
    let after := (before.update {}).value
    after.source = otherClassSource
      ∧ after.result ≠ (convert after.source after.options).value := by
  decide +kernel

end Session

end EntityDto
