import EntityDto.Conversion

/-! Sessions: current inputs with the result of their latest conversion. -/

namespace EntityDto

/-- The current inputs of a session, its latest result and how often it was computed. -/
structure Session where
  source : Text := []
  options : Options := {}
  result : Conversion := .blank
  recomputations : Nat := 0
  deriving DecidableEq

/-- New values for some of a session's inputs. -/
structure Session.Change where
  source : Option Text := none
  forceOptional : Option Bool := none
  stripAudit : Option Bool := none
  deriving DecidableEq

namespace Session

/-- The source after a change. -/
def sourceAfter (session : Session) (change : Change) : Text :=
  change.source.getD session.source

/-- The options after a change, which never touches the import paths. -/
def optionsAfter (session : Session) (change : Change) : Options :=
  { session.options with
    forceOptional := change.forceOptional.getD session.options.forceOptional
    stripAudit := change.stripAudit.getD session.options.stripAudit }

/-- Whether the session can keep its result: it has one, and the change alters no input. -/
def keepsResult (session : Session) (change : Change) : Bool :=
  -- A session that never converted holds no result of its inputs yet.
  session.sourceAfter change = session.source && session.optionsAfter change = session.options
    && session.recomputations != 0

/-- Changes inputs and converts anew unless the result can be kept. -/
def update (session : Session) (change : Change) : Logged Session :=
  if session.keepsResult change then ⟨session, []⟩
  else
    let source := session.sourceAfter change
    let options := session.optionsAfter change
    let outcome := convert source options
    ⟨⟨source, options, outcome.value, session.recomputations + 1⟩, outcome.events⟩

/-- Puts other options in place without converting. -/
def withOptions (session : Session) (options : Options) : Session :=
  { session with options := options }

/-- Puts another source in place without converting. -/
def withSource (session : Session) (source : Text) : Session :=
  { session with source := source }

end Session

end EntityDto
