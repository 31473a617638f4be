import EntityDto.Proofs.Conversion.Outcome
import EntityDto.Proofs.Token.Extent
import Mathlib.Data.List.Sort

/-!
What a conversion reports: a record for each stage that it comes to, and between them one warning
for each column block of the source whose parentheses never balance.
-/

namespace EntityDto

open Text

/-- A column block stands on the line with that number, and from there on it stays open. -/
def LeavesOpen (source : Text) (number : Nat) : Prop :=
  ∃ token ∈ Entity.tokens source, token.lineNumber = number ∧ token.block?.isSome = true
    ∧ StaysOpen ((sourceLines source).drop (number - 1))

/-- The lines of the column blocks that never close, in order. -/
def openLines (source : Text) : List Nat :=
  ((Entity.tokens source).filter Token.neverCloses).map Token.lineNumber

/-- These are the lines from which a column block stays open. -/
theorem mem_openLines_iff {source : Text} {number : Nat} :
    number ∈ openLines source ↔ LeavesOpen source number := by
  -- A block that never closes is told by its token, or by the lines from there to the end.
  simp only [openLines, List.mem_map, List.mem_filter, LeavesOpen]
  constructor
  · rintro ⟨token, ⟨member, never⟩, rfl⟩
    exact ⟨token, member, rfl, (Token.neverCloses_iff_of_mem member).mp never⟩
  · rintro ⟨token, member, rfl, opens⟩
    exact ⟨token, ⟨member, (Token.neverCloses_iff_of_mem member).mpr opens⟩, rfl⟩

/-- Their numbers rise, so that none of them is listed twice. -/
theorem pairwise_openLines (source : Text) : (openLines source).Pairwise (· < ·) :=
  List.pairwise_map.mpr ((Entity.tile_tokens source).pairwise.filter _)

example : openLines "export class A \x7b\n@Column(\x7b\n@Column(\x7b\n  x: T;".toList = [2, 3] := by
  decide +kernel

/-- Each of them is warned of once, in this order. -/
theorem warnings_eq (source : Text) :
    (Entity.tokens source).filterMap Token.warning?
      = (openLines source).map fun number : Nat => Event.unterminatedBlock number := by
  rw [openLines, List.map_map]
  -- Token by token, either side has an entry exactly where a block never closes.
  induction Entity.tokens source with
  | nil => rfl
  | cons token tokens ih =>
    rw [List.filterMap_cons, List.filter_cons, Token.warning?_eq]
    cases token.neverCloses with
    | true => exact congrArg _ ih
    | false => exact ih

/-- A report as the log shows it. -/
structure Record where
  severity : Severity
  /-- The name of the part that reports. -/
  logger : Text
  entity : Option Text
  stage : Option Stage
  message : Text
  deriving DecidableEq

/-- The record of an event. -/
def Event.record (event : Event) : Record :=
  ⟨event.severity, event.logger, event.entity?, event.stage?, event.message⟩

namespace Record

/-- The record as one log line; what it does not name is written as a dash. -/
def line (record : Record) : Text :=
  record.severity.name ++ " ".toList ++ record.logger
    ++ " [entity=".toList ++ record.entity.getD "-".toList
    ++ " stage=".toList ++ (record.stage.map Stage.name).getD "-".toList
    ++ "] - ".toList ++ record.message ++ "\n".toList

/-- A stage begins. -/
def stageStarted (entity : Option Text) (stage : Stage) : Record :=
  ⟨.info, "dtogen.core.engine".toList, entity, some stage, "Running stage".toList⟩

/-- There is no class to convert. -/
def classMissing : Record :=
  ⟨.warning, "dtogen.core.engine".toList, none, some .failed,
    "No entity class declaration found".toList⟩

/-- The column block on a line never closes. -/
def leftOpen (number : Nat) : Record :=
  ⟨.warning, "dtogen.converter.metadata".toList, none, some .parse,
    "Unterminated column decorator starting at line ".toList ++ ofNat number
      ++ "; captured to end of source".toList⟩

/-- The fields of an entity are read. -/
def parsed (entity : Entity) : Record :=
  ⟨.debug, "dtogen.converter.parser".toList, some entity.className, some .parse,
    "Parsed ".toList ++ ofNat entity.fields.length ++ " fields".toList⟩

/-- The fields of an entity are converted. -/
def converted (entity : Entity) : Record :=
  ⟨.info, "dtogen.core.engine".toList, some entity.className, some .done,
    "Converted ".toList ++ ofNat entity.fields.length ++ " fields".toList⟩

end Record

/-- The records of a conversion, as the source calls for them. -/
inductive StageLog (source : Text) : List Record → Prop
  /-- Where there is nothing to convert, nothing is reported. -/
  | blank (blank : AllBlank source) : StageLog source []
  /-- Without a class, only the first stage begins. -/
  | failed (solid : ¬ AllBlank source) (undeclared : ¬ DeclaresClass source) :
    StageLog source [.stageStarted none .parse, .classMissing]
  /-- With one, all stages follow each other, and the first one warns of the open blocks. -/
  | converted {entity : Entity} {numbers : List Nat}
    (found : Entity.ofSource? source = some entity) (ordered : numbers.Pairwise (· < ·))
    (each : ∀ number, number ∈ numbers ↔ LeavesOpen source number) :
    StageLog source
      (.stageStarted none .parse :: (numbers.map .leftOpen
        ++ [.parsed entity, .stageStarted (some entity.className) .renderRequest,
          .stageStarted (some entity.className) .renderResponse, .converted entity]))

/-- A blank source is converted without a report. -/
theorem events_convert_of_allBlank {source : Text} (blank : AllBlank source) (options : Options) :
    (convert source options).events = [] := by
  rw [convert, if_pos (isBlankText_iff.mpr blank)]

/-- A source without a class is reported as such. -/
theorem events_convert_of_undeclared {source : Text} (solid : ¬ AllBlank source)
    (undeclared : ¬ DeclaresClass source) (options : Options) :
    (convert source options).events = [.stageStarted none .parse, .classMissing] := by
  have missing := Entity.ofSource?_eq_none_iff.mpr undeclared
  rw [convert, if_neg (mt isBlankText_iff.mp solid), Entity.read, missing]
  rfl

/-- The reports of a source with a class, with a warning for each open block among them. -/
theorem events_convert_of_ofSource? {source : Text} {entity : Entity}
    (found : Entity.ofSource? source = some entity) (options : Options) :
    (convert source options).events
      = .stageStarted none .parse ::
        ((openLines source).map (fun number : Nat => .unterminatedBlock number)
          ++ .parsed entity.className entity.fields.length :: entity.renderEvents) := by
  rw [convert, isBlankText_of_ofSource? found, if_neg Bool.false_ne_true, Entity.read, found,
    warnings_eq]
  simp only [List.cons_append, List.append_assoc, List.nil_append]

/-- What a conversion reports is what its source calls for. -/
theorem stageLog_convert (source : Text) (options : Options) :
    StageLog source ((convert source options).events.map Event.record) := by
  -- The three ways in which a conversion ends have logs of their own.
  by_cases blank : AllBlank source
  · rw [events_convert_of_allBlank blank]
    exact .blank blank
  · cases found : Entity.ofSource? source with
    | none =>
      have undeclared := Entity.ofSource?_eq_none_iff.mp found
      rw [events_convert_of_undeclared blank undeclared]
      exact .failed blank undeclared
    | some entity =>
      rw [events_convert_of_ofSource? found, List.map_cons, List.map_append, List.map_map]
      exact .converted found (pairwise_openLines source) fun _ => mem_openLines_iff

/-- And a source calls for no other records than these. -/
theorem StageLog.eq_convert {source : Text} {records : List Record} (log : StageLog source records)
    (options : Options) : records = (convert source options).events.map Event.record := by
  cases log with
  | blank blank =>
    rw [events_convert_of_allBlank blank]
    rfl
  | failed solid undeclared =>
    rw [events_convert_of_undeclared solid undeclared]
    rfl
  | @converted entity numbers found ordered each =>
    -- Lines in order are told by which of them there are.
    have same : numbers = openLines source :=
      ordered.eq_of_mem_iff (pairwise_openLines source) fun number =>
        (each number).trans mem_openLines_iff.symm
    rw [events_convert_of_ofSource? found, List.map_cons, List.map_append, List.map_map, same]
    rfl

/-- A log holds the lines of the records that are serious enough. -/
theorem logText_eq (rank : Nat) (events : List Event) :
    logText rank events =
      ((events.map Event.record).filter fun record => rank ≤ record.severity.rank).flatMap
        Record.line := by
  rw [logText, eventsFrom, List.filter_map, List.flatMap_map]
  rfl

/--
The records of a conversion tell what happened, and the log shows those of them that pass its level.

A blank source leaves no record, and one without a class leaves two. Otherwise the stages follow
each other. The blocks left open are named first, each once, by their lines from the top down. Then
the parsed fields are counted, before the first text and once more behind the second one. Nothing
else is recorded, whatever the options are.
-/
theorem stageLog_iff (source : Text) (options : Options) :
    let events := (convert source options).events
    (∀ records, StageLog source records ↔ records = events.map Event.record)
    ∧ ∀ rank, logText rank events =
      ((events.map Event.record).filter fun record => rank ≤ record.severity.rank).flatMap
        Record.line := by
  refine ⟨fun records => ⟨fun log => log.eq_convert options, ?_⟩, fun rank => logText_eq rank _⟩
  rintro rfl
  exact stageLog_convert source options

end EntityDto
