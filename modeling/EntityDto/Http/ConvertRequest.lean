import EntityDto.Http.Server

/-! How the deployed libraries read the bodies of conversion requests. -/

namespace EntityDto

open Text

namespace ConvertRequest

/-- The names under which a flag is accepted; the first one given counts. -/
def givenMember? (body : Json) : (names : List Text) → Option (Text × Json)
  | [] => none
  | name :: others =>
    match body.member? name with
    | some value => some (name, value)
    | none => givenMember? body others

/-- Zero and one stand for truth values, and other integers do not. -/
def integerFlag (value : Int) : Except Fault Bool :=
  -- An integer of at most 64 bits is of a fitting kind even where its value is not.
  if value = 0 then .ok false
  else if value = 1 then .ok true
  else if -Int.pow 2 63 ≤ value && value < Int.pow 2 63 then .error .unreadableBoolean
  else .error .notBoolean

/-- Reads a truth value. -/
def flag : Json → Except Fault Bool
  | .bool value => .ok value
  | .integer value => integerFlag value
  | .decimal digits places =>
    let unit := Int.pow 10 places
    if digits % unit = 0 then integerFlag (digits / unit) else .error .notBoolean
  | .text value => readBoolean value
  | _ => .error .notBoolean

/-- Reads a flag that may be left out or null. -/
def optionalFlag (body : Json) (names : List Text) : Except Problem (Option Bool) :=
  match givenMember? body names with
  -- A null under the first name counts as given there, so the second name is not asked.
  | none | some (_, .null) => .ok none
  | some (name, value) =>
    match flag value with
    | .ok value => .ok (some value)
    | .error fault => .error ⟨fault, ["body".toList, name], value⟩

/-- Reads the source text, which must be there. -/
def sourceText (body : Json) : Except Problem Text :=
  match body.member? "source".toList with
  | some (.text value) => .ok value
  | some value => .error ⟨.notText, ["body".toList, "source".toList], value⟩
  | none => .error ⟨.missing, ["body".toList, "source".toList], body⟩

/-- Reads the members of an object, telling every problem in their order. -/
def ofObject (body : Json) : Except (List Problem) ConvertRequest :=
  match sourceText body, optionalFlag body forceOptionalNames,
    optionalFlag body stripAuditNames with
  | .ok source, .ok forceOptional, .ok stripAudit => .ok ⟨source, forceOptional, stripAudit⟩
  | source, forceOptional, stripAudit =>
    .error ((Problem.of? source).toList ++ (Problem.of? forceOptional).toList
      ++ (Problem.of? stripAudit).toList)

/-- Reads a body; none at all and null are both missing. -/
def ofBody : Option Json → Except (List Problem) ConvertRequest
  | none | some .null => .error [⟨.missing, ["body".toList], .null⟩]
  | some (.object members) => ofObject (.object members)
  | some value => .error [⟨.notObject, ["body".toList], value⟩]

end ConvertRequest

/-- A problem as a client sees it. -/
def Problem.json (problem : Problem) : Json :=
  .object [("type".toList, .text problem.fault.code),
    ("loc".toList, .list (problem.location.map .text)),
    ("msg".toList, .text problem.fault.message), ("input".toList, problem.input)]

namespace ConvertRequest

/-- Reads a body, or answers with every problem that it has. -/
def readBody (body : Option Json) : Except HttpResponse ConvertRequest :=
  (ofBody body).mapError fun problems => explained 422 (.list (problems.map Problem.json))

end ConvertRequest

end EntityDto
