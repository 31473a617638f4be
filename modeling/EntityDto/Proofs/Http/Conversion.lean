import EntityDto.Proofs.Conversion.Body
import EntityDto.Proofs.Conversion.Outcome
import EntityDto.Proofs.Http.Framework

/-!
The conversion route answers what converting does: the options are those of the request and, for
the rest, of the settings, and the answer tells the outcome as it is.
-/

namespace EntityDto

open Text

namespace Json

/-- The text that an object shows under a name, the empty one where it shows no text. -/
def shownText (name : Text) (item : Json) : Text :=
  match item.member? name with
  | some (.text value) => value
  | _ => []

/-- Whether an object shows true under a name. -/
def showsTrue (name : Text) (item : Json) : Bool :=
  match item.member? name with
  | some (.bool value) => value
  | _ => false

end Json

/--
A request class keeps the listed fields that are shown to be neither relations nor timestamps: its
body has one block for each of them, which declares the name that is shown, and no other block.
-/
def KeepsListed (request opening : Text) (listed : List Json) : Prop :=
  ∃ blocks, HasBody request opening blocks
    ∧ List.Forall₂ (fun item block => ∃ type, Declares block (item.shownText "name".toList) type)
      (listed.filter fun item =>
        !item.showsTrue "relation".toList && !item.showsTrue "audit".toList) blocks

/-- What the list says about a field is what the renderer goes by. -/
theorem keepsListed_requestDto {source : Text} {entity : Entity}
    (found : Entity.ofSource? source = some entity) (options : Options) :
    KeepsListed (entity.requestDto source options) entity.requestOpening
      (entity.fields.map Field.summary) := by
  refine ⟨_, Entity.hasBody_requestDto found options, ?_⟩
  -- Filtering what is shown keeps the fields that the request keeps.
  have kept : ((entity.fields.map Field.summary).filter fun item =>
      !item.showsTrue "relation".toList && !item.showsTrue "audit".toList)
        = entity.requestFields.map Field.summary := by
    rw [List.filter_map]
    rfl
  rw [kept, List.forall₂_map_left_iff, List.forall₂_map_right_iff, List.forall₂_same]
  intro field member
  have listed : field ∈ entity.fields := List.mem_of_mem_filter member
  have wellFormed := Entity.wellFormed_of_ofSource? found field listed
  exact ⟨_, wellFormed.declares_requestLines options⟩

/-- No request that posts something is a preflight. -/
theorem not_isPreflight_of_post {request : HttpRequest} (isPost : request.method = "POST".toList)
    (origin : Text) : ¬ request.IsPreflight origin := by
  intro preflight
  -- A preflight has a method of its own.
  have same := isPost.symm.trans preflight.isOptions
  exact absurd same (by decide)

/-- A posted conversion request that is read gets the status and the content of its answer. -/
theorem Framework.serve_of_readBody {framework : Framework} (lawful : framework.Lawful)
    (settings : Settings) {request : HttpRequest} {asked : ConvertRequest}
    (isPost : request.method = "POST".toList) (isConvert : request.path = "/v1/convert".toList)
    (isRead : framework.readBody request.body = .ok asked) :
    (framework.serve settings request).status = (convertResponse settings asked).status
    ∧ (framework.serve settings request).content = (convertResponse settings asked).content := by
  have listed : framework.convertOperation settings ∈ framework.operations settings :=
    List.mem_cons_of_mem _ List.mem_cons_self
  have answers : (framework.convertOperation settings).answer request.body
      = convertResponse settings asked := by
    simp only [convertOperation, isRead]
  -- The policy in front of the routes adds headers at most, for the request is no preflight.
  let routed := framework.route (framework.operations settings) request
  obtain ⟨passedStatus, passedContent⟩ :
      (framework.serve settings request).status = routed.status
      ∧ (framework.serve settings request).content = routed.content :=
    lawful.passes (not_isPreflight_of_post isPost)
  obtain ⟨routedStatus, routedContent⟩ := lawful.answers listed isPost isConvert
  rw [answers] at routedStatus routedContent
  exact ⟨passedStatus.trans routedStatus, passedContent.trans routedContent⟩

/--
The conversion route answers what converting does, whatever lawful framework carries it.

A posted body with a source text, each of whose two flags is a truth value, null or missing, is
converted with the flags that it sends, and those of the settings for the others. The answer is
an error with the message of the conversion exactly where the source is not blank and declares no
class, and a success elsewhere. A blank source has neither names nor texts nor fields. Any other
answer tells the names, the texts and the fields of the conversion, each field with what it is, and
the request keeps the fields that are told to be neither relations nor timestamps.
-/
theorem serve_convert {framework : Framework} (lawful : framework.Lawful) (settings : Settings)
    (request : HttpRequest) {members : List (Text × Json)} {source : Text}
    {forceOptional stripAudit : Option Bool}
    (isPost : request.method = "POST".toList) (isConvert : request.path = "/v1/convert".toList)
    (isObject : request.body = some (.object members))
    (sendsSource : (Json.object members).member? "source".toList = some (.text source))
    (sendsForce : ConvertRequest.SendsFlag (.object members)
      ["forceOptional".toList, "force_optional".toList] forceOptional)
    (sendsStrip : ConvertRequest.SendsFlag (.object members)
      ["stripAudit".toList, "strip_audit".toList] stripAudit) :
    let options : Options := {
      forceOptional := forceOptional.getD settings.defaultForceOptional
      stripAudit := stripAudit.getD settings.defaultStripAudit
      commonDtoImport := settings.commonDtoImport
      transformerImport := settings.transformerImport }
    let outcome := (convert source options).value
    let response := framework.serve settings request
    (response.status = 422 ↔ ¬ AllBlank source ∧ ¬ DeclaresClass source)
    ∧ (response.status = 422 → ∃ error, outcome.error? = some error
      ∧ response.content = .json (.object [("detail".toList, .text error.message)]))
    ∧ (response.status ≠ 422 → response.status = 200)
    ∧ (AllBlank source → response.content = .json (.object [
      ("className".toList, .null), ("baseName".toList, .null), ("requestDto".toList, .text []),
      ("responseDto".toList, .text []), ("fields".toList, .list [])]))
    ∧ (response.status = 200 → ¬ AllBlank source → ∃ entity listed,
      outcome.entity? = some entity
      ∧ listed = entity.fields.map (fun field => .object [
        ("name".toList, .text field.name), ("tsType".toList, .text field.type),
        ("optional".toList, .bool field.optional),
        ("decorators".toList, .list (field.decorators.map .text)),
        ("relation".toList, .bool field.isRelation), ("audit".toList, .bool field.isAudit),
        ("generatedPrimary".toList, .bool field.isGeneratedKey),
        ("tinyintBoolean".toList, .bool field.isTinyintBoolean)])
      ∧ response.content = .json (.object [
        ("className".toList, .text entity.className), ("baseName".toList, .text entity.baseName),
        ("requestDto".toList, .text outcome.request),
        ("responseDto".toList, .text outcome.response), ("fields".toList, .list listed)])
      ∧ KeepsListed outcome.request entity.requestOpening listed) := by
  intro options outcome response
  have isRead := lawful.reads sendsSource sendsForce sendsStrip
  rw [← isObject] at isRead
  obtain ⟨status, content⟩ :=
    Framework.serve_of_readBody lawful settings isPost isConvert isRead
  -- Settings fill in what a request leaves open, so the route makes this very conversion.
  have isOutcome : (convert source (settings.options forceOptional stripAudit)).value = outcome :=
    rfl
  simp only [convertResponse, isOutcome] at status content
  rcases convert_cases source options with
    ⟨blank, undeclared, value⟩ | ⟨solid, undeclared, value⟩
      | ⟨solid, declares, entity, found, value⟩
  · -- Nothing is converted, and the answer has nothing to tell.
    have isBlank : outcome = .blank := value
    rw [isBlank] at status content
    have succeeds : response.status = 200 := status
    have notRefused : response.status ≠ 422 := by
      rw [succeeds]
      decide
    exact ⟨iff_of_false notRefused fun refused => refused.1 blank,
      fun refused => absurd refused notRefused, fun _ => succeeds, fun _ => content,
      fun _ solid => absurd blank solid⟩
  · -- The conversion fails, and the answer says why.
    have failed : outcome = .failed .classMissing := value
    rw [failed] at status content
    have refused : response.status = 422 := status
    have notAnswered : response.status ≠ 200 := by
      rw [refused]
      decide
    refine ⟨iff_of_true refused ⟨solid, undeclared⟩, fun _ => ⟨.classMissing, ?_, content⟩,
      fun other => absurd refused other, fun blank => absurd blank solid,
      fun answered => absurd answered notAnswered⟩
    rw [failed]
    rfl
  · -- Both sides of the last clause look at the same entity.
    have converted : outcome = entity.converted source options := value
    rw [converted] at status content
    have succeeds : response.status = 200 := status
    have notRefused : response.status ≠ 422 := by
      rw [succeeds]
      decide
    refine ⟨iff_of_false notRefused fun refused => refused.2 declares,
      fun refused => absurd refused notRefused, fun _ => succeeds,
      fun blank => absurd blank solid, fun _ _ => ⟨entity, entity.fields.map Field.summary, ?_⟩⟩
    rw [converted]
    exact ⟨rfl, rfl, content, keepsListed_requestDto found options⟩

/-- A class of a text and a relation. -/
def ownedSource : Text :=
  joinLines ["export class AEntity \x7b".toList, "  name: string;".toList,
    "  @ManyToOne(() => BEntity)".toList, "  owner: BEntity;".toList, "\x7d".toList]

/-- What a client posts that wants what is required to stay so and leaves the rest to the server. -/
def ownedMembers : List (Text × Json) :=
  [("source".toList, .text ownedSource), ("force_optional".toList, .bool false),
    ("stripAudit".toList, .null)]

/-- The fields that the answer lists: the text, and the relation, which is shown to be one. -/
def ownedFields : List Json :=
  [.object [("name".toList, .text "name".toList), ("tsType".toList, .text "string".toList),
      ("optional".toList, .bool false), ("decorators".toList, .list []),
      ("relation".toList, .bool false), ("audit".toList, .bool false),
      ("generatedPrimary".toList, .bool false), ("tinyintBoolean".toList, .bool false)],
    .object [("name".toList, .text "owner".toList), ("tsType".toList, .text "BEntity".toList),
      ("optional".toList, .bool false),
      ("decorators".toList, .list [.text "@ManyToOne(() => BEntity)".toList]),
      ("relation".toList, .bool true), ("audit".toList, .bool false),
      ("generatedPrimary".toList, .bool false), ("tinyintBoolean".toList, .bool false)]]

/-- The class is converted with one flag as it was sent and the other as it is by default. -/
theorem serve_convert_owned :
    let outcome := (convert ownedSource { forceOptional := false, stripAudit := true }).value
    let response := serve {} {
      method := "POST".toList, path := "/v1/convert".toList, body := some (.object ownedMembers) }
    response.status = 200
    ∧ response.content = .json (.object [
      ("className".toList, .text "AEntity".toList), ("baseName".toList, .text "A".toList),
      ("requestDto".toList, .text outcome.request),
      ("responseDto".toList, .text outcome.response), ("fields".toList, .list ownedFields)])
    ∧ KeepsListed outcome.request "export class ADto extends CommonDto \x7b".toList ownedFields := by
  intro outcome response
  -- One flag is sent under its second name, and the other is null under its first one.
  have sendsForce : ConvertRequest.SendsFlag (.object ownedMembers)
      ["forceOptional".toList, "force_optional".toList] (some false) := by
    refine .bool "force_optional".toList false (by decide) rfl ?_
    rw [List.forall_mem_cons, List.forall_mem_singleton]
    exact ⟨fun _ => rfl, fun different => absurd rfl different⟩
  have sendsStrip : ConvertRequest.SendsFlag (.object ownedMembers)
      ["stripAudit".toList, "strip_audit".toList] none := by
    refine .null "stripAudit".toList (by decide) rfl ?_
    rw [List.forall_mem_cons, List.forall_mem_singleton]
    exact ⟨fun different => absurd rfl different, fun _ => rfl⟩
  obtain ⟨refused, -, answered, -, tells⟩ :=
    serve_convert lawful_deployed {}
      ⟨"POST".toList, "/v1/convert".toList, [], some (.object ownedMembers)⟩
      rfl rfl rfl rfl sendsForce sendsStrip
  -- The source declares a class and is not blank, so the answer lists its fields.
  have declares : DeclaresClass ownedSource := isSome_className?_iff.mp (by decide +kernel)
  have succeeds : response.status = 200 := answered fun status => (refused.mp status).2 declares
  obtain ⟨entity, listed, isEntity, isListed, content, keeps⟩ := tells succeeds (by decide +kernel)
  have found : Entity.ofSource? ownedSource = some ⟨"AEntity".toList, "A".toList,
      [⟨"name".toList, "string".toList, false, [], none⟩,
        ⟨"owner".toList, "BEntity".toList, false, ["@ManyToOne(() => BEntity)".toList], none⟩]⟩ := by
    decide +kernel
  rw [entity?_convert, found, Option.some.injEq] at isEntity
  subst isEntity isListed
  exact ⟨succeeds, content, keeps⟩

end EntityDto
