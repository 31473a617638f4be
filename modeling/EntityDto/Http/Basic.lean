import EntityDto.Json

/-! Requests and responses of the server. -/

namespace EntityDto

open Text

/-- Header names with their values; names match without regard to ASCII case. -/
abbrev Headers := List (Text × Text)

/-- The small form of an ASCII header name. -/
def headerKey (name : Text) : Text :=
  name.map lowerAscii

/-- The value of the first header with the given name. -/
def Headers.get? (headers : Headers) (name : Text) : Option Text :=
  (headers.find? fun header => headerKey header.1 = headerKey name).map Prod.snd

/-- A request; it may come without a body. -/
structure HttpRequest where
  method : Text
  path : Text
  headers : Headers := []
  body : Option Json := none

/-- What a response holds. -/
inductive Content where
  | json (value : Json)
  | text (value : Text)

/-- The text that is sent. -/
def Content.written : Content → Text
  | .json value => value.compact
  | .text value => value

/-- A response. -/
structure HttpResponse where
  status : Nat
  headers : Headers := []
  content : Content

/-- What answers requests. -/
abbrev Handler := HttpRequest → HttpResponse

/-- A response whose body only explains itself. -/
def explained (status : Nat) (detail : Json) : HttpResponse :=
  { status, content := .json (.object [("detail".toList, detail)]) }

/-- What a client reads as the body: responses to `HEAD` have none. -/
def HttpResponse.bodyFor (response : HttpResponse) (method : Text) : Text :=
  if method = "HEAD".toList then [] else response.content.written

end EntityDto
