import EntityDto.Http.Server

/-! How the deployed libraries find the operation that a request is meant for. -/

namespace EntityDto

open Text

namespace Operation

/-- The path that is looked up; slashes behind the path and a query do not matter. -/
def plainPath (path : Text) : Text :=
  dropEndWhile (· = '/') (path.takeWhile fun char => char ≠ '?' && char ≠ '#')

/-- The response of the first operation that takes a request; other requests are refused. -/
def respond (operations : List Operation) (request : HttpRequest) : HttpResponse :=
  let atPath := operations.filter fun operation => operation.path = plainPath request.path
  match atPath.find? fun operation => operation.method = request.method with
  | some operation => operation.answer request.body
  | none =>
    if atPath.isEmpty then explained 404 (.text "Not Found".toList)
    else explained 405 (.text "Method Not Allowed".toList)

end Operation

end EntityDto
