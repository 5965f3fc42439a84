import RouteTree.Json.Record

/-!
# Requests

What a loader or an action sees of a request. A request without a body is
written without one.
-/

namespace RouteTree

structure Request where
  url : String
  method : String
  body : Option Json := none
deriving Repr

namespace Request

/-- A request that asks for a page. -/
def get (url : String) : Request where
  url := url
  method := "GET"

/-- A request that submits a body. -/
def post (url : String) (body : Json) : Request where
  url := url
  method := "POST"
  body := some body

def fieldNames : List String := ["url", "method", "body"]

def ofJson? (value : Json) : Option Request :=
  match Json.recordFields? .refused fieldNames value with
  | some [url, method, body] =>
      (Json.requiredField? Json.text? url).bind fun url =>
        (Json.requiredField? Json.text? method).map fun method =>
          { url, method, body := body.bind Json.nullable }
  | _ => none

def toJson (request : Request) : Json :=
  .object <|
    [("url", .text request.url), ("method", .text request.method)] ++
    (request.body.toList.map fun body => ("body", body))

end Request

end RouteTree
