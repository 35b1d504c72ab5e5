import FieldTags.Json.Coercion
import FieldTags.Vocabulary

/-!
# Requests

A request has a method, a path and either a query or a body. Parameters that a request is made with
go into the query of a GET request, as texts and in their order, and into the body of a POST request,
as an object.
-/

namespace FieldTags

/-- A request. -/
structure Request where
  method : RequestMethod
  path : String
  query : List (String × String)
  body : Option Json

namespace Request

def get (path : String) (query : List (String × String)) : Request :=
  ⟨.get, path, query, none⟩

/-- A POST request; its body is in canonical form. -/
def post (path : String) (body : Json) : Request :=
  ⟨.post, path, [], some body.canonical⟩

def ofParams (method : RequestMethod) (path : String) (params : List (String × Json)) : Request :=
  match method with
  | .get => get path (params.map fun param ↦ (param.1, param.2.displayText))
  | .post => post path (.object params)

end Request

end FieldTags
