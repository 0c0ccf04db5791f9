import ApiShapes.Name
import ApiShapes.TypeSpec.Definition

/-!
# Conventional operations of a resource

Listing, getting, creating, updating and deleting: two on the path of the collection and three on
the path of an item, whose only parameter is the identifier.
-/

namespace ApiShapes.Conversion

open TypeSpec

def idParameter (resourceType : String) : Parameter :=
  ⟨"id", .path, "string", true, some ("The " ++ resourceType ++ " ID")⟩

def response (code : Int) (type : Option String) (description : String) : Response :=
  ⟨.code code, type, none, some description⟩

def notFound : Response :=
  response 404 none "Resource not found"

def collectionPath (resourceType : String) : String :=
  "/" ++ resourceType

def itemPath (resourceType : String) : String :=
  collectionPath resourceType ++ "/\x7bid\x7d"

/-- An operation on the whole collection. -/
def collectionOperation (resourceType name : String) (method : Method)
    (body : Option RequestBody) (responses : List Response) (description : String) : Operation :=
  ⟨name, method, collectionPath resourceType, [], body, responses, some description, []⟩

/-- An operation on one item of the collection. -/
def itemOperation (resourceType name : String) (method : Method)
    (body : Option RequestBody) (responses : List Response) (description : String) : Operation :=
  ⟨name, method, itemPath resourceType, [idParameter resourceType], body, responses,
    some description, []⟩

/-- The operations of a resource type. -/
def operationsFor (resourceType : String) : List Operation :=
  let model := pascalCase resourceType
  [ collectionOperation resourceType ("list" ++ model) .get none
      [response 200 (some (model ++ "[]")) ("List of " ++ resourceType ++ " resources")]
      ("List all " ++ resourceType ++ " resources"),
    itemOperation resourceType ("get" ++ model) .get none
      [response 200 (some model) ("The " ++ resourceType ++ " resource"), notFound]
      ("Get a specific " ++ resourceType ++ " resource"),
    collectionOperation resourceType ("create" ++ model) .post
      (some ⟨model, none, some ("The " ++ resourceType ++ " resource to create")⟩)
      [response 201 (some model) ("The created " ++ resourceType ++ " resource"),
        response 400 none "Bad request"]
      ("Create a new " ++ resourceType ++ " resource"),
    itemOperation resourceType ("update" ++ model) .patch
      (some ⟨model, none, some ("The " ++ resourceType ++ " resource updates")⟩)
      [response 200 (some model) ("The updated " ++ resourceType ++ " resource"), notFound]
      ("Update a " ++ resourceType ++ " resource"),
    itemOperation resourceType ("delete" ++ model) .delete none
      [response 204 none "Resource deleted successfully", notFound]
      ("Delete a " ++ resourceType ++ " resource") ]

end ApiShapes.Conversion
