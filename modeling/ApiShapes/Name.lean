import ApiShapes.Text.Blank
import ApiShapes.Text.Case
import ApiShapes.Text.ClassTable

/-!
# Names of resource types and models

A resource type such as `blog_posts` names the model `BlogPosts`, without singularization, and a
model name gives back a resource type in snake case.
-/

namespace ApiShapes

namespace Name

/-- Words of a resource type are separated by hyphens, underscores and blanks. -/
def isSeparator (c : Char) : Bool :=
  c == '-' || c == '_' || Text.isBlank c

/-- The pieces of a text between separators, empty ones included. -/
def pieces : List Char → List (List Char)
  | [] => [[]]
  | c :: rest =>
    if isSeparator c then [] :: pieces rest
    else
      match pieces rest with
      | [] => [[c]]
      | word :: words => (c :: word) :: words

def words (s : List Char) : List (List Char) :=
  (pieces s).filter (!·.isEmpty)

/-- A word with a capital first letter; the other letters stay as they are. -/
def capitalize : List Char → List Char
  | [] => []
  | c :: rest => Text.capital c ++ rest

/-- Sets the last capital of an acronym apart when a small letter follows it, as in
`HTTP_Server`. -/
def splitAcronyms : List Char → List Char
  | a :: b :: c :: rest =>
    if Text.isAsciiCapital a && Text.isAsciiCapital b && Text.isAsciiSmall c then
      a :: '_' :: splitAcronyms (b :: c :: rest)
    else a :: splitAcronyms (b :: c :: rest)
  | s => s

/-- Sets a capital apart from a small letter or digit before it, as in `blog_Posts`. -/
def splitHumps : List Char → List Char
  | a :: b :: rest =>
    if (Text.isAsciiSmall a || Text.isDecimalDigit a) && Text.isAsciiCapital b then
      a :: '_' :: splitHumps (b :: rest)
    else a :: splitHumps (b :: rest)
  | s => s

end Name

/-- The model name of a resource type: `blog_posts` and `blog-posts` give `BlogPosts`. -/
def pascalCase (name : String) : String :=
  String.ofList ((Name.words name.toList).flatMap Name.capitalize)

/-- The resource type of a model name: `BlogPosts` gives `blog_posts`. -/
def snakeCase (name : String) : String :=
  String.ofList (Text.lower (Name.splitHumps (Name.splitAcronyms name.toList)))

def serializerName (modelName : String) : String :=
  modelName ++ "Serializer"

end ApiShapes
