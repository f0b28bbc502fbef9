import Emend.ErrorChain
import Emend.Json.Decode

/-!
# Revisions

A refactoring engine hands over whole texts: for each file it touched, what the file held before and
what it should hold after.  A text may be left to be loaded later.  A `RecipeRequest` asks an
engine to run one of its recipes.
-/

set_option autoImplicit false

namespace Emend

/-- Where the text before a revision comes from. -/
inductive SourceText where
  /-- The engine has handed it over. -/
  | inline (text : Text)
  /-- It is to be loaded. -/
  | deferred
  deriving DecidableEq, Repr

/-- A file as a revision leaves it.  Without a text before, the file is new; without one after, it
is gone; with a previous uri that is not its own, it has moved, and the text before is that of the
previous uri. -/
structure FileRevision where
  uri : String
  previousUri : Option String
  before : Option SourceText
  after : Option Text
  deriving DecidableEq, Repr

namespace FileRevision

/-- A file with new content. -/
def updated (uri : String) (before : SourceText) (after : Text) : FileRevision :=
  ⟨uri, none, some before, some after⟩

/-- A new file. -/
def created (uri : String) (after : Text) : FileRevision := ⟨uri, none, none, some after⟩

/-- A file that is gone. -/
def deleted (uri : String) (before : SourceText) : FileRevision := ⟨uri, none, some before, none⟩

/-- A file that has moved. -/
def renamed (previousUri uri : String) (before : SourceText) (after : Text) : FileRevision :=
  ⟨uri, some previousUri, some before, some after⟩

/-- Where the text before is to be found. -/
def sourceUri (r : FileRevision) : String := r.previousUri.getD r.uri

/-- Whether the file has moved. -/
def isRename (r : FileRevision) : Bool :=
  match r.previousUri with
  | some previous => previous ≠ r.uri
  | none => false

end FileRevision

/-! ## Recipes -/

/-- A request to run a recipe. -/
structure RecipeRequest where
  recipeId : String
  targets : List String
  parameters : Json
  deriving DecidableEq

namespace RecipeRequest

/-- A request that names nothing but the recipe. -/
def ofRecipe (recipeId : String) : RecipeRequest := ⟨recipeId, [], .null⟩

/-- A request as JSON. -/
def toJson (r : RecipeRequest) : Json :=
  .obj [("parameters", r.parameters), ("recipeId", .str r.recipeId),
    ("targets", .arr (r.targets.map .str))]

/-- Reads a request. -/
def ofJson : Decoder RecipeRequest :=
  Record.decoder "RewriteRequest"
    (RecipeRequest.mk <$> .required "recipeId" Decoder.string
      <*> .optional "targets" Decoder.string.list []
      <*> .optional "parameters" Decoder.any .null)

end RecipeRequest

/-- A refactoring engine: the revisions that a request amounts to, or why there are none. -/
abbrev RecipeEngine := RecipeRequest → Except ErrorChain (List FileRevision)

end Emend
