import Mathlib.Data.List.Basic
import OdbcFast.Wire.HashMap

/-!
# Named parameters in SQL texts

The parser finds every `@` or `:` that is followed by at least one word character,
takes the longest name, and puts a question mark in its place. The names are kept in
the order in which they first occur, and so are the values.
-/

namespace OdbcFast.Dart

/-- A stretch of the text: one character that stays, or a parameter. -/
inductive SqlPiece where
  | text (char : Char)
  | parameter (name : List Char)
  deriving DecidableEq, Repr

namespace NamedParameterParser

def isMarker (char : Char) : Bool := char = '@' || char = ':'

/-- `\w`, which knows ASCII only. -/
def isWord (char : Char) : Bool := char.isAlphanum || char = '_'

/-- What a match under way leaves when it ends; a marker without a name is text. -/
def closeMatch : Option (Char × List Char) → List SqlPiece
  | none => []
  | some (marker, []) => [.text marker]
  | some (_, name) => [.parameter name]

/-- The matches of `[@:](\w+)` and the text between them; a match under way has its marker
and the name so far. -/
def pieces : Option (Char × List Char) → List Char → List SqlPiece
  | started, [] => closeMatch started
  | none, char :: chars =>
    if isMarker char then pieces (some (char, [])) chars
    else .text char :: pieces none chars
  | some (marker, name), char :: chars =>
    if isWord char then pieces (some (marker, name ++ [char])) chars
    else if isMarker char then
      closeMatch (some (marker, name)) ++ pieces (some (char, [])) chars
    else closeMatch (some (marker, name)) ++ .text char :: pieces none chars

def SqlPiece.cleaned : SqlPiece → Char
  | .text char => char
  | .parameter _ => '?'

def SqlPiece.name? : SqlPiece → Option String
  | .text _ => none
  | .parameter name => some (String.ofList name)

/-- The names without those that occurred before. -/
def firstOccurrences (seen : List String) : List String → List String
  | [] => []
  | name :: names =>
    if name ∈ seen then firstOccurrences seen names
    else name :: firstOccurrences (name :: seen) names

structure Extract where
  cleanedSql : String
  paramNames : List String
  deriving DecidableEq, Repr

def extract (sql : String) : Extract :=
  let found := pieces none sql.toList
  { cleanedSql := String.ofList (found.map SqlPiece.cleaned)
    paramNames := firstOccurrences [] (found.filterMap SqlPiece.name?) }

structure ParameterMissingException where
  message : String
  deriving DecidableEq, Repr

/-- The values of the map are objects or null, and null is what a name without one gives. -/
def toPositionalParams {α : Type} (namedParams : Wire.HashMap String (Option α))
    (paramNames : List String) : Except ParameterMissingException (List (Option α)) :=
  let missing := paramNames.filter fun name => ¬ name ∈ namedParams
  if ¬ missing.isEmpty then
    .error ⟨"Missing required parameters: " ++ ", ".intercalate missing⟩
  else .ok (paramNames.map fun name => (namedParams.lookup name).join)

end NamedParameterParser

end OdbcFast.Dart
