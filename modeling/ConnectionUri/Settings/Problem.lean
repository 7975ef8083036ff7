import ConnectionUri.Json.Write

/-!
# Problems of settings

A problem has a kind and the path to its place. Problems are listed in the order of their written
forms.
-/

set_option autoImplicit false

namespace ConnectionUri.Settings

/-- One step of a path into a value. -/
inductive Step where
  | field (name : Text)
  | item (index : Nat)
  deriving DecidableEq

/-- What is wrong at a place. -/
inductive ProblemKind where
  | stringType
  | boolType
  | boolParsing
  | modelType
  | listType
  | extraForbidden
  | noSuchAttribute
  deriving DecidableEq

def ProblemKind.name : ProblemKind → Text
  | .stringType => "string_type".toList
  | .boolType => "bool_type".toList
  | .boolParsing => "bool_parsing".toList
  | .modelType => "model_type".toList
  | .listType => "list_type".toList
  | .extraForbidden => "extra_forbidden".toList
  | .noSuchAttribute => "no_such_attribute".toList

/-- A problem and the path to its place. -/
structure Problem where
  path : List Step
  kind : ProblemKind
  deriving DecidableEq

def Step.toValue : Step → Value
  | .field name => .text name
  | .item index => .integer (Int.ofNat index)

def Problem.toValue (problem : Problem) : Value :=
  .mapping [("loc".toList, .list (problem.path.map Step.toValue)),
    ("type".toList, .text problem.kind.name)]

/-- Puts a problem before the first one whose written form comes later. -/
def insertProblem (problem : Problem) : List Problem → List Problem
  | [] => [problem]
  | other :: rest =>
    if Text.precedes (Json.line problem.toValue) (Json.line other.toValue) then
      problem :: other :: rest
    else other :: insertProblem problem rest

def sortProblems (problems : List Problem) : List Problem :=
  problems.foldl (fun sorted problem => insertProblem problem sorted) []

end ConnectionUri.Settings
