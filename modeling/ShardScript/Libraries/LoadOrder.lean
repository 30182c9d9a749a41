import ShardScript.Library.Dependencies
import ShardScript.Libraries.SemanticVersion

/-! The order in which libraries are loaded. -/
namespace ShardScript.Libraries
open Dependencies (Acyclic Before DependsOn)

structure ResolvedLibrary where
  path : String
  name : String
  version : String
  dependencies : List (String × String)

def libraryAt (libraries : List ResolvedLibrary) (index : Nat) : ResolvedLibrary := libraries.getD index ⟨"","","",[]⟩

structure LibraryDependency where
  source : Nat
  name : String
  versionExpression : String
  target : Nat

def displayName : Option ResolvedLibrary → String
  | none => "<unknown>"
  | some library =>
      if library.name = "" then library.path else
      if library.version = "" then library.name else library.name ++ "@" ++ library.version

def named (libraries : List ResolvedLibrary) (name : String) : List Nat :=
  (List.range libraries.length).filter fun index =>
    (libraryAt libraries index).name != "" && (libraryAt libraries index).name == name

/-- A multimap; the order of the libraries of one name is not specified. -/
structure LibrariesByName (libraries : List ResolvedLibrary) where
  equalRange : String → List Nat
  perm : ∀ name, (equalRange name).Perm (named libraries name)

def versionOf (library : ResolvedLibrary) : Option SemanticVersion :=
  parseVersion (if library.version = "" then "0.0.0" else library.version).toList

def versionExpressionOf (text : String) : String := if text = "" then "*" else text

/-- Nothing for a text that is no expression, and no expression where every version will do. -/
def expressionOf (text : String) : Option (Option VersionExpression) :=
  if versionExpressionOf text = "*" then some none else
  (VersionExpression.parse (versionExpressionOf text).toList).map some

def accepts (expression : Option VersionExpression) (library : ResolvedLibrary) : Bool :=
  match expression with
  | none => true
  | some expression => (versionOf library).any expression.satisfies

@[grind] def isBetter (best candidate : ResolvedLibrary) : Bool :=
  match versionOf best,versionOf candidate with
  | some best,some candidate => best.less candidate
  | _,_ => false

def bestMatch (libraries : List ResolvedLibrary) (expression : Option VersionExpression) : List Nat → Option Nat → Option Nat
  | [],best => best
  | candidate :: candidates,best =>
      bestMatch libraries expression candidates
        (if accepts expression (libraryAt libraries candidate) then
          match best with
          | none => some candidate
          | some index =>
              if isBetter (libraryAt libraries index) (libraryAt libraries candidate) then some candidate else some index
        else best)

section Resolution

variable (libraries : List ResolvedLibrary) (librariesByName : LibrariesByName libraries)

def resolveDependency (source : Nat) (dependency : String × String) : Except String LibraryDependency :=
  let (name,text) := dependency
  let display := displayName (some (libraryAt libraries source))
  if librariesByName.equalRange name = [] then
    .error ("Library '" ++ display ++ "' depends on '" ++ name ++ "' which was not found.")
  else
  match expressionOf text with
  | none =>
      .error ("Library '" ++ display ++ "' has invalid version expression '" ++ versionExpressionOf text ++
        "' for dependency '" ++ name ++ "'.")
  | some expression =>
      match bestMatch libraries expression (librariesByName.equalRange name) none with
      | none =>
          .error ("Library '" ++ display ++ "' requires '" ++ name ++ " " ++ versionExpressionOf text ++
            "' but no matching version was found.")
      | some target => .ok ⟨source,name,versionExpressionOf text,target⟩

def allDependencies : List (Nat × String × String) :=
  (List.range libraries.length).flatMap fun index => (libraryAt libraries index).dependencies.map fun dependency => (index,dependency)

def circularDependency (cycleNode : Option ResolvedLibrary) : String :=
  "Circular library dependency detected" ++
    (if displayName cycleNode = "" then "" else " involving '" ++ displayName cycleNode ++ "'") ++ "."

def resolveLibraryDependencies : Except String (List Nat × List LibraryDependency) := do
  let resolved ← (allDependencies libraries).mapM fun dependency =>
    resolveDependency libraries librariesByName dependency.1 dependency.2
  let sorting := Dependencies.sort (List.range libraries.length) (resolved.map fun dependency => (dependency.source,dependency.target))
  if sorting.order.length ≠ libraries.length then
    .error (circularDependency
      (((List.range libraries.length).find? fun index => sorting.inDegree index > 0).map (libraryAt libraries)))
  else return (sorting.order,resolved)

end Resolution

def loadKey (library : ResolvedLibrary) : String × String :=
  (if library.name = "" then library.path else library.name,library.version)

/-- The libraries that `AddLibraries` loads, in their order: the first of each key. -/
def loadEach (libraries : List ResolvedLibrary) : List Nat → List (String × String) → List Nat
  | [],_ => []
  | index :: order,loaded =>
      if loadKey (libraryAt libraries index) ∈ loaded then loadEach libraries order loaded
      else index :: loadEach libraries order (loadKey (libraryAt libraries index) :: loaded)

/-- The candidate has the name that the dependency asks for, and a version that satisfies the expression. -/
def Satisfying (libraries : List ResolvedLibrary) (dependency : String × String) (candidate : Nat) : Prop :=
  candidate ∈ named libraries dependency.1 ∧
    ∃ expression, expressionOf dependency.2 = some expression ∧ accepts expression (libraryAt libraries candidate) = true

def dependencyGraph (libraries : List ResolvedLibrary) (librariesByName : LibrariesByName libraries) : List (Nat × Nat) :=
  (allDependencies libraries).filterMap fun dependency =>
    match resolveDependency libraries librariesByName dependency.1 dependency.2 with
    | .ok resolved => some (resolved.source,resolved.target)
    | .error _ => none

end ShardScript.Libraries
