import Mathlib.Logic.Basic

/-! Versions of libraries, and the expressions that a dependency asks for one with. -/
namespace ShardScript.Libraries

def isSpace (c : Char) : Bool := c == ' ' || (9 ≤ c.toNat && c.toNat ≤ 13)

def trim (text : List Char) : List Char := ((text.dropWhile isSpace).reverse.dropWhile isSpace).reverse

def parseDigits (value : Int32) : List Char → Int32 × List Char
  | [] => (value,[])
  | c :: text => if c.isDigit then parseDigits (value * 10 + Int32.ofNat (c.toNat - 48)) text else (value,c :: text)

def parseInt : List Char → Option (Int32 × List Char)
  | [] => none
  | c :: text => if c.isDigit then some (parseDigits 0 (c :: text)) else none

structure SemanticVersion where
  major : Int32
  minor : Int32
  patch : Int32
  prerelease : List Char

def SemanticVersion.equals (version other : SemanticVersion) : Bool :=
  version.major == other.major && version.minor == other.minor && version.patch == other.patch

def SemanticVersion.less (version other : SemanticVersion) : Bool :=
  if version.major != other.major then version.major < other.major else
  if version.minor != other.minor then version.minor < other.minor else version.patch < other.patch

def readDot : List Char → Option (List Char)
  | '.' :: text => some text
  | _ => none

def parsePrerelease : List Char → Option (List Char)
  | [] => some []
  | '-' :: c :: text => some (c :: text)
  | _ => none

def parseVersion (text : List Char) : Option SemanticVersion := do
  let (major,text) ← parseInt (trim text)
  let (minor,text) ← parseInt (← readDot text)
  let (patch,text) ← parseInt (← readDot text)
  return ⟨major,minor,patch,← parsePrerelease text⟩

inductive Operator where
  | equal
  | greater
  | greaterOrEqual
  | less
  | lessOrEqual
  | compatible
  | approximately

structure Constraint where
  op : Operator
  version : SemanticVersion

def readOperator : List Char → Operator × List Char
  | '^' :: text => (.compatible,text)
  | '~' :: text => (.approximately,text)
  | '>' :: '=' :: text => (.greaterOrEqual,text)
  | '>' :: text => (.greater,text)
  | '<' :: '=' :: text => (.lessOrEqual,text)
  | '<' :: text => (.less,text)
  | '=' :: text => (.equal,text)
  | text => (.equal,text)

def parseConstraint (text : List Char) : Option Constraint :=
  let (op,text) := readOperator (trim text)
  (parseVersion text).map fun version => ⟨op,version⟩

structure VersionExpression where
  constraints : List Constraint

/-- What stands between white space and commas, after the characters that are already read. -/
def words (word : List Char) : List Char → List (List Char)
  | [] => if word = [] then [] else [word]
  | c :: text =>
      if isSpace c || c == ',' then
        if word = [] then words [] text else word :: words [] text
      else words (word ++ [c]) text

def VersionExpression.parse (text : List Char) : Option VersionExpression := do
  let constraints ← (words [] text).mapM parseConstraint
  if constraints.isEmpty then none else some ⟨constraints⟩

def SemanticVersion.upper (version : SemanticVersion) : SemanticVersion :=
  if version.major > 0 then { version with major := version.major + 1, minor := 0, patch := 0 } else
  if version.minor > 0 then { version with minor := version.minor + 1, patch := 0 } else
  { version with patch := version.patch + 1 }

def Constraint.satisfies (version : SemanticVersion) : Constraint → Bool
  | ⟨.equal,wanted⟩ => version.equals wanted
  | ⟨.greater,wanted⟩ => wanted.less version
  | ⟨.greaterOrEqual,wanted⟩ => !version.less wanted
  | ⟨.less,wanted⟩ => version.less wanted
  | ⟨.lessOrEqual,wanted⟩ => !wanted.less version
  | ⟨.compatible,wanted⟩ => !version.less wanted && version.less wanted.upper
  | ⟨.approximately,wanted⟩ =>
      !version.less wanted && version.less { wanted with minor := wanted.minor + 1, patch := 0 }

def VersionExpression.satisfies (expression : VersionExpression) (version : SemanticVersion) : Bool :=
  expression.constraints.all (Constraint.satisfies version)

end ShardScript.Libraries
