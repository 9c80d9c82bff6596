import TemplateEngine.Text.Quoted

/-!
# Names of artifacts

The artifact of a template is named after the identity of the template: the identity flattened to
characters that any file system takes, of which a long one keeps its end, and a digest of the whole
identity. Flattening loses nothing: the underscore, which begins each code, is doubled.
-/

namespace TemplateEngine
namespace Cache

def extension : String := "stc"

/-- How many bytes of a flattened identity a name keeps. -/
def maxStem : Nat := 160

def isPortable (c : Char) : Bool :=
  c.isAlphanum || c == '.' || c == '-' || c == '+' || c == '@' || c == ',' || c == '='

def flattenChar (c : Char) : List Char :=
  if c = '_' then ['_', '_']
  else if c = '/' then ['_', 's']
  else if c = '\\' then ['_', 'b']
  else if c = ':' then ['_', 'c']
  else if isPortable c then [c]
  else '_' :: 'x' :: Text.hexDigits c.toNat ++ ['_']

/-- An identity in portable characters, one byte each. -/
def flatten (identity : String) : List Char :=
  identity.toList.flatMap flattenChar

/-- The end of a flattened identity that a name keeps. -/
def stem (identity : String) : List Char :=
  let flat := flatten identity
  flat.drop (flat.length - maxStem)

def artifactName (digest : String → String) (identity : String) : String :=
  String.ofList (stem identity) ++ "." ++ digest identity ++ "." ++ extension

/-- Whether a name ends as artifacts do, after something. -/
def isArtifactName (name : String) : Bool :=
  let ending := '.' :: extension.toList
  ending.length < name.toList.length && ending.isSuffixOf name.toList

end Cache
end TemplateEngine
