import TemplateEngine.Compilation.Compiled
import TemplateEngine.Json.Reader

/-!
# Settings

What can be set of an engine. A settings file holds JSON: an object with the settings that differ
from the default, or an array that gives the first settings in their order. A name that is no
setting, a name given twice and a value of another type are errors.
-/

namespace TemplateEngine

structure Settings where
  /-- The directory of artifacts. -/
  cacheDir : String := ".stencil-cache"
  /-- Whether fresh artifacts are used again. -/
  cacheEnabled : Bool := true
  strict : Bool := false
  maxIncludeDepth : Nat := 64
  deriving DecidableEq, Repr

namespace Settings

def options (settings : Settings) : Options where
  strict := settings.strict
  maxIncludeDepth := settings.maxIncludeDepth

def names : List String :=
  ["cache_dir", "cache_enabled", "strict", "max_include_depth"]

def set? (name : String) (value : Json) (settings : Settings) : Option Settings :=
  match name, value with
  | "cache_dir", .text dir => some { settings with cacheDir := dir }
  | "cache_enabled", .boolean enabled => some { settings with cacheEnabled := enabled }
  | "strict", .boolean strict => some { settings with strict := strict }
  | "max_include_depth", .number (.natural depth) =>
      some { settings with maxIncludeDepth := depth }
  | _, _ => none

def setAll? (settings : Settings) (members : List (String × Json)) : Option Settings :=
  members.foldlM (fun settings (name, value) => settings.set? name value) settings

def areDistinct : List String → Bool
  | [] => true
  | name :: rest => !rest.contains name && areDistinct rest

/-- The settings that a document gives, the others having their default. -/
def ofJson? : Json → Option Settings
  | .object members =>
      if areDistinct (members.map Prod.fst) then setAll? {} members else none
  | .array values =>
      if values.length ≤ names.length then setAll? {} (names.zip values) else none
  | _ => none

def load (files : Files) (path : String) : Except CompileError Settings :=
  match files.read path with
  | .error _ => .error (.settings path)
  | .ok text =>
      match (Json.read? text).bind ofJson? with
      | none => .error (.settings path)
      | some settings => .ok settings

end Settings
end TemplateEngine
