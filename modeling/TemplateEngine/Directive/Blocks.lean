import TemplateEngine.Entries
import TemplateEngine.Text.Scan

/-!
# Blocks

The blocks declared so far in one compilation, in the order of their first declaration. A
declaration whose body holds the parent placeholder extends what the block had; any other body
replaces it.
-/

namespace TemplateEngine

/-- Names of blocks with their contents, each name once. -/
structure Blocks where
  entries : List (String × String) := []
  deriving DecidableEq, Repr

namespace Blocks

/-- Where a block body refers to the content it extends. -/
def parentPlaceholder : String := "\x7b\x7b@parent\x7d\x7d"

def get? (name : String) (blocks : Blocks) : Option String :=
  blocks.entries.lookup name

def has (name : String) (blocks : Blocks) : Bool :=
  (blocks.get? name).isSome

def size (blocks : Blocks) : Nat :=
  blocks.entries.length

/-- The blocks with the content of one set. A name keeps the place of its first mention. -/
def set (name content : String) (blocks : Blocks) : Blocks :=
  ⟨Entries.set name content blocks.entries⟩

def extend (placeholder body previous : String) : String :=
  if Text.occurs placeholder.toList body.toList then
    String.ofList (Text.replaceAll placeholder.toList previous.toList body.toList)
  else body

/-- The blocks after a declaration. The first declaration of a block extends the empty content. -/
def declare (placeholder name body : String) (blocks : Blocks) : Blocks :=
  blocks.set name (extend placeholder body ((blocks.get? name).getD ""))

/-- What was set is the content. -/
@[simp]
theorem get?_set_self (name content : String) (blocks : Blocks) :
    (blocks.set name content).get? name = some content :=
  Entries.lookup_set_self name content blocks.entries

/-- Setting one block changes no other one. -/
theorem get?_set_of_ne {name other : String} (different : other ≠ name) (content : String)
    (blocks : Blocks) : (blocks.set name content).get? other = blocks.get? other :=
  Entries.lookup_set_of_ne different content blocks.entries

end Blocks
end TemplateEngine
