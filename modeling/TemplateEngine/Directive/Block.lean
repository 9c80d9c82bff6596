import TemplateEngine.Directive.Blocks
import TemplateEngine.Directive.Marker

/-!
# Block directives

A `setblock` declares a block: its body goes up to the nearest `endsetblock`, wherever that is. A
`block` is replaced by the content of the block it names. References are replaced one block after
another, in the order of declaration, so a content may bring in references to blocks declared later.
References that are left when each block has had its turn leave nothing in the text, and their names are
reported.
-/

namespace TemplateEngine
namespace Directive

open Text (isBlank after? until? Recogniser)

def blockEnd? (cs : List Char) : Option (List Char) :=
  (head? "endsetblock" cs).bind fun inside =>
    match skipBlanks inside with
    | ';' :: rest => close? rest
    | rest => close? rest

def setBlock : Recogniser (List Char × List Char) := fun cs =>
  match argument? "setblock" cs with
  | none => none
  | some inside =>
      match until? close? (fun _ => true) inside with
      | none => none
      | some (name, body) =>
          (until? blockEnd? (fun _ => true) body).map fun (body, rest) => ((name, body), rest)

def parentReference : Recogniser Unit := fun cs =>
  ((head? "parent" cs).bind close?).map fun rest => ((), rest)

/-- A block body with its references to the parent content in their one canonical form. -/
def canonicalBody (body : List Char) : List Char :=
  Text.replaceSpans parentReference (fun _ => Blocks.parentPlaceholder.toList) body

def declarations (cs : List Char) : List (List Char × List Char) :=
  Text.Piece.captures (Text.pieces setBlock cs)

def declareAll (blocks : Blocks) (found : List (List Char × List Char)) : Blocks :=
  found.foldl
    (fun blocks (name, body) =>
      blocks.declare Blocks.parentPlaceholder (String.ofList name)
        (String.ofList (canonicalBody body)))
    blocks

/-- A text without its block declarations, and the blocks with them. -/
def extractBlocks (text : String) (blocks : Blocks) : String × Blocks :=
  (String.ofList (Text.replaceSpans setBlock (fun _ => []) text.toList),
    declareAll blocks (declarations text.toList))

/-- A reference to the block of the given name. White space is taken as far as the name allows. -/
def referenceTo (name : List Char) : Recogniser Unit := fun cs =>
  match head? "block" cs with
  | none => none
  | some inside =>
      let blanks := (inside.takeWhile isBlank).length
      let named := (List.range blanks).reverse.findSome? fun n =>
        (after? name (inside.drop (n + 1))).bind close?
      named.map fun rest => ((), rest)

/-- A text with the references to one block replaced by its content. Any characters can be a name that is
looked for, so no block is passed over; that a pattern may be too large for this is left out. -/
def substitute (cs : List Char) (block : String × String) : List Char :=
  Text.replaceSpans (referenceTo block.1.toList) (fun _ => block.2.toList) cs

/-- A reference to a block of any name; the name is on one line. -/
def anyReference : Recogniser (List Char) := fun cs =>
  match argument? "block" cs with
  | some inside => until? close? (fun c => c != '\n') inside
  | none => none

/-- A text with its block references resolved, and the names of those that are left. -/
def resolveBlocks (text : String) (blocks : Blocks) : String × List String :=
  let cs := blocks.entries.foldl substitute text.toList
  let left := Text.pieces anyReference cs
  (String.ofList (Text.Piece.replace (fun _ => []) left),
    (Text.Piece.captures left).map String.ofList)

end Directive
end TemplateEngine
