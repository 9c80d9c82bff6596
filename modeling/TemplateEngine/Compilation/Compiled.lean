import TemplateEngine.Compilation.Expansion
import TemplateEngine.Directive.Block
import TemplateEngine.Directive.Island
import TemplateEngine.Directive.Unterminated

/-!
# Compiled templates

A template is compiled in passes over its text: includes are expanded, block declarations taken out,
block references resolved, and code and interpolations made islands. The blocks of one compilation
are unknown to the next. Strict compilation refuses references that no block was put in for and
directives that are not closed; otherwise such references leave nothing and such directives stay as
they are.
-/

namespace TemplateEngine

structure Options where
  strict : Bool := false
  /-- How deep includes may lie below the template that is compiled. -/
  maxIncludeDepth : Nat := 64
  deriving DecidableEq, Repr

structure Compiled where
  /-- The path that was compiled. -/
  source : String
  /-- The artifact. -/
  code : String
  blocks : Blocks
  /-- The identities of all templates read, in the order of their first reading. -/
  includes : List String
  deriving DecidableEq, Repr

namespace Compilation

/-- A text without block directives, the blocks that it declares, and the names of the references that no
block was put in for. -/
def resolve (text : String) : String × Blocks × List String :=
  let (text, blocks) := Directive.extractBlocks text {}
  let (text, unknown) := Directive.resolveBlocks text blocks
  (text, blocks, unknown)

def toIslands (text : String) : String :=
  Directive.interpolationsToIslands (Directive.codeToIslands text)

/-- What strict compilation refuses an artifact for: the first unknown name, or else the first
directive that is not closed. -/
def refusal? (source : String) (unknown : List String) (code : String) : Option CompileError :=
  match unknown with
  | name :: _ => some (.unknownBlock source name)
  | [] => (Directive.unterminatedLine? code).map (.unterminatedDirective source)

def compile (files : Files) (options : Options) (source : String) :
    Except CompileError Compiled :=
  match expand files options.maxIncludeDepth source with
  | (.error e, _) => .error e
  | (.ok expanded, includes) =>
      let (text, blocks, unknown) := resolve (String.ofList expanded)
      let code := toIslands text
      match if options.strict then refusal? source unknown code else none with
      | some e => .error e
      | none => .ok { source, code, blocks, includes }

end Compilation
end TemplateEngine
