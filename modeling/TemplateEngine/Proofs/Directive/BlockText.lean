import Mathlib.Data.List.Forall2
import TemplateEngine.Directive.Block

/-!
# Texts of block directives

Templates made of literal pieces, references to blocks and declarations of blocks, as data. Each part
carries what makes it well-formed: spacing is white space, a directive word is spelled in any letter
case, a name is a word, and a literal piece neither holds two opening braces nor ends in one. Beside the
text of the parts stands what the declarations come to, each name by itself: a left fold over its
bodies.
-/

namespace TemplateEngine
namespace Directive

open Text (isBlank isWordPart)

/-! ## Directives -/

inductive BlockWord
  | block | setBlock | endSetBlock | parent
  deriving DecidableEq, Repr

def BlockWord.spelling : BlockWord → String
  | .block => "block"
  | .setBlock => "setblock"
  | .endSetBlock => "endsetblock"
  | .parent => "parent"

structure Spacing where
  chars : List Char
  blank : ∀ c ∈ chars, isBlank c = true

/-- The head of a directive: its opening and its word, in any spacing and letter case. -/
structure Head (w : BlockWord) where
  spacing : Spacing
  letters : List Char
  spelled : List.Forall₂ (fun letter c => folds letter c = true) w.spelling.toList letters

/-- The name of a block: a word. -/
structure Name where
  chars : List Char
  nonempty : chars ≠ []
  word : ∀ c ∈ chars, isWordPart c = true

structure Bare (w : BlockWord) where
  head : Head w
  closing : Spacing

structure Naming (w : BlockWord) where
  head : Head w
  gap : Spacing
  apart : gap.chars ≠ []
  name : Name
  closing : Spacing

def Head.chars {w : BlockWord} (head : Head w) : List Char :=
  directiveOpen ++ (head.spacing.chars ++ head.letters)

def Bare.chars {w : BlockWord} (d : Bare w) : List Char :=
  d.head.chars ++ (d.closing.chars ++ directiveClose)

def Naming.chars {w : BlockWord} (d : Naming w) : List Char :=
  d.head.chars ++ (d.gap.chars ++ (d.name.chars ++ (d.closing.chars ++ directiveClose)))

def Spacing.one : Spacing := ⟨[' '], List.forall_mem_singleton.2 rfl⟩

/-- The head of a directive in small letters, after one space. -/
def Head.plain (w : BlockWord) : Head w where
  spacing := .one
  letters := w.spelling.toList
  spelled := by cases w <;> simp [BlockWord.spelling, folds]

def Bare.plain (w : BlockWord) : Bare w := ⟨.plain w, .one⟩

def Naming.plain (w : BlockWord) (name : Name) : Naming w :=
  ⟨.plain w, .one, List.cons_ne_nil _ _, name, .one⟩

def Name.single (c : Char) (word : isWordPart c = true) : Name :=
  ⟨[c], List.cons_ne_nil c [], List.forall_mem_singleton.2 word⟩

example : (Naming.plain .block (.single 't' rfl)).chars =
    "\x7b\x7b@ block t \x7d\x7d".toList := by
  decide

/-! ## Texts -/

structure Literal where
  chars : List Char
  noOpening : Text.occurs interpolationOpen chars = false
  noBraceLast : chars.getLast? ≠ some '\x7b'

inductive BodyPart
  | literal (piece : Literal)
  /-- A placeholder for the content that the declaration extends. -/
  | parent (placeholder : Bare .parent)

inductive Part
  | literal (piece : Literal)
  | reference (r : Naming .block)
  | declaration (opening : Naming .setBlock) (body : List BodyPart) (closing : Bare .endSetBlock)

def BodyPart.chars : BodyPart → List Char
  | .literal piece => piece.chars
  | .parent placeholder => placeholder.chars

def bodyChars (body : List BodyPart) : List Char := body.flatMap BodyPart.chars

def Part.chars : Part → List Char
  | .literal piece => piece.chars
  | .reference r => r.chars
  | .declaration opening body closing => opening.chars ++ (bodyChars body ++ closing.chars)

def partChars (parts : List Part) : List Char := parts.flatMap Part.chars

/-! ## What they come to -/

def declared (parts : List Part) : List (Name × List BodyPart) :=
  parts.filterMap fun
    | .declaration opening body _ => some (opening.name, body)
    | _ => none

/-- What is left of a template without its declarations. -/
inductive Shown
  | text (cs : List Char)
  | reference (r : Naming .block)

def Shown.chars : Shown → List Char
  | .text cs => cs
  | .reference r => r.chars

def shownChars (parts : List Shown) : List Char := parts.flatMap Shown.chars

/-- A template without its declarations. -/
def shown (parts : List Part) : List Shown :=
  parts.filterMap fun
    | .literal piece => some (.text piece.chars)
    | .reference r => some (.reference r)
    | .declaration .. => none

/-- A body with each placeholder replaced by the previous content. -/
def fill (previous : List Char) (body : List BodyPart) : List Char :=
  body.flatMap fun
    | .literal piece => piece.chars
    | .parent _ => previous

/-- The bodies that are declared for a name, in text order. -/
def bodiesOf (name : List Char) (declarations : List (Name × List BodyPart)) :
    List (List BodyPart) :=
  (declarations.filter fun d => d.1.chars = name).map Prod.snd

/-- The final content of a name: the fold of its bodies, from the empty text on. -/
def contentOf (name : List Char) (declarations : List (Name × List BodyPart)) : List Char :=
  (bodiesOf name declarations).foldl fill []

/-- What is shown, with each reference replaced by the final content of its name. -/
def resolved (declarations : List (Name × List BodyPart)) (parts : List Shown) : List Char :=
  parts.flatMap fun
    | .text cs => cs
    | .reference r => contentOf r.name.chars declarations

/-- The names of the references that no declaration is for, in text order. -/
def undeclared (declarations : List (Name × List BodyPart)) (parts : List Shown) :
    List (List Char) :=
  parts.filterMap fun
    | .text _ => none
    | .reference r =>
        if bodiesOf r.name.chars declarations = [] then some r.name.chars else none

end Directive
end TemplateEngine
