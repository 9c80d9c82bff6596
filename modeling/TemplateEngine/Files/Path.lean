/-!
# Paths

Paths are texts of names between slashes. `join` puts one path behind another, and `parent?` gives
what is left of a path without its last name; empty names and single dots in the way do not count,
except that a leading dot stands for the directory it is.
-/

namespace TemplateEngine
namespace Path

def isAbsolute (path : String) : Bool :=
  path.toList.head? == some '/'

def cutAtSlashes : List Char → List (List Char)
  | [] => [[]]
  | c :: cs =>
      if c = '/' then [] :: cutAtSlashes cs
      else
        match cutAtSlashes cs with
        | [] => [[c]]
        | part :: parts => (c :: part) :: parts

def parts (path : String) : List String :=
  (cutAtSlashes path.toList).map String.ofList

/-- A path put behind a directory; an absolute path takes its place. -/
def join (dir path : String) : String :=
  if isAbsolute path then path
  else if dir.isEmpty || dir.toList.getLast? == some '/' then dir ++ path
  else dir ++ "/" ++ path

/-- Whether a name leads nowhere: it is empty or a single dot. -/
def isStill (name : List Char) : Bool :=
  name.isEmpty || name == ['.']

/-- The head of a path that is no name: the root, or a leading dot. -/
def anchor (cs : List Char) : List Char :=
  match cs with
  | '/' :: _ => ['/']
  | ['.'] => ['.']
  | '.' :: '/' :: _ => ['.']
  | _ => []

/-- The path without its last name; the root and the empty path have no parent. -/
def parent? (path : String) : Option String :=
  let cs := path.toList
  let head := anchor cs
  let names := (cutAtSlashes (cs.drop head.length)).reverse.dropWhile isStill
  match names with
  | _ :: others =>
      some (String.ofList (head ++ List.intercalate ['/'] (others.dropWhile isStill).reverse))
  | [] => if head = ['.'] then some "" else none

/-- A path, its parent, the parent of that, and so on, as far as the fuel goes; the root and the
empty path are left out. -/
def ancestors : Nat → String → List String
  | 0, _ => []
  | fuel + 1, path =>
      match parent? path with
      | none => []
      | some parent => if path.isEmpty then [] else path :: ancestors fuel parent

end Path
end TemplateEngine
