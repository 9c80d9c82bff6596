import TemplateEngine.Entries
import TemplateEngine.Files.Error
import TemplateEngine.Files.Path

/-!
# File trees

The files that templates are read from and artifacts are written to: a finite tree of files,
directories and symbolic links, with the directory that relative paths start from. A path is followed
name by name; a link is replaced by its target, and after forty of them the search is given up. The
location where it ends is the identity of the file.
-/

namespace TemplateEngine

inductive Content
  | text (s : String)
  /-- Bytes that are not text. -/
  | binary
  deriving DecidableEq, Repr

/-- What there is at a location. Times count units, the same ones in a whole tree. -/
inductive Node
  | file (content : Content) (time mode : Nat)
  | directory (time mode : Nat)
  | link (target : String)
  deriving DecidableEq, Repr

/-- The names on the way from the root. -/
abbrev Location := List String

/-- A file tree. The root is always there. -/
structure Files where
  nodes : List (Location × Node) := []
  workingDirectory : Location := []

namespace Files

def pathOf (place : Location) : String :=
  if place.isEmpty then "/" else String.join (place.map ("/" ++ ·))

def node? (files : Files) (place : Location) : Option Node :=
  if place.isEmpty then some (.directory 0 0o755) else files.nodes.lookup place

def put (place : Location) (node : Node) (files : Files) : Files :=
  { files with nodes := Entries.set place node files.nodes }

def erase (place : Location) (files : Files) : Files :=
  { files with nodes := files.nodes.filter fun entry => entry.1 != place }

/-- What was put at a location is there. -/
theorem node?_put_self {place : Location} (notRoot : place ≠ []) (node : Node) (files : Files) :
    (files.put place node).node? place = some node := by
  simp [node?, put, notRoot]

/-- Putting something at a location changes no other one. -/
theorem node?_put_of_ne {place other : Location} (different : other ≠ place) (node : Node)
    (files : Files) : (files.put place node).node? other = files.node? other := by
  simp [node?, put, Entries.lookup_set_of_ne different]

/-- Nothing is where something was erased. -/
theorem node?_erase_self {place : Location} (notRoot : place ≠ []) (files : Files) :
    (files.erase place).node? place = none := by
  simp only [node?, erase, List.isEmpty_iff, notRoot, if_false]
  refine List.lookup_eq_none_iff.2 fun entry member => ?_
  have kept : (entry.1 != place) = true := (List.mem_filter.1 member).2
  exact bne_iff_ne.2 (Ne.symm (bne_iff_ne.1 kept))

/-- Erasing at a location changes no other one. -/
theorem node?_erase_of_ne {place other : Location} (different : other ≠ place) (files : Files) :
    (files.erase place).node? other = files.node? other := by
  unfold node? erase
  congr 1
  induction files.nodes with
  | nil => rfl
  | cons entry rest ih =>
      obtain ⟨key, value⟩ := entry
      by_cases same : key = place
      · subst same
        simp [List.lookup_cons, beq_eq_false_iff_ne.2 different, ih]
      · by_cases found : other = key
        · simp [same, found]
        · simp [same, List.lookup_cons, ih]

def namesIn (files : Files) (dir : Location) : List String :=
  files.nodes.filterMap fun entry =>
    if entry.1.dropLast = dir then entry.1.getLast? else none

/-- The longest name of a file, in bytes. -/
def maxName : Nat := 255

/-- The first length that a path cannot have, in bytes. -/
def pathLimit : Nat := 4096

/-- How many links are followed on one path. -/
def maxLinks : Nat := 40

/-- Follows names from a location; only the last name may lead to a file. -/
def follow (files : Files) (links : Nat) (place : Location) :
    List String → Except FileError Location
  | [] => .ok place
  | name :: names =>
      match files.node? place with
      | none => .error .notFound
      | some (.file ..) | some (.link _) => .error .notDirectory
      | some (.directory ..) =>
          -- At the root the name of the directory above leads to the root.
          if name.isEmpty || name == "." then follow files links place names
          else if name == ".." then follow files links place.dropLast names
          else if maxName < name.utf8ByteSize then .error .nameTooLong
          else
            let next := place ++ [name]
            match files.node? next with
            | none => .error .notFound
            | some (.link target) =>
                match links with
                | 0 => .error .tooManyLinks
                | links + 1 =>
                    -- The names of the target stand in for the name of the link.
                    follow files links (if Path.isAbsolute target then [] else place)
                      (Path.parts target ++ names)
            | some _ => follow files links next names
termination_by names => (links, names.length)

def origin (files : Files) (path : String) : Location :=
  if Path.isAbsolute path then [] else files.workingDirectory

/-- Why a path cannot be followed at all, if it cannot. -/
def badPath? (path : String) : Option FileError :=
  if path.isEmpty then some .notFound
  else if path.toList.contains '\x00' then some .badPath
  else if pathLimit ≤ path.utf8ByteSize then some .nameTooLong
  else none

def resolve (files : Files) (path : String) : Except FileError Location :=
  match badPath? path with
  | some e => .error e
  | none => follow files maxLinks (files.origin path) (Path.parts path)

/-- The identity of a path: the absolute path of the file it leads to, or the path itself where it
leads to none. -/
def identity (files : Files) (path : String) : String :=
  match files.resolve path with
  | .ok place => pathOf place
  | .error _ => path

def at? (files : Files) (path : String) : Option Node :=
  match files.resolve path with
  | .ok place => files.node? place
  | .error _ => none

def exists? (files : Files) (path : String) : Bool :=
  (files.at? path).isSome

def isFile (files : Files) (path : String) : Bool :=
  match files.at? path with
  | some (.file ..) => true
  | _ => false

def isDirectory (files : Files) (path : String) : Bool :=
  match files.at? path with
  | some (.directory ..) => true
  | _ => false

def time? (files : Files) (path : String) : Option Nat :=
  match files.at? path with
  | some (.file _ time _) | some (.directory time _) => some time
  | _ => none

def mode? (files : Files) (path : String) : Option Nat :=
  match files.at? path with
  | some (.file _ _ mode) | some (.directory _ mode) => some mode
  | _ => none

def textAt (files : Files) (place : Location) : Except FileError String :=
  match files.node? place with
  | some (.file (.text s) _ _) => .ok s
  | some (.file .binary _ _) => .error .notText
  | some (.directory ..) => .error .isDirectory
  | _ => .error .notFound

def read (files : Files) (path : String) : Except FileError String :=
  match files.resolve path with
  | .ok place => files.textAt place
  | .error e => .error e

end Files
end TemplateEngine
