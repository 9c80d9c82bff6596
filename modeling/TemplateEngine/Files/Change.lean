import TemplateEngine.Files.Tree

/-!
# Changing a file tree

Making directories, writing and removing files, and setting times and permissions. Each operation
gives the tree after it, and the reason where it fails.
-/

namespace TemplateEngine

def Node.withMode (mode : Nat) : Node → Node
  | .file content time _ => .file content time mode
  | .directory time _ => .directory time mode
  | .link target => .link target

def Node.withTime (time : Nat) : Node → Node
  | .file content _ mode => .file content time mode
  | .directory _ mode => .directory time mode
  | .link target => .link target

namespace Files

def directoryMode : Nat := 0o755

def fileMode : Nat := 0o644

def withoutSlashes (path : String) : String :=
  String.ofList (path.toList.reverse.dropWhile (· == '/')).reverse

/-- The location that the last name of a path has in its directory, whether something is there or
not. A link under that name is not followed. -/
def placeOf (files : Files) (path : String) : Except FileError Location :=
  match badPath? path with
  | some e => .error e
  | none =>
      let names := Path.parts path
      match follow files maxLinks (files.origin path) names.dropLast, names.getLast? with
      | .error e, _ => .error e
      | .ok dir, name =>
          let name := name.getD ""
          match files.node? dir with
          | some (.directory ..) =>
              if name.isEmpty || name == "." || name == ".." then .error .exists
              else if maxName < name.utf8ByteSize then .error .nameTooLong
              else .ok (dir ++ [name])
          | some _ => .error .notDirectory
          | none => .error .notFound

def makeDirectory (now : Nat) (path : String) (files : Files) : Except FileError Files :=
  match files.placeOf (withoutSlashes path) with
  | .error e => .error e
  | .ok place =>
      match files.node? place with
      | some _ => .error .exists
      | none => .ok (files.put place (.directory now directoryMode))

/-- The paths among some ancestors, innermost first, that are still to be made. The search ends at
an ancestor that is there or that can be made, and fails at one that can be neither. -/
def missing (now : Nat) (files : Files) : List String → Except FileError (List String)
  | [] => .ok []
  | path :: outer =>
      match files.makeDirectory now path with
      | .ok _ => .ok [path]
      | .error .notFound => (missing now files outer).map (path :: ·)
      | .error e => if files.isDirectory path then .ok [] else .error e

/-- Makes the directories that a list of paths names, from the last one on; those that are there
already may stay. -/
def makeAll (now : Nat) : List String → Files → Except FileError Unit × Files
  | [], files => (.ok (), files)
  | path :: outer, files =>
      match makeAll now outer files with
      | (.error e, files) => (.error e, files)
      | (.ok (), files) =>
          match files.makeDirectory now path with
          | .ok files => (.ok (), files)
          | .error e => (if files.isDirectory path then .ok () else .error e, files)

/-- Makes a directory and those above it that are missing. -/
def makeDirectories (now : Nat) (path : String) (files : Files) : Except FileError Unit × Files :=
  match missing now files (Path.ancestors path.length path) with
  | .error e => (.error e, files)
  | .ok paths => makeAll now paths files

/-- The tree with what a path leads to changed; a path that leads nowhere changes nothing. -/
def adjust (change : Node → Node) (path : String) (files : Files) : Files :=
  match files.resolve path with
  | .error _ => files
  | .ok place =>
      match files.node? place with
      | none => files
      | some node => files.put place (change node)

/-- Sets the permissions of what a path leads to, if it leads anywhere. -/
def setMode (mode : Nat) : String → Files → Files :=
  adjust (Node.withMode mode)

def setTime (time : Nat) : String → Files → Files :=
  adjust (Node.withTime time)

/-- Writes a file, through links. A file that is there keeps its permissions. -/
def write (now : Nat) (content : Content) (path : String) (files : Files) :
    Except FileError Files :=
  match files.resolve path with
  | .ok place =>
      match files.node? place with
      | some (.file _ _ mode) => .ok (files.put place (.file content now mode))
      | _ => .error .isDirectory
  | .error .notFound =>
      -- A new file takes the last name, unless a link that leads nowhere has it.
      match files.placeOf path with
      | .error e => .error e
      | .ok place =>
          match files.node? place with
          | none => .ok (files.put place (.file content now fileMode))
          | some _ => .error .notFound
  | .error e => .error e

def remove (path : String) (files : Files) : Except FileError Files :=
  match files.placeOf path with
  | .error e => .error e
  | .ok place =>
      match files.node? place with
      | none => .error .notFound
      | some (.directory ..) => .error .isDirectory
      | some _ => .ok (files.erase place)

def list (files : Files) (path : String) : Except FileError (List String) :=
  match files.resolve path with
  | .error e => .error e
  | .ok place =>
      match files.node? place with
      | some (.directory ..) => .ok (files.namesIn place)
      | _ => .error .notDirectory

/-- A name that is not among those taken: it is longer than each of them. -/
def freshName (taken : List String) : String :=
  String.ofList ('.' :: List.replicate (taken.foldr (fun name n => max name.length n) 0) 't')

/-- The permissions of a file that is still to be named. -/
def stagedMode : Nat := 0o600

/-- Gives what is at one location the place of another; a directory does not give way. What cannot
be moved is taken away. -/
def moveOrDrop (source target : Location) (node : Node) (files : Files) :
    Except FileError Unit × Files :=
  match files.node? target with
  | some (.directory ..) => (.error .isDirectory, files.erase source)
  | _ => (.ok (), (files.put target node).erase source)

/-- Puts a text in the place of a file. It is written under a name of its own in the same directory
and then takes the name of the file, so a reader sees the old text or the new one. -/
def replace (now : Nat) (text path : String) (files : Files) : Except FileError Unit × Files :=
  match files.placeOf path with
  | .error e => (.error e, files)
  | .ok place =>
      -- The staged file is in the same directory, under a name that nothing there has.
      let dir := place.dropLast
      let staged := dir ++ [freshName (files.namesIn dir)]
      let node := .file (.text text) now stagedMode
      (files.put staged node).moveOrDrop staged place node

end Files
end TemplateEngine
