import TemplateEngine.CommandLine.Run

/-!
# The program

The command line on the files of the machine. What a run may look at is loaded first: the files it
names, the templates these include, and the cache directory. The run itself is on the loaded tree;
what it changed there is stored afterwards. Times are in nanoseconds. A run never looks at a time it
has set, so it needs no clock.
-/

namespace TemplateEngine
namespace CommandLine

/-! ## Loading -/

/-- The permissions that loaded files and directories are taken to have. -/
def loadedMode : Nat := 0

def loadNode? (place : Location) : IO (Option Node) := do
  let path := (← IO.currentDir) / Files.pathOf place
  try
    let info ← path.symlinkMetadata
    let time := (info.modified.sec * 1000000000 + info.modified.nsec.toNat).toNat
    match info.type with
    | .dir => return some (.directory time loadedMode)
    | .symlink =>
        try return some (.link (← IO.FS.realPath path).toString)
        catch _ => return some (.link (Files.pathOf place ++ "\x00"))
    | _ =>
        let content :=
          match String.fromUTF8? (← IO.FS.readBinFile path) with
          | some text => Content.text text
          | none => .binary
        return some (.file content time loadedMode)
  catch _ => return none

/-- Loads all there is on the way along some names. -/
partial def loadNames (place : Location) (names : List String) (files : Files) : IO Files :=
  match names with
  | [] => return files
  | name :: names =>
      if Path.isStill name.toList then loadNames place names files
      else if name = ".." then loadNames place.dropLast names files
      else do
        let next := place ++ [name]
        let node ←
          match files.node? next with
          | some node => pure (some node)
          | none => loadNode? next
        match node with
        | none => return files
        | some (.link target) =>
            loadNames [] (Path.parts target ++ names) (files.put next (.link target))
        | some node => loadNames next names (files.put next node)

/-- Loads all there is on the way along a path. -/
def loadPath (path : String) (files : Files) : IO Files :=
  loadNames (files.origin path) (Path.parts path) files

/-- Where the templates may be that a template includes. -/
def includeCandidates (current text : String) : List String :=
  (Text.Piece.captures (Directive.includes text)).flatMap fun name =>
    let target := Compilation.includeTarget name
    [Path.join ((Path.parent? current).getD "") target, target]

/-- Loads a template and those it includes. Seen templates come with the directory that their
includes start from. -/
partial def loadTemplate (path : String) (seen : List (String × String)) (files : Files) :
    IO (List (String × String) × Files) := do
  let mut files ← loadPath path files
  let key := (files.identity path, files.identity ((Path.parent? path).getD ""))
  if seen.contains key then return (seen, files)
  let mut seen := key :: seen
  if let .ok text := files.read path then
    for candidate in includeCandidates path text do
      (seen, files) ← loadTemplate candidate seen files
  return (seen, files)

/-- Loads a directory and what is directly in it. -/
def loadDirectory (path : String) (files : Files) : IO Files := do
  let mut files ← loadPath path files
  try
    for entry in ← ((← IO.currentDir) / path).readDir do
      files ← loadPath (Path.join path entry.fileName) files
  catch _ => pure ()
  return files

def loadRequest : Request → Files → IO Files
  | .help, files | .version, files => return files
  | .run command options, files => do
      let mut files := files
      for path in options.config?.toList do
        files ← loadPath path files
      if let .ok settings := settingsFor options files then
        files ← loadDirectory settings.cacheDir files
      match command with
      | .render file data? =>
          for path in data?.toList do
            files ← loadPath path files
          return (← loadTemplate file [] files).2
      | .compile file _ => return (← loadTemplate file [] files).2
      | .clearCache => return files

/-! ## Storing -/

def accessRight (digit : Nat) : IO.AccessRight where
  read := digit / 4 % 2 == 1
  write := digit / 2 % 2 == 1
  execution := digit % 2 == 1

def storeMode (path : String) (mode : Nat) : IO Unit := do
  try
    IO.setAccessRights path
      ⟨accessRight (mode / 64), accessRight (mode / 8), accessRight mode⟩
  catch _ => pure ()

/-- Stores what is at a location. A file is written beside its place first. -/
def storeNode (place : Location) (node : Node) : IO Unit := do
  let path := Files.pathOf place
  match node with
  | .directory _ mode =>
      IO.FS.createDirAll path
      storeMode path mode
  | .file (.text text) _ mode =>
      let staged := path ++ ".tmp"
      IO.FS.writeFile staged text
      IO.FS.rename staged path
      storeMode path mode
  | _ => pure ()

/-- Stores what differs between a tree and the loaded one. -/
def storeChanges (loaded files : Files) : IO Unit := do
  for (place, node) in files.nodes do
    if loaded.node? place ≠ some node then storeNode place node
  for (place, _) in loaded.nodes do
    if (files.node? place).isNone then IO.FS.removeFile (Files.pathOf place)

/-- Runs a command line on the files of the machine: the exit code. -/
def runOnMachine (args : List String) : IO UInt32 := do
  let directory := (Path.parts (← IO.currentDir).toString).filter (! ·.isEmpty)
  let start : Files := { workingDirectory := directory }
  let mut loaded ← loadPath (Files.pathOf directory) start
  if let .ok request := read args then
    loaded ← loadRequest request loaded
  let (outcome, files) := run 0 args loaded
  storeChanges loaded files
  IO.print outcome.output
  unless outcome.error.isEmpty do
    IO.eprintln outcome.error
  return outcome.exitCode.toUInt32

end CommandLine
end TemplateEngine

def main (args : List String) : IO UInt32 :=
  TemplateEngine.CommandLine.runOnMachine args
