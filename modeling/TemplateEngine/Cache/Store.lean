import TemplateEngine.Cache.Name
import TemplateEngine.Compilation.Error
import TemplateEngine.Digest.Blake3
import TemplateEngine.Files.Change

/-!
# The artifact cache

One directory that holds the artifact of each compiled template under a name of its own. An artifact
is fresh as long as it is not older than its template.
-/

namespace TemplateEngine

/-- A directory of artifacts, and the digest that their names carry. -/
structure Cache where
  directory : String
  digest : String → String := Digest.Blake3.shortText

namespace Cache

/-- The permissions of the cache directory: it is open to every user. -/
def sharedDirectoryMode : Nat := 0o777

def sharedFileMode : Nat := 0o666

def artifactPath (cache : Cache) (files : Files) (source : String) : String :=
  Path.join cache.directory (artifactName cache.digest (files.identity source))

/-- Makes the cache directory if it is missing, and opens it to every user. -/
def ensure (cache : Cache) (now : Nat) (files : Files) : Except CompileError Unit × Files :=
  let (made, files) :=
    if files.isDirectory cache.directory then (.ok (), files)
    else files.makeDirectories now cache.directory
  match made with
  | .error e => (.error (.writeFailed cache.directory e), files)
  | .ok () => (.ok (), files.setMode sharedDirectoryMode cache.directory)

def write (now : Nat) (artifact code : String) (files : Files) :
    Except CompileError Unit × Files :=
  match files.replace now code artifact with
  | (.error e, files) => (.error (.writeFailed artifact e), files)
  | (.ok (), files) => (.ok (), files.setMode sharedFileMode artifact)

def read (artifact : String) (files : Files) : Except CompileError String :=
  (files.read artifact).mapError (.sourceNotFound artifact)

/-- Whether an artifact has to be made anew: its template or it is missing, caching is off, or it is
older than its template. -/
def isStale (files : Files) (source artifact : String) (caching : Bool) : Bool :=
  !files.exists? source || !caching || !files.exists? artifact ||
    (files.time? artifact).getD 0 < (files.time? source).getD 0

/-- Takes one name out of the cache if it is that of an artifact, and counts it. What is gone already
does not count. -/
def clearName (cache : Cache) (cleared : Nat × Files) (name : String) : Nat × Files :=
  let (count, files) := cleared
  let path := Path.join cache.directory name
  if isArtifactName name && files.isFile path then
    match files.remove path with
    | .ok files => (count + 1, files)
    | .error _ => (count, files)
  else (count, files)

/-- Takes all artifacts out of the cache: how many there were. -/
def clear (cache : Cache) (now : Nat) (files : Files) : Except CompileError Nat × Files :=
  match cache.ensure now files with
  | (.error e, files) => (.error e, files)
  | (.ok (), files) =>
      match files.list cache.directory with
      | .error e => (.error (.io e), files)
      | .ok names =>
          let (count, files) := names.foldl cache.clearName (0, files)
          (.ok count, files)

end Cache
end TemplateEngine
