import TemplateEngine.CommandLine.Arguments
import TemplateEngine.Engine.Basic

/-!
# Running a command line

A command line run on a file tree: the exit code, what goes to the two outputs, and the tree after
it. A command that fails exits with 1 and a command line that cannot be followed with 2; neither
writes to the standard output.
-/

namespace TemplateEngine
namespace CommandLine

/-- Why a command fails. -/
inductive Failure
  | settings (cause : CompileError)
  | unreadableData (path : String) (cause : FileError)
  | invalidData (path : String) (cause : Execution.RuntimeError)
  | render (file : String) (cause : CompileError)
  | compile (file : String) (cause : CompileError)
  /-- The artifact just made sure of cannot be read. -/
  | artifact (cause : CompileError)
  | clear (cause : CompileError)
  deriving DecidableEq, Repr

/-- The text of a failure, down to its last cause. -/
def Failure.message : Failure → String
  | .settings cause | .artifact cause => cause.fullMessage
  | .unreadableData path cause => "Failed to read data file " ++ path ++ ": " ++ cause.message
  | .invalidData path cause =>
      "Invalid data file " ++ path ++ ": " ++ (Execution.Error.runtime cause).message
  | .render file cause => "Failed to render " ++ file ++ ": " ++ cause.fullMessage
  | .compile file cause => "Failed to compile " ++ file ++ ": " ++ cause.fullMessage
  | .clear cause => "Failed to clear cache: " ++ cause.fullMessage

/-- What a run leaves besides the files. -/
structure Outcome where
  exitCode : Nat
  /-- The standard output. -/
  output : String := ""
  /-- The line on the error output, if there is one. -/
  error : String := ""
  deriving DecidableEq, Repr

def programName : String := "stencilc"

def programVersion : String := "0.1.0"

def helpText : String :=
  String.join
    ["Compile and render templates with block inheritance\n\n",
      "Usage: stencilc [OPTIONS] <COMMAND>\n\n",
      "Commands:\n",
      "  render [--data <JSON_FILE>] <FILE>  Render a template to stdout\n",
      "  compile [--print] <FILE>            Compile a template and print its artifact path\n",
      "  clear-cache                         Delete every cached artifact\n",
      "  help                                Print this message\n\n",
      "Options:\n",
      "      --cache-dir <DIR>     Directory for compiled artifacts\n",
      "      --no-cache            Recompile on every run\n",
      "      --strict              Fail on unknown blocks and unterminated directives\n",
      "      --config <JSON_FILE>  JSON config file; flags override its values\n",
      "  -v, --verbose             Enable verbose output\n",
      "  -h, --help                Print help\n",
      "  -V, --version             Print version\n"]

/-- The settings that the common options give. -/
def settingsFor (options : CommonOptions) (files : Files) : Except CompileError Settings :=
  let loaded :=
    match options.config? with
    | some path => Settings.load files path
    | none => .ok {}
  loaded.map fun settings =>
    { settings with
      cacheDir := options.cacheDir?.getD settings.cacheDir
      cacheEnabled := settings.cacheEnabled && !options.noCache
      strict := settings.strict || options.strict }

def loadData (files : Files) (path : String) : Except Failure Execution.Context :=
  match files.read path with
  | .error e => .error (.unreadableData path e)
  | .ok text => (Execution.Context.ofJson text).mapError (.invalidData path)

/-- Runs a command on an engine: what it prints. -/
def Command.run (now : Nat) (engine : Engine) : Command → Except Failure String × Engine
  | .render file data? =>
      let context :=
        match data? with
        | some path => loadData engine.files path
        | none => .ok .empty
      match context with
      | .error e => (.error e, engine)
      | .ok context =>
          let (output, engine) := engine.render now file context
          (output.mapError (.render file), engine)
  | .compile file print =>
      let (artifact, engine) := engine.compile now file
      let printed :=
        match artifact with
        | .error e => .error (.compile file e)
        | .ok artifact =>
            if print then (Cache.read artifact engine.files).mapError .artifact
            else .ok (artifact ++ "\n")
      (printed, engine)
  | .clearCache =>
      let (count, engine) := engine.clearCache now
      let printed :=
        match count with
        | .error e => .error (.clear e)
        | .ok count => .ok (String.ofList (Decimal.digits count) ++ "\n")
      (printed, engine)

def outcome : Except Failure String → Outcome
  | .ok output => { exitCode := 0, output }
  | .error e => { exitCode := 1, error := "Error: " ++ e.message }

def run (now : Nat) (args : List String) (files : Files) : Outcome × Files :=
  match read args with
  | .error e => ({ exitCode := 2, error := "error: " ++ e.message }, files)
  | .ok .help => ({ exitCode := 0, output := helpText }, files)
  | .ok .version =>
      ({ exitCode := 0, output := programName ++ " " ++ programVersion ++ "\n" }, files)
  | .ok (.run command options) =>
      match settingsFor options files with
      | .error e => (outcome (.error (.settings e)), files)
      | .ok settings =>
          let (printed, engine) := command.run now { settings, files }
          (outcome printed, engine.files)

end CommandLine
end TemplateEngine
