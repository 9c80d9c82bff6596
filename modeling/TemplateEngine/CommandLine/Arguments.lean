/-!
# Arguments

What a command line asks for: one of the commands `render`, `compile` and `clear-cache`, the help, or
the version. The options that all commands have in common may stand before the command or after it;
after it they count more. An option is given once at most in each of these places. What follows two
hyphens alone is no option.
-/

namespace TemplateEngine
namespace CommandLine

/-- Why a command line cannot be followed. -/
inductive UsageError
  | unexpectedArgument (text : String)
  | missingValue (name : String)
  | unexpectedValue (name : String)
  | repeated (name : String)
  | unknownCommand (name : String)
  | missingCommand
  | missingFile
  deriving DecidableEq, Repr

def UsageError.message : UsageError → String
  | .unexpectedArgument text => "unexpected argument '" ++ text ++ "' found"
  | .missingValue name => "a value is required for '" ++ name ++ "' but none was supplied"
  | .unexpectedValue name => "no value is taken by '--" ++ name ++ "'"
  | .repeated name => "the argument '--" ++ name ++ "' cannot be used multiple times"
  | .unknownCommand name => "unrecognized subcommand '" ++ name ++ "'"
  | .missingCommand => "a subcommand is required"
  | .missingFile => "the argument <FILE> is required"

inductive Command
  | render (file : String) (data? : Option String)
  | compile (file : String) (print : Bool)
  | clearCache
  deriving DecidableEq, Repr

structure CommonOptions where
  cacheDir? : Option String := none
  config? : Option String := none
  noCache : Bool := false
  strict : Bool := false
  verbose : Bool := false
  deriving DecidableEq, Repr

/-- What a command line asks for. -/
inductive Request
  | help
  | version
  | run (command : Command) (options : CommonOptions)
  deriving DecidableEq, Repr

/-! ## One part of the command line -/

/-- Which options and how many operands may stand in one part of a command line. -/
structure Part where
  /-- The options that take a value. -/
  valued : List String
  flags : List String
  operands : Nat
  /-- Whether the part ends before a word that names no option. -/
  endsAtOperand : Bool

/-- What is taken from one part of a command line. -/
structure Taken where
  values : List (String × String) := []
  flags : List String := []
  operands : List String := []

namespace Taken

def value? (name : String) (taken : Taken) : Option String :=
  taken.values.lookup name

def has (name : String) (taken : Taken) : Bool :=
  taken.flags.contains name

def addValue (name value : String) (taken : Taken) : Except UsageError Taken :=
  if value.isEmpty then .error (.missingValue name)
  else if (taken.value? name).isSome then .error (.repeated name)
  else .ok { taken with values := (name, value) :: taken.values }

def addFlag (name : String) (taken : Taken) : Except UsageError Taken :=
  if taken.has name then .error (.repeated name)
  else .ok { taken with flags := name :: taken.flags }

/-- Takes an operand, where the part has room for one. -/
def addOperand (part : Part) (text : String) (taken : Taken) : Except UsageError Taken :=
  if part.operands ≤ taken.operands.length then .error (.unexpectedArgument text)
  else if text.isEmpty then .error (.missingValue "FILE")
  else .ok { taken with operands := taken.operands ++ [text] }

end Taken

/-- The name that a word gives to an option, and the value behind an equals sign. A word that begins
with a hyphen and has more than that names an option. -/
def optionOf? (word : String) : Option (String × Option String) :=
  match word.toList with
  | '-' :: '-' :: text =>
      let name := String.ofList (text.takeWhile (· != '='))
      match text.dropWhile (· != '=') with
      | [] => some (name, none)
      | _ :: value => some (name, some (String.ofList value))
  | ['-', 'h'] => some ("help", none)
  | ['-', 'v'] => some ("verbose", none)
  | ['-', 'V'] => some ("version", none)
  | '-' :: c :: cs => some (String.ofList ('-' :: c :: cs), none)
  | _ => none

/-- Words with each group of letters behind one hyphen taken apart. -/
def separate : List String → List String
  | [] => []
  | word :: words =>
      if word = "--" then word :: words
      else
        match word.toList with
        | '-' :: '-' :: _ => word :: separate words
        | '-' :: c :: cs => (c :: cs).map (fun c => String.ofList ['-', c]) ++ separate words
        | _ => word :: separate words

/-- How one part of a command line ends. -/
inductive PartEnd
  | asked (request : Request)
  /-- With what it gave, and the words after it. -/
  | taken (taken : Taken) (rest : List String)

/-- Reads one part of a command line. -/
def readPart (part : Part) (taken : Taken) : List String → Except UsageError PartEnd
  | [] => .ok (.taken taken [])
  | word :: words =>
      -- All that stands after two hyphens alone is an operand.
      if word = "--" then
        (words.foldlM (fun (taken : Taken) word => taken.addOperand part word) taken).map
          (.taken · [])
      else
        match optionOf? word with
        | none =>
            if part.endsAtOperand then .ok (.taken taken (word :: words))
            else
              match taken.addOperand part word with
              | .error e => .error e
              | .ok taken => readPart part taken words
        | some ("help", none) => .ok (.asked .help)
        | some (name, value?) =>
            if part.flags.contains name then
              match value?, taken.addFlag name with
              | some _, _ => .error (.unexpectedValue name)
              | none, .error e => .error e
              | none, .ok taken => readPart part taken words
            else if part.valued.contains name then
              match value?, words with
              | some value, words =>
                  match taken.addValue name value with
                  | .error e => .error e
                  | .ok taken => readPart part taken words
              | none, [] => .error (.missingValue name)
              | none, value :: words =>
                  -- The value of an option may stand in the next word, unless that is an option.
                  if (optionOf? value).isSome then .error (.missingValue name)
                  else
                    match taken.addValue name value with
                    | .error e => .error e
                    | .ok taken => readPart part taken words
            else if name = "version" && value?.isNone && part.endsAtOperand then
              .ok (.asked .version)
            else .error (.unexpectedArgument word)

/-! ## The whole command line -/

inductive Verb
  | render
  | compile
  | clearCache
  deriving DecidableEq, Repr

def Verb.ofName? : String → Option Verb
  | "render" => some .render
  | "compile" => some .compile
  | "clear-cache" => some .clearCache
  | _ => none

def commonValued : List String := ["cache-dir", "config"]

def commonFlags : List String := ["no-cache", "strict", "verbose"]

def firstPart : Part := ⟨commonValued, commonFlags, 0, true⟩

def Verb.part : Verb → Part
  | .render => ⟨"data" :: commonValued, commonFlags, 1, false⟩
  | .compile => ⟨commonValued, "print" :: commonFlags, 1, false⟩
  | .clearCache => ⟨commonValued, commonFlags, 0, false⟩

/-- The common options of the two parts of a command line. -/
def commonOptions (outer inner : Taken) : CommonOptions where
  -- A value after the command counts more than one before it.
  cacheDir? := (inner.value? "cache-dir").or (outer.value? "cache-dir")
  config? := (inner.value? "config").or (outer.value? "config")
  noCache := outer.has "no-cache" || inner.has "no-cache"
  strict := outer.has "strict" || inner.has "strict"
  verbose := outer.has "verbose" || inner.has "verbose"

/-- The command that a verb makes of what was taken after it. -/
def Verb.command (verb : Verb) (taken : Taken) : Except UsageError Command :=
  match verb, taken.operands with
  | .render, file :: _ => .ok (.render file (taken.value? "data"))
  | .compile, file :: _ => .ok (.compile file (taken.has "print"))
  | .clearCache, _ => .ok .clearCache
  | _, [] => .error .missingFile

/-- The help that is asked for by name. -/
def helpOn : List String → Except UsageError Request
  | [] => .ok .help
  | [name] =>
      if name = "help" || (Verb.ofName? name).isSome then .ok .help
      else .error (.unknownCommand name)
  | name :: other :: _ =>
      .error (.unknownCommand (if (Verb.ofName? name).isSome then other else name))

/-- What a verb and the words after it ask for. -/
def readCommand (outer : Taken) (verb : Verb) (words : List String) :
    Except UsageError Request :=
  match readPart verb.part {} words with
  | .error e => .error e
  | .ok (.asked request) => .ok request
  | .ok (.taken inner _) =>
      (verb.command inner).map fun command => .run command (commonOptions outer inner)

def read (args : List String) : Except UsageError Request :=
  match readPart firstPart {} (separate args) with
  | .error e => .error e
  | .ok (.asked request) => .ok request
  | .ok (.taken _ []) => .error .missingCommand
  | .ok (.taken outer (name :: words)) =>
      match Verb.ofName? name with
      | some verb => readCommand outer verb words
      | none => if name = "help" then helpOn words else .error (.unknownCommand name)

end CommandLine
end TemplateEngine
