/-
  CodeAtlas.CommandLine — the command line.

  Arguments are read from left to right; the first one that is wrong ends the reading, and so does a
  request for help or the version.  `CommandLine.execute` then loads the settings, documents the
  source and writes the result, and tells what to show.
-/
import CodeAtlas.Output

namespace CodeAtlas

/-! ## §1. Options -/

/-- An option of the command line. -/
inductive CommandOption where
  | source
  | destination
  | coverage
  | unitTests
  | guide
  | base
  | config
  | jobs
  | help
  | version
  deriving DecidableEq, Repr, Inhabited

namespace CommandOption

/-- Every option. -/
def all : List CommandOption :=
  [source, destination, coverage, unitTests, guide, base, config, jobs, help, version]

/-- The long name of an option. -/
def longName : CommandOption → String
  | source => "source"
  | destination => "destination"
  | coverage => "coverage"
  | unitTests => "unit-tests"
  | guide => "guide"
  | base => "base"
  | config => "config"
  | jobs => "jobs"
  | help => "help"
  | version => "version"

/-- The letter of an option. -/
def letter? : CommandOption → Option Char
  | source => some 's'
  | destination => some 'd'
  | coverage => some 'c'
  | unitTests => some 'u'
  | guide => some 'g'
  | base => some 'b'
  | config => none
  | jobs => some 'j'
  | help => some 'h'
  | version => some 'V'

/-- Whether an option has a value. -/
def hasValue : CommandOption → Bool
  | help => false
  | version => false
  | _ => true

/-- Whether a text can be the value of an option: a path must not be empty, and the number of
workers must be a number. -/
def accepts : CommandOption → String → Bool
  | base, _ => true
  | jobs, v => (readCount? v).isSome
  | _, v => v != ""

end CommandOption

/-! ## §2. Reading arguments -/

namespace CommandLine

/-- The values of the options that were given. -/
abbrev Values : Type := List (CommandOption × String)

/-- What the arguments ask for. -/
inductive Request where
  | help
  | version
  | run (values : Values)
  | wrong
  deriving DecidableEq, Repr, Inhabited

/-- Whether an argument can be the value of the option in front of it: it is no option itself. -/
def isValue (arg : String) : Bool := arg == "-" || !Text.startsWith "-" arg

/-- Records the value of an option, unless it has one or the text cannot be its value. -/
def record? (values : Values) (o : CommandOption) (v : String) : Option Values :=
  if values.any (·.1 == o) || !o.accepts v then none else some (values ++ [(o, v)])

/-- An argument: an option, the value attached to it if any, or something else. -/
inductive Argument where
  | option (o : CommandOption) (attached : Option String)
  /-- The mark behind which no options follow. -/
  | escape
  | unknown

/-- Reads an argument that starts with two dashes. -/
def longArgument (body : List Char) : Argument :=
  let (name, attached) :=
    match Chars.splitOnce '=' body with
    | some (name, v) => (name, some (String.ofList v))
    | none => (body, none)
  match CommandOption.all.find? (·.longName == String.ofList name) with
  | some o => if !o.hasValue && attached.isSome then .unknown else .option o attached
  | none => .unknown

/-- Reads an argument of one dash and a letter; what follows the letter is the value. -/
def shortArgument (letter : Char) (rest : List Char) : Argument :=
  match CommandOption.all.find? (·.letter? == some letter) with
  | none => .unknown
  | some o =>
    if !o.hasValue || rest.isEmpty then .option o none
    else .option o (some (String.ofList ((Chars.dropPrefix? ['='] rest).getD rest)))

/-- Reads an argument. -/
def argument (arg : String) : Argument :=
  match arg.toList with
  | ['-', '-'] => .escape
  | '-' :: '-' :: body => longArgument body
  | '-' :: letter :: rest => shortArgument letter rest
  | _ => .unknown

/-- The request to run, if the options that must be given are. -/
def runWith (values : Values) : Request :=
  if values.any (·.1 == .source) && values.any (·.1 == .destination) then .run values else .wrong

/-- Reads arguments, with the values so far. -/
def requestFrom : Values → List String → Request
  | values, [] => runWith values
  | values, arg :: rest =>
    match argument arg with
    | .unknown => .wrong
    | .escape => if rest.isEmpty then runWith values else .wrong
    | .option .help _ => .help
    | .option .version _ => .version
    | .option o (some v) =>
      match record? values o v with
      | some values => requestFrom values rest
      | none => .wrong
    | .option o none =>
      match rest with
      | [] => .wrong
      | v :: rest =>
        if isValue v then
          match record? values o v with
          | some values => requestFrom values rest
          | none => .wrong
        else .wrong

/-- What some arguments ask for. -/
def request (args : List String) : Request := requestFrom [] args

/-! ## §3. Requests to run -/

/-- Drops slashes and backslashes at the end, unless nothing is left. -/
def dropEndSeparators (path : String) : String :=
  let trimmed := Text.mapChars (Chars.dropEndWhile fun c => c == '/' || c == '\\') path
  if trimmed = "" then path else trimmed

/-- The value of an option. -/
def value? (values : Values) (o : CommandOption) : Option String := values.lookup o

/-- The directory to write to. -/
def destination (values : Values) : String :=
  dropEndSeparators ((value? values .destination).getD "")

/-- What a run reads; the base of the pages is the destination if none is given. -/
def input (values : Values) : RunInput where
  source := dropEndSeparators ((value? values .source).getD "")
  coverageLog := value? values .coverage
  testLog := value? values .unitTests
  guide := value? values .guide
  baseUri := some (((value? values .base).map dropEndSeparators).getD (destination values))

/-- The settings with the number of workers that the arguments give. -/
def withJobs (values : Values) (s : Settings) : Settings :=
  match (value? values .jobs).bind readCount? with
  | some n => { s with parser := { s.parser with jobs := n } }
  | none => s

/-! ## §4. Results -/

/-- How a command ended. -/
inductive Ending where
  /-- The arguments are wrong. -/
  | usage
  /-- A text was asked for. -/
  | shown (text : String)
  /-- What was tried, and why it failed. -/
  | failed (attempt : String) (cause : Failure)
  | faulted (f : Fault)
  /-- A run ended with a summary. -/
  | finished (summary : List String)
  deriving DecidableEq, Repr, Inhabited

namespace Ending

/-- The exit code. -/
def exitCode : Ending → Nat
  | usage => 2
  | shown _ => 0
  | failed _ _ => 1
  | faulted _ => 101
  | finished _ => 0

/-- What goes to standard output. -/
def output : Ending → String
  | shown text => text
  | _ => ""

/-- The line that tells what was tried. -/
def errorLine (attempt : String) : String := "Error: " ++ attempt

/-- The lines below that, one for each cause. -/
def causeLines (f : Failure) : List String :=
  match f with
  | .notRead e => ["0: " ++ f.message, "1: " ++ e.message]
  | f => [f.message]

end Ending

/-- The lines about the warnings of a run. -/
def warningLines (ws : List Warning) : List String :=
  if ws.isEmpty then []
  else
    let count (k : WarningKind) : String := toString (ws.filter (·.kind == k)).length
    ("  Warnings:       " ++ count .file ++ " file, " ++ count .declaration ++ " declaration, "
      ++ count .metadata ++ " metadata") :: ws.map fun w => "    " ++ w.text

/-- The lines about the tests of a run. -/
def testLines : Option TestSummary → List String
  | some s =>
    ["  Unit tests:     " ++ toString s.passed ++ " passed, " ++ toString s.failed ++ " failed, "
      ++ toString s.skipped ++ " skipped"]
  | none => []

/-- What a run tells at its end. -/
def summary (doc : Documentation) (destination : String) : List String :=
  let t := Tally.ofReferences doc.references
  ["Documented " ++ doc.sourceRoot ++ " into " ++ destination,
    "  Files:          " ++ toString doc.files.size,
    "  Declarations:   " ++ toString doc.declarations.size,
    "  References:     " ++ toString t.resolved ++ " resolved, " ++ toString t.external
      ++ " external, " ++ toString t.unresolved ++ " unresolved"]
    ++ testLines doc.metrics.suite ++ warningLines doc.warnings

/-! ## §5. Texts -/

/-- The version. -/
def versionText : String := "documentor 0.1.0\n"

/-- The help. -/
def helpText : String := "\n".intercalate [
  "Static documentation generator for PHP source trees",
  "",
  "Usage: documentor [OPTIONS] --source <SOURCE_PATH> --destination <DESTINATION_PATH>",
  "",
  "Options:",
  "  -s, --source <SOURCE_PATH>            Directory containing the source files to document",
  "  -d, --destination <DESTINATION_PATH>  Directory the documentation is written to",
  "  -c, --coverage <COVERAGE_PATH>        Code coverage xml log generated by " ++
    "`coverage-clover` in PHPUnit",
  "  -u, --unit-tests <UNIT_TEST_PATH>     Unit test log generated by `junit` in PHPUnit",
  "  -g, --guide <GUIDE_PATH>              Directory of static guide pages copied under the output",
  "  -b, --base <BASE>                     Base URI of the generated pages (defaults to the " ++
    "destination)",
  "      --config <CONFIG_PATH>            Configuration file (defaults to ./documentor.toml " ++
    "when present)",
  "  -j, --jobs <JOBS>                     Parse worker threads (0 lets the pool decide)",
  "  -h, --help                            Print help",
  "  -V, --version                         Print version",
  ""]

/-! ## §6. Execution -/

/-- Documents and writes what the values of the options ask for. -/
def run (grammar : Grammar) (d : Disk) (values : Values) : Ending × Disk :=
  match Settings.load d (value? values .config) with
  | .error f => (.failed "failed to load configuration" f, d)
  | .ok s =>
    let s := withJobs values s
    match Documentation.ofDirectory grammar d s (input values) with
    | .error (.failure f) => (.failed ("failed to document " ++ (input values).source) f, d)
    | .error (.fault f) => (.faulted f, d)
    | .ok doc =>
      match Writing.documentation doc (destination values) s.output d with
      | (.error f, d) => (.failed ("failed to write " ++ destination values) f, d)
      | (.ok _, d) => (.finished (summary doc (destination values)), d)

/-- Executes a command line. -/
def execute (grammar : Grammar) (d : Disk) (args : List String) : Ending × Disk :=
  match request args with
  | .help => (.shown helpText, d)
  | .version => (.shown versionText, d)
  | .wrong => (.usage, d)
  | .run values => run grammar d values

end CommandLine
end CodeAtlas
