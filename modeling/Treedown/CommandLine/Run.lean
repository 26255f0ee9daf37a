import Treedown.CommandLine.Arguments
import Treedown.CommandLine.Extra
import Treedown.Registry
import Treedown.Settings.Layer
/-!
# Command line — a run

A run goes from arguments and files to what is printed, what is written and
what is logged. `run` says all of it as a value: how the run ends, its log,
and the files afterwards. A run that fails prints nothing on standard output
and writes nothing, and one that writes a file prints nothing.
-/

namespace Treedown

namespace CommandLine

/-- **Why a run fails.** -/
inductive RunError
  | settings (fault : Settings.Fault)
  | notTruth (word : Text)
  | unknownParameter (key : Text)
  | badFilter (directive : Text)
  | noCommand
  | failure (f : Failure)
  /-- The input of a rendering cannot be loaded. -/
  | input (path : Text) (f : Failure)
  | conversion (f : Failure)
  | output (path : Text) (cause : FileError)

/-- The wording of a failed run. -/
def RunError.message : RunError → Text
  | .settings fault => ("Failed to load configuration: " : Text) ++ fault.message
  | .notTruth word =>
    ("Invalid boolean value '" : Text) ++ word.lower ++ ("' for --extra-multiline" : Text)
  | .unknownParameter key => ("Unknown parameter --extra-" : Text) ++ key
  | .badFilter directive =>
    ("Invalid log level '" : Text) ++ directive ++ ("': invalid filter directive" : Text)
  | .noCommand => "Unknown subcommand. Use --help for usage information."
  | .failure f => ("Error: " : Text) ++ f.message
  | .input path f => ("Error in '" : Text) ++ path ++ ("': " : Text) ++ f.message
  | .conversion f => ("Conversion error: " : Text) ++ f.message
  | .output path cause =>
    ("Error writing file '" : Text) ++ path ++ ("': " : Text) ++ cause.message

/-- **How a run ends.** -/
inductive Ending
  | printed (t : Text)
  | wrote (path t : Text)
  | usage (e : UsageError)
  | failed (e : RunError)

/-- The version of the program. -/
def version : Text := "mdpp 0.3.0\n"

/-- The help on the program. -/
def helpText : Text := Text.unlines
  ["Usage: mdpp [OPTIONS] [COMMAND]", "", "Commands:",
    "  convert INPUT           Render a JSON document tree (default command)",
    "  rewrite-includes INPUT  Replace include directives with placeholders", "",
    "Options:", "  -b, --backend NAME      Output backend of convert",
    "      --suffix SUFFIX     Suffix that rewrite-includes gives to targets",
    "  -o, --output PATH       Write to a file",
    "      --config PATH       Read settings from a file",
    "      --list-backends     List the output backends", "  -v, --verbose           Log more",
    "  -h, --help              Print help", "  -V, --version           Print version",
    "      --extra-KEY VALUE   Override one setting", ""]

namespace Ending

/-- The exit code. -/
def code : Ending → Nat
  | .printed _ | .wrote _ _ | .usage .help | .usage .version => 0
  | .failed _ => 1
  | .usage _ => 2

/-- What is printed on standard output. -/
def stdout : Ending → Text
  | .printed t => t
  | .usage .help => helpText
  | .usage .version => version
  | _ => []

/-- What is printed on standard error, the log apart. -/
def stderr : Ending → Text
  | .failed e => e.message ++ ['\n']
  | .usage .help | .usage .version => []
  | .usage _ => helpText
  | _ => []

end Ending

/-- **A run.** -/
structure Run where
  ending : Ending
  log : List Log.Record
  /-- The files afterwards. -/
  files : Files

/-! ## Getting ready -/

/-- The file with settings that is read wherever it is found. -/
def settingsFile : Text := "mdpp.toml"

/-- The layers of the settings: the standard file, and the one that the
arguments name. -/
def layers (config : Option Text) : List Settings.Layer :=
  .file settingsFile false :: (config.map fun path => .file path true).toList

/-- **The directive of the log**: what the arguments ask for, else what the
environment says unless it is blank, else the level of the settings. -/
def logDirective (verbose : Nat) (environment : Option Text) (configured : Text) : Text :=
  match verbose with
  | 0 => (Text.unlessBlank environment).getD configured
  | 1 => "debug"
  | _ => "trace"

/-- The name of the backend that is taken where nothing tells. -/
def defaultBackend : Text := "mdpp"

/-- **The backend of a rendering**: the one that is named, else the one whose
files are named like the output. -/
def selectBackend (named output : Option Text) : Text :=
  (named.or (output.bind Registry.standard.detect?)).getD defaultBackend

/-- The settings of a run, changed by its extra parameters. Where parameters are
left that no setting takes, the run fails on one of them. The order of the
parameters that are left is unspecified, so which of them is named is no part
of what a run promises; here it is the first that was given. -/
def settings (files : Files) (config : Option Text) (extra : Parameters) :
    Except RunError Settings := do
  let loaded ← (Settings.load files (layers config)).mapError .settings
  let (changed, rest) ← (apply loaded extra).mapError .notTruth
  match rest.keys with
  | [] => return changed
  | key :: _ => throw (.unknownParameter key)

/-- The filter of the log of a run. -/
def filter (directive : Text) : Except RunError Log.Filter :=
  match Log.filter? directive with
  | some f => .ok f
  | none => .error (.badFilter directive)

/-! ## The commands -/

/-- The part of the program that is the command line, as it is called in the
log. -/
def source : Text := "mdpp"

/-- The record of a tree that was loaded. -/
def loadedRecord (nodes : Nat) (backend : Text) : Log.Record :=
  ⟨.debug, source, "document tree loaded",
    [("nodes", Text.ofNat nodes), ("backend", backend.quoted)]⟩

/-- The record of a substitution that begins. -/
def substitutionRecord (suffix : Text) : Log.Record :=
  ⟨.debug, source, "rewriting include directives", [("suffix", suffix.quoted)]⟩

/-- The record of a directive that is replaced. -/
def replacingRecord (target : Text) : Log.Record :=
  ⟨.debug, "mdpp_convert::include", "replacing include directive", [("target", target.quoted)]⟩

/-- The record of a file that was written. -/
def writtenRecord (path : Text) : Log.Record :=
  ⟨.info, source, "output written", [("path", path.quoted)]⟩

/-- The text that a command comes to, with its log. -/
abbrev Product := List Log.Record × Except RunError Text

/-- **A tree in a file rendered** by a backend. -/
def convert (files : Files) (o : Options) (input backend : Text) : Product :=
  match Registry.standard.get backend with
  | .error f => ([], .error (.failure f))
  | .ok b =>
    match files.loadTree input with
    | .error f => ([], .error (.input input f))
    | .ok root =>
      (loadedRecord root.size backend :: b.journal ⟨o, files⟩ root,
        (b.render ⟨o, files⟩ root).mapError .conversion)

/-- **The includes of a source file replaced.** -/
def substituteIn (files : Files) (suffix input : Text) : Product :=
  match files.load input with
  | .error f => ([substitutionRecord suffix], .error (.failure f))
  | .ok t =>
    (substitutionRecord suffix :: (Include.targets t).map replacingRecord,
      .ok (Include.substitute suffix t))

/-- The end of a run whose command has come to something: it is written to
a file or printed. -/
def finish (files : Files) (output : Option Text) (product : Product) : Run :=
  match product.2, output with
  | .error e, _ => ⟨.failed e, product.1, files⟩
  | .ok t, none => ⟨.printed t, product.1, files⟩
  | .ok t, some path =>
    match files.writeText path t with
    | .ok after => ⟨.wrote path t, product.1 ++ [writtenRecord path], after⟩
    | .error cause => ⟨.failed (.output path cause), product.1, files⟩

/-- A command carried out. -/
def execute (files : Files) (s : Settings) : Command → Run
  | .convert input backend output =>
    finish files output (convert files s.options input (selectBackend backend output))
  | .includes input suffix output =>
    finish files output (substituteIn files (suffix.getD s.options.suffix) input)

/-! ## The run -/

/-- The list of all backends. -/
def listing : Text :=
  ("Available backends:\n\n" : Text) ++ Registry.standard.backends.flatMap fun b =>
    ("  " : Text) ++ b.name.padTo 8 ++ [' '] ++ b.description ++ (" (*" : Text) ++ b.suffix ++
      (")\n" : Text)

/-- A run whose arguments were understood. -/
def start (files : Files) (environment : Option Text) (extra : Parameters) (a : Arguments) : Run :=
  let ready : Except RunError (Settings × Log.Filter) := do
    let s ← settings files a.config extra
    return (s, ← filter (logDirective a.verbose environment s.level))
  match ready with
  | .error e => ⟨.failed e, [], files⟩
  | .ok (s, f) =>
    if a.listBackends then ⟨.printed listing, [], files⟩
    else match a.command with
      | none => ⟨.failed .noCommand, [], files⟩
      | some command =>
        let r := execute files s command
        { r with log := r.log.filter f.shows }

/-- **A run of the program** with some arguments, its own name among them. -/
def run (files : Files) (environment : Option Text) (args : List Text) : Run :=
  let (args, extra) := split args
  match parseLoosely args with
  | .error e => ⟨.usage e, [], files⟩
  | .ok a => start files environment extra a

/-! ## What a run looks at -/

mutual

/-- The files that the tables of a tree refer to. -/
def tableFiles : Node → List Text
  | .mk _ fields children =>
    (fields.cells.source.bind (·.path)).toList ++ tableFilesAll children

/-- The files that the tables of several trees refer to. -/
def tableFilesAll : List Node → List Text
  | [] => []
  | node :: rest => tableFiles node ++ tableFilesAll rest

end

/-- The files that the arguments name. -/
def namedFiles (a : Arguments) : List Text :=
  a.config.toList ++ (a.config.bind Settings.withExtension?).toList ++
  match a.command with
  | none => []
  | some (.convert input _ output) => input :: output.toList
  | some (.includes input _ output) => input :: output.toList

/-- **The paths that a run may look at**, as far as known files tell. -/
def paths (known : Files) (args : List Text) : List Text :=
  settingsFile :: (Settings.withExtension? settingsFile).toList ++
  match parseLoosely (split args).1 with
  | .error _ => []
  | .ok a =>
    namedFiles a ++
    match a.command with
    | some (.convert input _ _) =>
      match known.loadTree input with
      | .ok root => tableFiles root
      | .error _ => []
    | _ => []

end CommandLine

end Treedown
