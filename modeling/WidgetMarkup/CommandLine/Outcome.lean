import WidgetMarkup.CommandLine.Command
import WidgetMarkup.CommandLine.FileTree
import WidgetMarkup.CommandLine.LogFilter
import WidgetMarkup.Run
import WidgetMarkup.Vocabulary.Standard

namespace WidgetMarkup.CommandLine

/-!
# Outcomes

What a command line gives: a code, what is printed, and a complaint if something went wrong. The
files that a document needs become known as it is read, so a command is carried out step by step:
a step either names the next file or has the outcome.
-/

/-- What is known of files: nothing yet, why one cannot be read, or its text. -/
abbrev KnownFiles := String → Option (Except ReadFailure String)

/-- What a command line gives. -/
structure Outcome where
  code : Nat := 0
  output : String := ""
  /-- What could not be read of the filter for the log. -/
  warnings : String := ""
  /-- The log of the run, as far as the filter shows it. -/
  records : List LogRecord := []
  complaint : String := ""
deriving Repr, Inhabited

namespace Outcome

/-- The outcome of a command line that cannot be read. -/
def misused (error : UsageError) : Outcome :=
  { code := 2
    complaint := "error: " ++ error.message ++ "\n\nFor more information, try '--help'.\n" }

/-- The outcome of a failure without a cause. -/
def failed (reason : String) : Outcome :=
  { code := 1, complaint := "Error: " ++ reason ++ "\n" }

/-- A text with all lines but the first indented. -/
def indentLines (text : String) : String :=
  Text.join "\n    " (Text.split '\n' text)

/-- The outcome of a failure while something was being done, with its cause. -/
def failedWhile (activity cause : String) : Outcome :=
  failed (activity ++ "\n\nCaused by:\n    " ++ indentLines cause)

/-- The outcome as a filter shows it. -/
def shownBy (filter : LogFilter) (outcome : Outcome) : Outcome :=
  { outcome with
    warnings := filter.warnings
    records := outcome.records.filter fun entry => entry.level.verbosity ≤ filter.verbosity }

end Outcome

/-- The name and version of the program. -/
def versionText : String :=
  "marduk-studio 0.1.0\n"

/-- The help of the program. -/
def helpText : String :=
  "Build a widget tree from .lml markup\n\n" ++
  "Usage: marduk-studio [OPTIONS] [FILE]\n\n" ++
  "Arguments:\n" ++
  "  [FILE]  Markup file to parse\n\n" ++
  "Options:\n" ++
  "      --arg <KEY=VALUE>          Argument for `\x7bkey\x7d` placeholders, as `key=value`. Repeatable\n" ++
  "      --translation <KEY=VALUE>  Translation for `\x7b@key\x7d` placeholders, as `key=value`. Repeatable\n" ++
  "      --action <NAME>            Register a named action that only logs its invocations. Repeatable\n" ++
  "      --lenient                  Warn about unknown tags and attributes instead of failing\n" ++
  "      --max-depth <MAX_DEPTH>    Maximum macro nesting depth [default: 64]\n" ++
  "      --list                     Print the registered tag and macro names and exit\n" ++
  "      --log <LOG>                Log filter (`env_logger` syntax); defaults to `RUST_LOG`, then `info`\n" ++
  "  -h, --help                     Print help\n" ++
  "  -V, --version                  Print version\n"

/-- The names of a vocabulary as they are printed. -/
def listText (vocabulary : Vocabulary) : String :=
  "tags:   " ++ Text.join ", " vocabulary.tags.names ++ "\n" ++
    "macros: " ++ Text.join ", " vocabulary.macros.names ++ "\n"

/-- An action that only tells the log that it was run. -/
def loggingAction (name : String) : Action where
  records kind :=
    match kind with
    | some kind => [⟨.info, "action `" ++ name ++ "` on " ++ kind.name⟩]
    | none => [⟨.info, "action `" ++ name ++ "` at macro time"⟩]

namespace Request

/-- The interpreter that a request sets up, given its templates. -/
def interpreter (request : Request) (templates : TextSource) : Interpreter where
  vocabulary := .standard
  settings :=
    { (if request.lenient then Settings.lenient else {} : Settings) with
      maxDepth := request.maxDepth.getD ({} : Settings).maxDepth }
  arguments := .ofPairs request.arguments
  translations := .ofPairs request.translations
  templates := templates
  actions := request.actions.foldl (fun actions name => actions.insert name (loggingAction name)) {}

/-- The filter that a request names, or else a given one, or else the one for information. -/
def logFilter (request : Request) (fallback : Option String) : LogFilter :=
  .read ((request.filter <|> fallback).getD "info")

end Request

/-- How far the work on a command has come. -/
inductive Step where
  /-- A file has to be read before the work can go on. -/
  | needsFile (path : String)
  | finished (outcome : Outcome)

/-- The step with its outcome, if it has one, as a filter shows it. -/
def Step.shownBy (filter : LogFilter) : Step → Step
  | .needsFile path => .needsFile path
  | .finished outcome => .finished (outcome.shownBy filter)

/-- The template that a run asked for and did not get. -/
def missingTemplate? (run : Run Document) : Option String :=
  match run.result with
  | .error located =>
      match located.problem with
      | .templateNotFound path => some path
      | _ => none
  | .ok _ => none

/-- The line of the log about a document that was read from a file. -/
def summary (file : String) (document : Document) : LogRecord :=
  ⟨.info,
    file ++ ": " ++ toString document.roots.length ++ " root(s), " ++
      toString document.count ++ " widget(s), " ++ toString document.ids.length ++ " id(s)"⟩

/-- The outcome of a run over a file. -/
def Outcome.ofRun (file : String) (run : Run Document) : Outcome :=
  let records := run.journal.records.toList
  match run.result with
  | .ok document => { output := document.outline, records := records ++ [summary file document] }
  | .error located => { Outcome.failedWhile ("parsing " ++ file) located.message with records }

/-- Works on the text of a file. -/
def Request.stepOn (request : Request) (known : KnownFiles) (file source : String) : Step :=
  let templates (path : String) : Option String :=
    match known (Pathname.besideFile file path) with
    | some (.ok text) => some text
    | _ => none
  let run := (request.interpreter templates).parse source
  match missingTemplate? run with
  | none => .finished (.ofRun file run)
  | some path =>
      if (known (Pathname.besideFile file path)).isNone then
        .needsFile (Pathname.besideFile file path)
      else
        .finished (.ofRun file run)

/-- Works on a request as far as the known files allow. -/
def Request.step (request : Request) (known : KnownFiles) : Step :=
  if request.list then
    .finished { output := listText .standard }
  else
    match request.file with
    | none => .finished (.failed "no input file (see --help)")
    | some file =>
        match known file with
        | none => .needsFile file
        | some (.error failure) =>
            .finished (.failedWhile ("reading " ++ file) failure.message)
        | some (.ok source) => request.stepOn known file source

/--
Works on a command line as far as the known files allow. The fallback is the filter for the log
where the command line names none.
-/
def step (fallback : Option String) (words : List String) (known : KnownFiles) : Step :=
  match Command.read words with
  | .error error => .finished (.misused error)
  | .ok .help => .finished { output := helpText }
  | .ok .version => .finished { output := versionText }
  | .ok (.run request) => (request.step known).shownBy (request.logFilter fallback)

end WidgetMarkup.CommandLine
