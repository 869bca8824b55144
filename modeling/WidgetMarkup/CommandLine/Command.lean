import WidgetMarkup.AttributeValue

namespace WidgetMarkup.CommandLine

/-!
# Commands

What the words of a command line ask for: help, the version, or a run over a file. Options are
long, have their value behind an equals sign or as the next word, and are read from left to
right; after two dashes every word is a file. The first word that cannot be read ends the reading.
-/

/-- A run, as the command line asks for it. -/
structure Request where
  file : Option String := none
  /-- The arguments of the document, the last given first. -/
  arguments : List (String × String) := []
  /-- The translations, the last given first. -/
  translations : List (String × String) := []
  /-- The names of actions in the order in which they were given. -/
  actions : List String := []
  lenient : Bool := false
  maxDepth : Option Nat := none
  /-- Whether the names of the language are asked for instead of a document. -/
  list : Bool := false
  /-- Which log records to show. -/
  filter : Option String := none
deriving Repr, DecidableEq, Inhabited

/-- What a command line asks for. -/
inductive Command where
  | help
  | version
  | run (request : Request)
deriving Repr, DecidableEq

/-- Why a command line cannot be read. -/
inductive UsageError where
  | unknownOption (word : String)
  | missingValue (option : String)
  | unexpectedValue (option : String)
  | repeatedOption (option : String)
  | notAPair (option raw : String)
  | notADepth (raw : String)
  | emptyFile
  | secondFile (word : String)
deriving Repr, DecidableEq

namespace UsageError

/-- The message of an error. -/
def message : UsageError → String
  | unknownOption word => "unexpected argument `" ++ word ++ "`"
  | missingValue option => "a value is required for `--" ++ option ++ "`"
  | unexpectedValue option => "`--" ++ option ++ "` takes no value"
  | repeatedOption option => "`--" ++ option ++ "` cannot be used more than once"
  | notAPair option raw =>
      "invalid value for `--" ++ option ++ "`: expected KEY=VALUE, got `" ++ raw ++ "`"
  | notADepth raw => "invalid value for `--max-depth`: `" ++ raw ++ "`"
  | emptyFile => "the file name must not be empty"
  | secondFile word => "unexpected second file `" ++ word ++ "`"

end UsageError

/-- A key and a value with an equals sign between them; blanks around the key do not matter. -/
def readPair? (raw : String) : Option (String × String) :=
  let key := Text.trim (String.ofList (raw.toList.takeWhile (· != '=')))
  match raw.toList.dropWhile (· != '=') with
  | [] => none
  | _ :: value => if key.isEmpty then none else some (key, String.ofList value)

/-- What an option with a value does to a request. -/
abbrev ValueOption := String → Request → Except UsageError Request

/-- What a flag does: it changes the request, or it ends the reading with a command. -/
inductive Flag where
  | change (apply : Request → Except UsageError Request)
  | answer (command : Command)

namespace Request

/-- The request with the file that a word names. -/
def withFile (request : Request) (word : String) : Except UsageError Request :=
  if request.file.isSome then
    .error (.secondFile word)
  else if word.isEmpty then
    .error .emptyFile
  else
    .ok { request with file := some word }

/-- The request with the files that words name. -/
def withFiles (request : Request) (words : List String) : Except UsageError Request :=
  words.foldlM withFile request

/-- The option that adds a pair to the request. -/
def addingPair
    (option : String)
    (add : String × String → Request → Request) :
    ValueOption :=
  fun raw request =>
    match readPair? raw with
    | some pair => .ok (add pair request)
    | none => .error (.notAPair option raw)

/-- The option that limits the nesting of macros. -/
def limitingDepth : ValueOption :=
  fun raw request =>
    match request.maxDepth, Number.readNatural? 10 AttributeValue.countLimit raw.toList with
    | some _, _ => .error (.repeatedOption "max-depth")
    | none, some depth => .ok { request with maxDepth := some depth }
    | none, none => .error (.notADepth raw)

/-- The option that says which log records to show. -/
def filtering : ValueOption :=
  fun raw request =>
    if request.filter.isSome then
      .error (.repeatedOption "log")
    else
      .ok { request with filter := some raw }

/-- The flag that leaves out what is unknown. -/
def beingLenient (request : Request) : Except UsageError Request :=
  if request.lenient then
    .error (.repeatedOption "lenient")
  else
    .ok { request with lenient := true }

/-- The flag that asks for the names of the language. -/
def listing (request : Request) : Except UsageError Request :=
  if request.list then
    .error (.repeatedOption "list")
  else
    .ok { request with list := true }

end Request

/-- The options that have a value, by their names. -/
def valueOptions : List (String × ValueOption) :=
  [ ("arg",
      Request.addingPair "arg" fun pair request =>
        { request with arguments := pair :: request.arguments }),
    ("translation",
      Request.addingPair "translation" fun pair request =>
        { request with translations := pair :: request.translations }),
    ("action", fun name request => .ok { request with actions := request.actions ++ [name] }),
    ("max-depth", Request.limitingDepth),
    ("log", Request.filtering) ]

/-- The flags by their names. -/
def flags : List (String × Flag) :=
  [ ("lenient", .change Request.beingLenient),
    ("list", .change Request.listing),
    ("help", .answer .help),
    ("version", .answer .version) ]

/-- The commands by their letters. -/
def letters : List (Char × Command) :=
  [('h', .help), ('V', .version)]

/-- What kind of word stands on a command line. -/
inductive Word where
  /-- The two dashes after which every word is a file. -/
  | separator
  /-- An option by its name, with its value if there is an equals sign. -/
  | option (name : String) (value : Option String)
  /-- Options by letters. -/
  | letters (first : Char)
  /-- Anything else; a single dash is such a word. -/
  | plain
deriving Repr, DecidableEq

namespace Word

/-- The kind of a word. -/
def ofText (text : String) : Word :=
  match text.toList with
  | ['-', '-'] => separator
  | '-' :: '-' :: name =>
      option (String.ofList (name.takeWhile (· != '=')))
        ((name.dropWhile (· != '=')).tail?.map String.ofList)
  | '-' :: first :: _ => letters first
  | _ => plain

/-- Whether a word may be the value of the option before it. -/
def isPlain (text : String) : Bool :=
  ofText text = plain

end Word

namespace Command

/-- Reads the words of a command line that follow those already in the request. -/
def readWords : List String → Request → Except UsageError Command
  | [], request => .ok (.run request)
  | word :: rest, request =>
      match Word.ofText word with
      | .plain =>
          match request.withFile word with
          | .ok next => readWords rest next
          | .error error => .error error
      | .separator => (request.withFiles rest).map .run
      | .letters first =>
          match letters.lookup first with
          | some command => .ok command
          | none => .error (.unknownOption word)
      | .option name attached =>
          match flags.lookup name, valueOptions.lookup name, attached with
          | some _, _, some _ => .error (.unexpectedValue name)
          | some (.answer command), _, none => .ok command
          | some (.change apply), _, none =>
              match apply request with
              | .ok next => readWords rest next
              | .error error => .error error
          | none, some apply, some value =>
              match apply value request with
              | .ok next => readWords rest next
              | .error error => .error error
          | none, some apply, none =>
              match rest with
              | [] => .error (.missingValue name)
              | value :: after =>
                  if Word.isPlain value then
                    match apply value request with
                    | .ok next => readWords after next
                    | .error error => .error error
                  else
                    .error (.missingValue name)
          | none, none, _ => .error (.unknownOption word)

/-- Reads a command line. -/
def read (words : List String) : Except UsageError Command :=
  readWords words {}

end Command

end WidgetMarkup.CommandLine
