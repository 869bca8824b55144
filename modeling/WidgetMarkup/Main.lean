import WidgetMarkup.CommandLine.Outcome

namespace WidgetMarkup.CommandLine

/-!
# The program

Reads the files that a command line asks for, one after another, and prints its outcome.
-/

/-- The number under which the system knows an error; some are reported counted from the top. -/
def systemNumber (code : UInt32) : Nat :=
  if code < 0x80000000 then code.toNat else (0 - code).toNat

/-- Why reading failed, given the error. -/
def failureOf : IO.Error → ReadFailure
  | .noFileOrDirectory .. => .missing
  | .inappropriateType _ code details => ofNumber code details
  | .invalidArgument _ code details => ofNumber code details
  | .permissionDenied _ code details => ofNumber code details
  | error => .other (toString error)
where
  ofNumber (code : UInt32) (details : String) : ReadFailure :=
    (ReadFailure.ofNumber? (systemNumber code)).getD
      (.other (details ++ " (os error " ++ toString (systemNumber code) ++ ")"))

/-- Reads a file as text. -/
def readFile (path : String) : IO (Except ReadFailure String) := do
  try
    let bytes ← IO.FS.readBinFile path
    match String.fromUTF8? bytes with
    | some text => return .ok text
    | none => return .error .notText
  catch error =>
    return .error (failureOf error)

/-- Works on a command line until it has its outcome. -/
partial def carryOut
    (fallback : Option String)
    (words : List String)
    (files : List (String × Except ReadFailure String)) :
    IO Outcome := do
  match step fallback words fun path => files.lookup path with
  | .finished outcome => return outcome
  | .needsFile path => do
      let contents ← readFile path
      carryOut fallback words ((path, contents) :: files)

end WidgetMarkup.CommandLine

/-- Carries out a command line and prints its outcome. -/
def main (words : List String) : IO UInt32 := do
  let fallback ← IO.getEnv "RUST_LOG"
  let outcome ← WidgetMarkup.CommandLine.carryOut fallback words []
  IO.eprint outcome.warnings
  for entry in outcome.records do
    IO.eprintln ("[" ++ entry.level.name ++ "] " ++ entry.text)
  IO.print outcome.output
  IO.eprint outcome.complaint
  return outcome.code.toUInt32
