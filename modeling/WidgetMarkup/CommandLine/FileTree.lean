import WidgetMarkup.Text.Blank

namespace WidgetMarkup.CommandLine

/-!
# Files held in memory

A directory tree given by its files, each with its place and its text. A path is read part by part
from the top, if it begins with a slash, and else from the directory that is worked in; blank parts
and single dots stay where they are, and two dots go up. A path and each name in it have a greatest
length, counted in bytes.
-/

/-- Why a file cannot be read. -/
inductive ReadFailure where
  | missing
  | directory
  | notADirectory
  | nameTooLong
  | notText
  | other (reason : String)
deriving Repr, DecidableEq

namespace ReadFailure

/-- The message of a failure. -/
def message : ReadFailure → String
  | missing => "No such file or directory (os error 2)"
  | directory => "Is a directory (os error 21)"
  | notADirectory => "Not a directory (os error 20)"
  | nameTooLong => "File name too long (os error 36)"
  | notText => "stream did not contain valid UTF-8"
  | other reason => reason

/-- The failure that a system reports by its number. -/
def ofNumber? : Nat → Option ReadFailure
  | 2 => some missing
  | 20 => some notADirectory
  | 21 => some directory
  | 36 => some nameTooLong
  | _ => none

end ReadFailure

namespace Pathname

/-- The number of bytes that a path must stay below. -/
def lengthLimit : Nat := 4096

/-- The greatest number of bytes of a name. -/
def nameLengthLimit : Nat := 255

/-- Whether a part of a path leaves the place as it is. -/
def isIdle (part : String) : Bool :=
  part.isEmpty || part == "."

/-- Whether a path starts from the top. -/
def isAbsolute (path : String) : Bool :=
  path.toList.head? = some '/'

/-- The path of the directory in which a path names a file, without idle parts at its end. -/
def directoryOf (path : String) : String :=
  match (Text.split '/' path).dropLast with
  | [] => ""
  | first :: rest =>
      match first :: (rest.reverse.dropWhile isIdle).reverse with
      | [""] => "/"
      | parts => Text.join "/" parts

/-- A path that starts from a directory, unless it starts from the top. -/
def within (directory path : String) : String :=
  if isAbsolute path || directory.isEmpty then
    path
  else if directory.toList.getLast? = some '/' then
    directory ++ path
  else
    directory ++ "/" ++ path

/-- A path from the directory of a file. -/
def besideFile (file path : String) : String :=
  within (directoryOf file) path

end Pathname

/-- The files of a system, each under the names that lead to it from the top. -/
structure FileTree where
  files : List (List String × String) := []
  /-- The directories that are there even without a file in them. -/
  directories : List (List String) := []
  /-- The place of the directory that is worked in. -/
  workplace : List String := []
deriving Repr, DecidableEq, Inhabited

namespace FileTree

/-- The directories at the top of every system. -/
def topDirectories : List String :=
  ["bin", "dev", "etc", "home", "lib", "opt", "proc", "root", "run", "sbin", "sys", "tmp", "usr",
    "var"]

/--
The tree with files in the directory that is worked in, a fresh one that no path can name. Of other
files only the empty one that every system has is there.
-/
def ofPaths (files : List (String × String)) : FileTree :=
  let workplace := ["tmp", ""]
  let inside (path : String) : List String :=
    workplace ++ (Text.split '/' path).filter fun part => !Pathname.isIdle part
  { files := (["dev", "null"], "") :: files.map fun file => (inside file.1, file.2)
    directories := workplace :: topDirectories.map fun name => [name]
    workplace }

/-- Whether a place is a directory: the top, a place above some file, or one that is listed. -/
def isDirectory (tree : FileTree) (place : List String) : Bool :=
  place.isEmpty || tree.directories.contains place ||
    tree.files.any fun file =>
      place.length < file.1.length && file.1.take place.length == place

/-- Reads a file by the parts of a path that starts from a directory. -/
def readParts (tree : FileTree) (place : List String) :
    List String →
    Except ReadFailure String
  | [] => .error .directory
  | part :: rest =>
      if Pathname.isIdle part then
        tree.readParts place rest
      else if part == ".." then
        tree.readParts place.dropLast rest
      else if Pathname.nameLengthLimit < part.utf8ByteSize then
        .error .nameTooLong
      else
        match tree.files.lookup (place ++ [part]) with
        | some content => if rest.isEmpty then .ok content else .error .notADirectory
        | none =>
            if tree.isDirectory (place ++ [part]) then
              tree.readParts (place ++ [part]) rest
            else
              .error .missing

/-- Reads a file by its path. -/
def read (tree : FileTree) (path : String) : Except ReadFailure String :=
  if path.isEmpty then
    .error .missing
  else if Pathname.lengthLimit ≤ path.utf8ByteSize then
    .error .nameTooLong
  else
    tree.readParts (if Pathname.isAbsolute path then [] else tree.workplace) (Text.split '/' path)

end FileTree

end WidgetMarkup.CommandLine
