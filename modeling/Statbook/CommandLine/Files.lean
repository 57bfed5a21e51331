import Statbook.Text.Pieces
import Statbook.Sqlite.Connection
import Statbook.Sqlite.Image

/-!
# Files

What a command line finds under the paths that it refers to: texts and databases. A database
that is not there yet comes into being, empty, when it is opened.
-/

namespace Statbook.CommandLine

/-- What a path leads to. -/
inductive FileContent where
  | text (text : String)
  /-- A file that is no text: a database, or what is wrong with it as one. -/
  | database (database : Except Sqlite.Fault Sqlite.Database)
  | directory

/-- Why a path leads nowhere. -/
inductive PathFault where
  /-- The directory is there, but not the file. -/
  | missing
  | missingDirectory
  /-- It goes through a file. -/
  | throughFile
  deriving DecidableEq, Repr

/-- What each path leads to. -/
abbrev Files := String → Except PathFault FileContent

/-- The content of a file with these bytes. -/
def FileContent.ofBytes (bytes : ByteArray) : FileContent :=
  match String.fromUTF8? bytes with
  | some content => .text content
  | none => .database (Sqlite.Image.read bytes)

namespace Files

/-- The names on a path, without the empty ones and those that stay where they are. -/
def steps (path : String) : List String :=
  (Text.splitAt '/' path).filter fun step => step ≠ "" && step ≠ "."

/-- The files of a working directory, apart from which there are none. -/
def ofDirectory (entries : List (String × FileContent)) : Files := fun path =>
  match steps path with
  | [] => .ok .directory
  | name :: rest =>
    if path.startsWith "/" then .error .missingDirectory
    else match entries.lookup name, rest with
      | none, [] => .error .missing
      | none, _ => .error .missingDirectory
      | some content, [] => .ok content
      | some _, _ => .error .throughFile

/-- What is said of a path that leads nowhere. -/
def cause : PathFault → String
  | .missing | .missingDirectory => "No such file or directory (os error 2)"
  | .throughFile => "Not a directory (os error 20)"

/-- The text of a file, or why it has none. -/
def readText (files : Files) (path : String) : Except String String :=
  match files path with
  | .ok (.text text) => .ok text
  | .ok (.database _) => .error "stream did not contain valid UTF-8"
  | .ok .directory => .error "Is a directory (os error 21)"
  | .error fault => .error (cause fault)

/-- Whether a path leads somewhere. -/
def holds (files : Files) (path : String) : Bool :=
  (files path).isOk

/-- The path that stands for a database outside of every file. -/
def memoryPath : String := ":memory:"

/-- The fault of a file that is not to be opened as a database. -/
def cannotOpen (path : String) : Sqlite.Fault :=
  .result 14 ("unable to open database file: " ++ path)

/-- A connection to the database in a file. Whether it is a database at all comes out only
when it is used. -/
def openDatabase (files : Files) (path : String) : Except Sqlite.Fault Sqlite.Connection :=
  if path = memoryPath then .ok (.ofDatabase (.ok .empty))
  else match files path with
    | .ok (.database database) => .ok (.ofDatabase database)
    | .ok (.text text) => .ok (.ofDatabase (Sqlite.Image.read text.toUTF8))
    | .error .missing => .ok (.ofDatabase (.ok .empty))
    | _ => .error (cannotOpen path)

end Files

end Statbook.CommandLine
