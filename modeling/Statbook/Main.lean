import Std.Time.Zoned
import Statbook.CommandLine.Help
import Statbook.CommandLine.Reader
import Statbook.CommandLine.Run

/-!
# The program

The command line on the files, the environment and the clock of the machine.
-/

namespace Statbook.CommandLine

/-- The variables that the program looks at. -/
def variableNames : List String :=
  [Given.databaseVariable, Config.fileVariable, Config.directoryVariable, Config.homeVariable,
    RetrySettings.attemptsVariable, RetrySettings.baseVariable, RetrySettings.maxVariable]

/-- The variables that are set. -/
def environment : IO Variables := do
  let found ← variableNames.mapM fun name => do
    pure ((← IO.getEnv name).map fun value => (name, value))
  pure (found.filterMap id)

/-- The code of the error that a directory is read as a file. -/
def directoryCode : UInt32 := 21

/-- What a path leads to, if anything is there. -/
def contentAt (path : String) : IO (Except PathFault FileContent) := do
  try
    pure (.ok (.ofBytes (← IO.FS.readBinFile path)))
  catch error =>
    match error with
    | .inappropriateType _ code _ =>
      pure (if code = directoryCode then .ok .directory else .error .throughFile)
    | _ => pure (.error .missingDirectory)

/-- The directory that a path stands in. -/
def parentOf (path : String) : String :=
  match (Text.splitAt '/' path).dropLast with
  | [] => "."
  | [""] => "/"
  | steps => Text.joinWith "/" steps

/-- What a path leads to; a file that is not there may still have a directory. -/
def fileAt (path : String) : IO (Except PathFault FileContent) := do
  match ← contentAt path with
  | .error .missingDirectory =>
    match ← contentAt (parentOf path) with
    | .ok .directory => pure (.error .missing)
    | _ => pure (.error .missingDirectory)
  | content => pure content

/-- The files under some paths. -/
def filesAt (paths : List String) : IO Files := do
  let found ← paths.mapM fun path => do pure (path, ← fileAt path)
  pure fun path => (found.lookup path).getD (.error .missingDirectory)

/-- The time on the wall. -/
def present : IO Timestamp := do
  let now ← Std.Time.PlainDateTime.now
  let date := Date.of? now.date.year.toInt now.date.month.val.toNat now.date.day.val.toNat
  let time := ClockTime.ofFace? now.time.hour.val.toNat now.time.minute.val.toNat
    now.time.second.val.toNat now.time.nanosecond.val.toNat
  match date, time with
  | some date, some time => pure ⟨date, time⟩
  | _, _ => throw (IO.userError "the clock is outside the supported calendar")

/-- Carries out the command line, and gives the status to leave with. -/
def program (arguments : List String) : IO UInt32 := do
  let env ← environment
  match read env arguments with
  | .error error =>
    if error.isRequest then
      IO.print error.text
      pure 0
    else
      IO.eprint error.text
      pure 2
  | .ok invocation =>
    let paths := invocation.database.toList ++ invocation.config.toList ++
      (Config.path? env).toList
    match invocation.run ⟨env, ← filesAt paths, ← present⟩ with
    | .ok written =>
      IO.print written
      pure 0
    | .error error =>
      IO.eprint error.report
      pure 1

end Statbook.CommandLine

/-- The program. -/
def main (arguments : List String) : IO UInt32 :=
  Statbook.CommandLine.program arguments
