import Statbook.CommandLine.Settings
import Statbook.CommandLine.Run

/-!
# What is told besides answers

The help, the version, and how errors are told to whoever typed the command.
-/

namespace Statbook.CommandLine

/-- The name of the program. -/
def programName : String := "mstat"

/-- The version of the program. -/
def versionText : String := line (programName ++ " 0.1.0")

/-- What a command does. -/
def Verb.summary : Verb → String
  | names => "List statistic names in declaration order"
  | get => "Evaluate one statistic, using the cache when configured"
  | fresh => "Evaluate one statistic, bypassing and refreshing the cache"
  | all => "Evaluate every statistic of the model"
  | sql => "Print the SQL selecting the rows behind a statistic"
  | rows => "Print the rows behind a statistic"

/-- The help. -/
def helpText : String :=
  String.join <|
    [line ("Usage: " ++ programName ++ " [OPTIONS] [COMMAND]"), line "", line "Commands:"] ++
    (Verb.verbs.map fun verb => line ("  " ++ verb.word ++ ": " ++ verb.summary)) ++
    [line "", line "Options:"] ++
    (Setting.settings.map fun setting => line ("  --" ++ setting.longName ++
      if setting.takesValue then " <VALUE>" else ""))

/-- An error in the use of the command line as it is told. -/
def UsageError.text : UsageError → String
  | helpWanted => helpText
  | versionWanted => versionText
  | unknownArgument => line "error: unexpected argument found"
  | unknownCommand => line "error: unrecognized subcommand"
  | missingValue => line "error: a value is required but none was supplied"
  | unreadableValue => line "error: invalid value"
  | surplusValue => line "error: unexpected value for an option that takes none"
  | repeated => line "error: an option cannot be used multiple times"
  | missingName => line "error: the name of a statistic was not provided"

/-- Whether a text was asked for rather than a command got wrong. -/
def UsageError.isRequest : UsageError → Bool
  | helpWanted | versionWanted => true
  | _ => false

/-- Causes with their numbers in front. -/
def numberedCauses (causes : List String) : List String :=
  causes.mapIdx fun index cause => line ("    " ++ toString index ++ ": " ++ cause)

/-- An error of a command with its causes as it is told. -/
def RunError.report (error : RunError) : String :=
  match error.chain with
  | [] => ""
  | [problem] => line ("Error: " ++ problem)
  | [problem, cause] =>
    line ("Error: " ++ problem) ++ line "" ++ line "Caused by:" ++ line ("    " ++ cause)
  | problem :: causes =>
    String.join (line ("Error: " ++ problem) :: line "" :: line "Caused by:" ::
      numberedCauses causes)

end Statbook.CommandLine
