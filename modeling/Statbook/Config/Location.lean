import Statbook.Retry.Settings

/-!
# Where a configuration is looked for

A variable names the file; without it the file lies in the directory for configurations of
the user, which is below the home directory unless another one is set.
-/

namespace Statbook.Config

/-- The variable that names the file. -/
def fileVariable : String := "MSTAT_CONFIG"

/-- The variable that sets the directory for configurations of the user. -/
def directoryVariable : String := "XDG_CONFIG_HOME"

/-- The variable that sets the home directory of the user. -/
def homeVariable : String := "HOME"

/-- A path below a directory. -/
def below (directory path : String) : String :=
  if directory.endsWith "/" then directory ++ path else directory ++ "/" ++ path

/-- The value of a variable that is set to something. -/
def filled? (environment : Variables) (name : String) : Option String :=
  (environment.lookup name).filter (· ≠ "")

/-- The directory for configurations of the user. One that is set counts only if it is an
absolute path. -/
def directory? (environment : Variables) : Option String :=
  match (environment.lookup directoryVariable).filter fun path => path.startsWith "/" with
  | some path => some path
  | none => (filled? environment homeVariable).map fun home => below home ".config"

/-- The file of the configuration. -/
def path? (environment : Variables) : Option String :=
  match filled? environment fileVariable with
  | some path => some path
  | none => (directory? environment).map fun directory =>
    below (below directory "mstat") "stats.toml"

end Statbook.Config
