import Statbook.CommandLine.Settings

/-!
# Reading the command line

The arguments are read from left to right, first at the level of the program and, from the
word for a command on, at the level of that command. An option waits for its value; it is
settled when the next option or name is taken, or at the end. An argument with a dash in front
is never the value of an option before it, and after two dashes alone nothing is an option.
-/

namespace Statbook.CommandLine

/-- An option that was taken, and its value if that has been taken too. -/
abbrev Waiting := Setting × Option String

/-- What was given at a level so far. -/
structure Progress where
  given : Given
  waiting : Option Waiting

namespace Progress

/-- Nothing was given yet. -/
def start : Progress :=
  ⟨.nothing, none⟩

/-- What was given, with the waiting option. -/
def settle (p : Progress) : Except UsageError Given :=
  match p.waiting with
  | none => .ok p.given
  | some (_, none) => .error .missingValue
  | some (setting, some value) => p.given.add setting value

/-- Takes an option together with its value. -/
def give (p : Progress) (setting : Setting) (value : String) : Except UsageError Progress := do
  let given ← (← p.settle).add setting value
  pure ⟨given, none⟩

/-- Takes an option whose value may follow. -/
def await (p : Progress) (setting : Setting) : Except UsageError Progress := do
  let given ← p.settle
  pure ⟨given, some (setting, none)⟩

/-- Takes an option, with the value that is attached to it if there is one. -/
def takeOption (p : Progress) (setting : Setting) (attached : Option String) :
    Except UsageError Progress :=
  match attached with
  | some value => if setting.takesValue then p.give setting value else .error .surplusValue
  | none => if setting.takesValue then p.await setting else p.give setting ""

/-- Whether an option waits for its value. -/
def awaitsValue (p : Progress) : Bool :=
  p.waiting.any fun (_, value) => value.isNone

/-- Takes an argument as the value of the waiting option. -/
def takeValue (p : Progress) (value : String) : Progress :=
  { p with waiting := p.waiting.map fun (setting, _) => (setting, some value) }

/-- Takes an argument that is no option and no value of one: the name of a statistic, where
one is needed and none is there yet. -/
def takeWord (level : Level) (p : Progress) (word : String) (afterDashes : Bool) :
    Except UsageError Progress :=
  match level with
  | none =>
    if afterDashes && (word = "help" || (Verb.ofWord? word).isSome) then .error .unknownArgument
    else .error .unknownCommand
  | some verb =>
    if verb.takesName && p.given.name.isNone then do
      let given ← p.settle
      pure ⟨{ given with name := some word }, none⟩
    else .error .unknownArgument

/-- Takes options by their letters; what follows the letter of an option with a value is that
value, after a sign of equality if there is one. -/
def takeLetters (level : Level) : Progress → List Char → Except UsageError Progress
  | p, [] => .ok p
  | p, letter :: rest =>
    match Setting.ofLetter? level letter with
    | none => .error .unknownArgument
    | some setting =>
      if setting.takesValue then
        match rest with
        | [] => p.await setting
        | '=' :: value => p.give setting (String.ofList value)
        | value => p.give setting (String.ofList value)
      else do
        let p ← p.give setting ""
        takeLetters level p rest

/-- Takes an option by its long name, with the value after the first sign of equality. -/
def takeLong (level : Level) (p : Progress) (text : List Char) : Except UsageError Progress :=
  let (name, attached) := match Text.splitFirst '=' text with
    | some (name, value) => (name, some (String.ofList value))
    | none => (text, none)
  match Setting.ofLongName? level (String.ofList name) with
  | some setting => p.takeOption setting attached
  | none => .error .unknownArgument

end Progress

/-- What the word `help` is about: a command, itself, or nothing. -/
def helpOn : List String → UsageError
  | [] => .helpWanted
  | [word] =>
    if word = "help" || (Verb.ofWord? word).isSome then .helpWanted else .unknownCommand
  | _ => .unknownCommand

/-- Reads the arguments of a level. It ends at the word for a command, with the verb and the
arguments after it. -/
def readLevel (level : Level) : (afterDashes : Bool) → Progress → List String →
    Except UsageError (Progress × Option (Verb × List String))
  | _, p, [] => .ok (p, none)
  | true, p, word :: rest => do
    let p ← p.takeWord level word true
    readLevel level true p rest
  | false, p, word :: rest =>
    if level.isNone && !p.awaitsValue && word = "help" then .error (helpOn rest)
    else
      match (Verb.ofWord? word).filter fun _ => level.isNone && !p.awaitsValue with
      | some verb => .ok (p, some (verb, rest))
      | none =>
        match word.toList with
        | ['-', '-'] => readLevel level true p rest
        | '-' :: '-' :: text => do
          let p ← p.takeLong level text
          readLevel level false p rest
        | '-' :: c :: letters => do
          let p ← p.takeLetters level (c :: letters)
          readLevel level false p rest
        | _ =>
          if p.awaitsValue then readLevel level false (p.takeValue word) rest
          else do
            let p ← p.takeWord level word false
            readLevel level false p rest

/-- Reads a whole level, on which no command follows. -/
def finish (environment : Variables) (p : Progress) : Except UsageError Given := do
  let given ← p.settle
  given.withVariables environment

/-- What is given for an option: after the command, or else before it. -/
def inner {α : Type} (after before : Option α) : Option α :=
  after.or before

/-- Reads the arguments. What is given after the command counts before what is given in front
of it, and both before the environment. -/
def read (environment : Variables) (arguments : List String) : Except UsageError Invocation := do
  let (outer, rest) ← readLevel none false .start arguments
  match rest with
  | none =>
    let g ← finish environment outer
    pure ⟨g.database, g.config, g.model, g.json, none⟩
  | some (verb, rest) =>
    let (after, _) ← readLevel (some verb) false .start rest
    let typed ← after.settle
    let command ← (← typed.withVariables environment).command verb
    let before ← outer.settle
    let outside ← before.withVariables environment
    pure ⟨(inner typed.database before.database).or outside.database,
      inner typed.config before.config, inner typed.model before.model,
      typed.json || before.json, some command⟩

end Statbook.CommandLine
