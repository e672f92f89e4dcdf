/-!
# The options of the command line

* `Flag` -- an option; `Flag.long` and `Flag.short?` are its names;
* `Scope` -- the program itself or one of its commands; `Scope.flags` are the options known there;
* `UsageError` -- why a command line is not understood, or only asks for a text to be shown.
-/

namespace Overseer

/-- An option. -/
inductive Flag where
  | logLevel
  | name
  | config
  | detach
  | restarts
  | interval
  | inheritOutput
  | env
  | help
  | version
  deriving DecidableEq, Repr

namespace Flag

/-- The long name, after two dashes. -/
def long : Flag → String
  | logLevel => "log-level"
  | name => "name"
  | config => "config"
  | detach => "detach"
  | restarts => "restarts"
  | interval => "interval-ms"
  | inheritOutput => "inherit-output"
  | env => "env"
  | help => "help"
  | version => "version"

/-- The short name, after one dash. -/
def short? : Flag → Option Char
  | name => some 'n'
  | config => some 'c'
  | detach => some 'd'
  | restarts => some 'r'
  | interval => some 'i'
  | env => some 'e'
  | help => some 'h'
  | version => some 'V'
  | logLevel | inheritOutput => none

/-- Whether an option takes a value. -/
def takesValue : Flag → Bool
  | detach | inheritOutput | help | version => false
  | _ => true

/-- Whether the value may be a negative number that stands apart. -/
def takesNegative (f : Flag) : Bool := f = restarts

end Flag

/-- The program itself, or one of its commands. -/
inductive Scope where
  | program
  | run
  | check
  deriving DecidableEq, Repr

namespace Scope

/-- The options that are known. -/
def flags : Scope → List Flag
  | program => [.logLevel, .help, .version]
  | run =>
    [.name, .config, .detach, .restarts, .interval, .inheritOutput, .env, .logLevel, .help]
  | check => [.logLevel, .help]

/-- The option with a long name. -/
def long? (scope : Scope) (name : String) : Option Flag :=
  scope.flags.find? (·.long == name)

/-- The option with a short name. -/
def short? (scope : Scope) (name : Char) : Option Flag :=
  scope.flags.find? (·.short? == some name)

/-- The command with a name. -/
def command? (name : String) : Option Scope :=
  if name = "run" then some run else if name = "check" then some check else none

end Scope

/-- Why a command line is not understood, or only asks for a text to be shown. -/
inductive UsageError where
  | unknownArgument
  /-- A value is absent, or an empty one is given where it must not be empty. -/
  | invalidValue
  /-- A value is not of the kind that is needed. -/
  | malformedValue
  /-- An option is given twice, or with another one that it excludes. -/
  | conflict
  /-- A value is given to an option that takes none. -/
  | unneededValue
  | unknownCommand
  /-- A required argument is absent. -/
  | missingArgument
  /-- No command is given. -/
  | missingCommand
  /-- Nothing at all is given, so that the help is shown. -/
  | nothingGiven
  | helpRequested
  | versionRequested
  deriving DecidableEq, Repr

/-- The exit code: texts that were asked for are no failure. -/
def UsageError.exitCode : UsageError → UInt8
  | helpRequested | versionRequested => 0
  | _ => 2

/-- What is said about a command line that is not understood. -/
def UsageError.message : UsageError → String
  | unknownArgument => "unexpected argument"
  | invalidValue => "a value is missing or empty"
  | malformedValue => "a value is not of the kind that is needed"
  | conflict => "arguments exclude each other"
  | unneededValue => "a value is given to an option that takes none"
  | unknownCommand => "unknown command"
  | missingArgument => "a required argument is missing"
  | missingCommand | nothingGiven => "a command is needed"
  | helpRequested | versionRequested => ""

end Overseer
