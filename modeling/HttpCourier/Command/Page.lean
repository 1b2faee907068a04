import HttpCourier.Command.Grammar

/-!
# HttpCourier.Command.Page

**The program's commands, and the pages that explain them.** Options in front of the command
belong to the program as a whole; what stands behind it belongs to the command.
-/

namespace HttpCourier.Command

/-- The name of the program. -/
def programName : Text := "cli"

/-- The version of the program. -/
def version : Text := "0.1.0"

/-- A command. -/
inductive Verb where
  | run
  | validate
  deriving DecidableEq, Repr

namespace Verb

/-- The commands, in the order in which they are listed. -/
def all : List Verb := [run, validate]

/-- The name of a command. -/
def name : Verb → String
  | run => "run"
  | validate => "validate"

/-- The command of a name. -/
def ofName? (t : Text) : Option Verb := all.find? fun v => Text.ofString v.name = t

end Verb

/-- Where on the command line something is wrong. -/
inductive Level where
  | program
  | verb (v : Verb)
  deriving DecidableEq, Repr

namespace Level

/-- The words that lead to a level. -/
def path : Level → Text
  | program => programName
  | verb v => programName ++ " " ++ v.name

/-- What may follow those words. -/
def pattern : Level → Text
  | program => "[OPTIONS] COMMAND [ARGS]..."
  | verb _ => "[OPTIONS] CONFIG"

/-- The line that says how a level is used. -/
def usage (l : Level) : Text := "Usage: " ++ l.path ++ " " ++ l.pattern ++ "\n"

/-- What a level is for, and what its options are. -/
def explanation : Level → Text
  | program => Text.join "\n"
      ["",
       "  Configuration-driven HTTP request executor.",
       "",
       "Options:",
       "  --version                    Show the version and exit.",
       "  -v, --verbose                Log at debug level.",
       "  --log-format [json|console]  Log output format.  [default: console]",
       "  --help                       Show this message and exit.",
       "",
       "Commands:",
       "  run       Execute CONFIG and print a JSON summary of the result.",
       "  validate  Validate CONFIG (a JSON file, or - for stdin) without sending it.",
       ""]
  | verb .run => Text.join "\n"
      ["",
       "  Execute CONFIG and print a JSON summary of the result.",
       "",
       "Options:",
       "  --cancel-after FLOAT            Cancel the call after this many seconds.",
       "  --include-body / --no-include-body",
       "                                  Include the decoded response body in the",
       "                                  output.  [default: include-body]",
       "  --help                          Show this message and exit.",
       ""]
  | verb .validate => Text.join "\n"
      ["",
       "  Validate CONFIG (a JSON file, or - for stdin) without sending it.",
       "",
       "Options:",
       "  --help  Show this message and exit.",
       ""]

/-- The page that explains a level. -/
def helpPage (l : Level) : Text := l.usage ++ l.explanation

/-- The page that reports a fault at a level. -/
def faultPage (l : Level) (f : UsageFault) : Text :=
  l.usage ++ "Try '" ++ l.path ++ " --help' for help.\n\nError: " ++ f.message ++ "\n"

end Level

/-- The page that tells the version. -/
def versionPage : Text := programName ++ ", version " ++ version ++ "\n"

/-! ### Options -/

/-- The options of the program as a whole. -/
inductive ProgramKey where
  | version
  | verbose
  | logFormat
  | help
  deriving DecidableEq, Repr

/-- How the options of the program are spelled. -/
def programGrammar : Grammar ProgramKey :=
  ⟨[⟨.version, none, "--version", false⟩, ⟨.verbose, some 'v', "--verbose", false⟩,
    ⟨.logFormat, none, "--log-format", true⟩, ⟨.help, none, "--help", false⟩], false⟩

/-- The options of the commands. -/
inductive VerbKey where
  | cancelAfter
  | includeBody
  | omitBody
  | help
  deriving DecidableEq, Repr

/-- How the options of a command are spelled. -/
def Verb.grammar : Verb → Grammar VerbKey
  | run =>
    ⟨[⟨.cancelAfter, none, "--cancel-after", true⟩, ⟨.includeBody, none, "--include-body", false⟩,
      ⟨.omitBody, none, "--no-include-body", false⟩, ⟨.help, none, "--help", false⟩], true⟩
  | validate => ⟨[⟨.help, none, "--help", false⟩], true⟩

/-- The name of the argument that commands take. -/
def argumentName : Text := "CONFIG"

end HttpCourier.Command
