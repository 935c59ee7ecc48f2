import ParenTokens.Settings

namespace ParenTokens.Command

/-!
# Options and manual pages

* `Subcommand`, `Flag`: what can be asked for, and the options of each.
* `Page`: the manual page of the program or of one of its subcommands.
* `UsageError`, `UsageError.message`: what is wrong with arguments.
* `Page.usage`, `Page.help`, `Page.complain`: the texts.
-/

/-- What the program can be asked for. -/
inductive Subcommand
  | init
  | tokenize
  | check
deriving DecidableEq, Repr

namespace Subcommand

def all : List Subcommand := [init, tokenize, check]

def name : Subcommand → Text
  | init => "init"
  | tokenize => "tokenize"
  | check => "check"

def ofName? (t : Text) : Option Subcommand := all.find? fun c => c.name == t

end Subcommand

/-- Options. -/
inductive Flag
  | help
  | format
  | plain
  | config
deriving DecidableEq, Repr

namespace Flag

/-- The names of an option, as errors give them. -/
def title : Flag → Text
  | help => "-h/--help"
  | format => "--format"
  | plain => "--no-color"
  | config => "--config"

/-- Whether an option needs an argument. -/
def takesArgument : Flag → Bool
  | format | config => true
  | help | plain => false

end Flag

/-- The program itself (`none`) or a subcommand: each has options and a manual page of its own. -/
abbrev Page := Option Subcommand

/-- What is wrong with arguments. -/
inductive UsageError
  | ambiguous (argument : Text) (candidates : List Text)
  | ignoredArgument (flag : Flag) (value : Text)
  | missingArgument (flag : Flag)
  | unknownFormat (value : Text)
  | unknownSubcommand (value : Text)
  | missingFiles
  | unrecognized (arguments : List Text)
deriving DecidableEq, Repr

/-- A value that is none of some choices. -/
def choiceMessage (value : Text) (choices : List Text) : Text :=
  ("invalid choice: " : Text) ++ Quoted.quote value ++ (" (choose from " : Text) ++
    Text.join ", " (choices.map Quoted.quote) ++ (")" : Text)

/-- A message about an argument of some title. -/
def argumentMessage (title message : Text) : Text := ("argument " : Text) ++ title ++ (": " : Text) ++ message

def UsageError.message : UsageError → Text
  | ambiguous argument candidates =>
    ("ambiguous option: " : Text) ++ argument ++ (" could match " : Text) ++ Text.join ", " candidates
  | ignoredArgument flag value =>
    argumentMessage flag.title (("ignored explicit argument " : Text) ++ Quoted.quote value)
  | missingArgument flag => argumentMessage flag.title "expected one argument"
  | unknownFormat value =>
    argumentMessage Flag.format.title (choiceMessage value (OutputFormat.all.map OutputFormat.name))
  | unknownSubcommand value =>
    argumentMessage "COMMAND" (choiceMessage value (Subcommand.all.map Subcommand.name))
  | missingFiles => "the following arguments are required: files"
  | unrecognized arguments => ("unrecognized arguments: " : Text) ++ Text.join " " arguments

namespace Page

def programName : Text := "parenlex"

/-- The name that errors start with. -/
def title : Page → Text
  | none => programName
  | some c => programName ++ (" " : Text) ++ c.name

/-- The names of the options, in order. -/
def options : Page → List (Text × Flag)
  | none | some .init => [("-h", .help), ("--help", .help)]
  | some .tokenize =>
    [("-h", .help), ("--help", .help), ("--format", .format), ("--no-color", .plain), ("--config", .config)]
  | some .check => [("-h", .help), ("--help", .help), ("--no-color", .plain), ("--config", .config)]

/-- Lines, each with its end. -/
def ofLines (lines : List String) : Text := lines.flatMap fun line => Text.ofString line ++ [Text.newline]

def usageLines : Page → List String
  | none => ["usage: parenlex [-h] COMMAND ..."]
  | some .init => ["usage: parenlex init [-h] [directory]"]
  | some .tokenize =>
    ["usage: parenlex tokenize [-h] [--format \x7btext,json\x7d] [--no-color]",
      "                         [--config CONFIG]",
      "                         [file]"]
  | some .check => ["usage: parenlex check [-h] [--no-color] [--config CONFIG] files [files ...]"]

def helpLines : Page → List String
  | none =>
    ["parenlex - tokenizer for parenthesized expressions",
      "",
      "positional arguments:",
      "  COMMAND",
      "    init      Write a default configuration file",
      "    tokenize  Print the tokens of an input",
      "    check     Check that files lex without errors",
      "",
      "options:",
      "  -h, --help  show this help message and exit"]
  | some .init =>
    ["Create a default .parenlex.yaml in a directory.",
      "",
      "positional arguments:",
      "  directory   Directory to write the configuration to (default: current",
      "              directory)",
      "",
      "options:",
      "  -h, --help  show this help message and exit"]
  | some .tokenize =>
    ["Lex a file or standard input and print its tokens.",
      "",
      "positional arguments:",
      "  file                  File to tokenize, or '-' for standard input (default:",
      "                        standard input)",
      "",
      "options:",
      "  -h, --help            show this help message and exit",
      "  --format \x7btext,json\x7d  Output format (default: from configuration, else text)",
      "  --no-color            Disable colored text output",
      "  --config CONFIG       Configuration file (default: .parenlex.yaml in the",
      "                        current directory)"]
  | some .check =>
    ["Lex each file and report the first error found in it.",
      "",
      "positional arguments:",
      "  files            Files to check",
      "",
      "options:",
      "  -h, --help       show this help message and exit",
      "  --no-color       Disable colored error output",
      "  --config CONFIG  Configuration file (default: .parenlex.yaml in the current",
      "                   directory)"]

def usage (p : Page) : Text := ofLines p.usageLines

def help (p : Page) : Text := ofLines (p.usageLines ++ [""] ++ p.helpLines)

/-- The usage and the message of an error. -/
def complain (p : Page) (e : UsageError) : Text :=
  p.usage ++ p.title ++ (": error: " : Text) ++ e.message ++ [Text.newline]

end Page

end ParenTokens.Command
