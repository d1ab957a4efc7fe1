import CellMachine.CommandLine
import CellMachine.Console

set_option relaxedAutoImplicit false
set_option autoImplicit false

/-!
# Help pages

What is printed when help is asked for. A page says what a command is for and how it is written,
and then lists in sections what can stand on the command line. The entries of a section have
their explanations in one column. With colour, headings are bold and underlined, and what is
typed as it stands is bold.

## Main definitions

* `CellMachine.HelpPage` — the contents of a page.
* `CellMachine.HelpPage.text` — a page as it is printed.
* `CellMachine.HelpTopic.page` — the page on each topic.
-/

namespace CellMachine

/-! ## The contents of a page -/

/-- A part of what can stand on the command line. -/
inductive HelpTerm where
  /-- Something that is typed as it stands. -/
  | literal (text : String)
  /-- Something that stands for other text, or that sets parts off from each other. -/
  | plain (text : String)
  deriving DecidableEq

/-- What can stand on the command line, and what it is for. -/
structure HelpEntry where
  /-- What can stand there. -/
  terms : List HelpTerm
  /-- What it is for. -/
  about : String
  deriving DecidableEq

/-- Entries under one heading. -/
structure HelpSection where
  /-- The heading. -/
  heading : String
  /-- The entries. -/
  entries : List HelpEntry
  deriving DecidableEq

/-- The contents of a help page. -/
structure HelpPage where
  /-- What the command is for. -/
  about : String
  /-- The words of the command. -/
  command : String
  /-- What can follow them. -/
  arguments : String
  /-- What there is to know about its arguments. -/
  sections : List HelpSection
  deriving DecidableEq

/-! ## The text of a page -/

/-- A text in bold. -/
def Console.showLiteral (c : Console) (cs : List Char) : List Char :=
  if c.colour then Style.bold.start ++ cs ++ Style.stop else cs

/-- A heading, bold and underlined. -/
def Console.showHeading (c : Console) (heading : String) : List Char :=
  let cs := heading.toList ++ [':']
  if c.colour then Style.bold.start ++ Style.underline.start ++ cs ++ Style.stop else cs

namespace HelpTerm

/-- The number of characters of a part. -/
def width : HelpTerm → Nat
  | literal text | plain text => text.length

/-- A part as it is printed. -/
def text (c : Console) : HelpTerm → List Char
  | literal text => c.showLiteral text.toList
  | plain text => text.toList

end HelpTerm

namespace HelpEntry

/-- An entry for something that stands for other text. -/
def operand (name about : String) : HelpEntry :=
  ⟨[.plain name], about⟩

/-- An entry for a subcommand. -/
def subcommand (name about : String) : HelpEntry :=
  ⟨[.literal name], about⟩

/-- An entry for an option with a short and a long name. -/
def option (short long about : String) : HelpEntry :=
  ⟨[.literal short, .plain ", ", .literal long], about⟩

/-- An entry for an option with a short and a long name and a value. -/
def valued (short long value about : String) : HelpEntry :=
  ⟨[.literal short, .plain ", ", .literal long, .plain (" <" ++ value ++ ">")], about⟩

/-- An entry for an option with a long name only. Long names stand in one column. -/
def longOption (long about : String) : HelpEntry :=
  ⟨[.plain "    ", .literal long], about⟩

/-- The number of characters of what can stand on the command line. -/
def width (e : HelpEntry) : Nat :=
  e.terms.foldr (fun t n => t.width + n) 0

/-- The line for an entry, with its explanation after a column of the given width. -/
def line (c : Console) (column : Nat) (e : HelpEntry) : List Char :=
  ' ' :: ' ' :: (e.terms.flatMap (HelpTerm.text c) ++ List.replicate (column - e.width + 2) ' ' ++
    e.about.toList ++ ['\n'])

end HelpEntry

/-- A section as it is printed. The widest entry sets the width of the column. -/
def HelpSection.text (c : Console) (s : HelpSection) : List Char :=
  let column := (s.entries.map HelpEntry.width).foldl max 0
  '\n' :: (c.showHeading s.heading ++ '\n' :: s.entries.flatMap (HelpEntry.line c column))

/-- A page as it is printed. -/
def HelpPage.text (c : Console) (p : HelpPage) : List Char :=
  p.about.toList ++ '\n' :: '\n' :: (c.showHeading "Usage" ++
    ' ' :: (c.showLiteral p.command.toList ++ ' ' :: (p.arguments.toList ++
      '\n' :: p.sections.flatMap (HelpSection.text c))))

/-! ## The pages -/

namespace HelpTopic

/-- The option that every command but `help` has. -/
def helpOption : HelpEntry :=
  .option "-h" "--help" "Print help"

/-- What a topic is about, in one line. -/
def about : HelpTopic → String
  | program =>
    "Luna is a tiny register-free virtual machine with a line-oriented assembly language"
  | run => "Run a program and print memory once it stops"
  | check => "Check a program for errors without running it"
  | help => "Print this message or the help of the given subcommand(s)"

/-- The page on a topic. -/
def page (topic : HelpTopic) : HelpPage :=
  match topic with
  | program =>
    { about := topic.about
      command := "luna"
      arguments := "[PATH] [COMMAND]"
      sections :=
        [⟨"Commands", [.subcommand "run" run.about, .subcommand "check" check.about,
            .subcommand "help" help.about]⟩,
          ⟨"Arguments", [.operand "[PATH]" "Quickly provide a program file to run"]⟩,
          ⟨"Options", [helpOption, .option "-V" "--version" "Print version"]⟩] }
  | run =>
    { about := topic.about
      command := "luna run"
      arguments := "[OPTIONS] <NAME>"
      sections :=
        [⟨"Arguments", [.operand "<NAME>" "Program file to run"]⟩,
          ⟨"Options",
            [.valued "-m" "--memory" "MEMORY"
                "Amount of memory cells (default from LUNA_MEMORY, else 32)",
              .valued "-s" "--steps" "STEPS"
                "Stop after this many steps (default from LUNA_MAX_STEPS, else 10000)",
              .option "-t" "--trace"
                "Print every executed instruction to stderr (also LUNA_TRACE=1)",
              .longOption "--minimal" "Produce minimal output, suited for blackbox tests",
              helpOption]⟩] }
  | check =>
    { about := topic.about
      command := "luna check"
      arguments := "<NAME>"
      sections :=
        [⟨"Arguments", [.operand "<NAME>" "File to check"]⟩, ⟨"Options", [helpOption]⟩] }
  | help =>
    { about := topic.about
      command := "luna help"
      arguments := "[COMMAND]..."
      sections := [⟨"Arguments", [.operand "[COMMAND]..." "Print help for the subcommand(s)"]⟩] }

end HelpTopic

end CellMachine
