import DocAudit.Report.Document

/-! # Help

    The texts that the command line explains itself with, for a screen of eighty
    columns. -/

namespace DocAudit.Command

open Text

/-- A list of lines, each with its line feed. -/
def withFeeds (lines : List Text) : Text := lines.flatMap fun line => line ++ ['\n']

/-- How the program is called. -/
def usage : Text :=
  withFeeds [
    "usage: phpdoc-exporter [-h] -o OUTPUT [-t TITLE] [--source-root PATH]",
    "                       [-j WORKERS] [-s] [-v] [-V]",
    "                       input"]

/-- What the program does and what its options mean. -/
def help : Text :=
  usage ++ withFeeds [
    "",
    "Validate PHPDoc comments and export them as Markdown.",
    "",
    "positional arguments:",
    "  input                 JSON element records from the source parser ('-' for",
    "                        stdin).",
    "",
    "options:",
    "  -h, --help            show this help message and exit",
    "  -o OUTPUT, --output OUTPUT",
    "                        Markdown file to write.",
    "  -t TITLE, --title TITLE",
    "                        Report title.",
    "  --source-root PATH    Analyzed source path, used to derive the default",
    "                        title. Repeatable.",
    "  -j WORKERS, --workers WORKERS",
    "                        Worker threads for extraction.",
    "  -s, --strict          Fail when any MUST violation is found.",
    "  -v, --verbose         Verbose output.",
    "  -V, --version         show program's version number and exit"]

/-- The program's name and version. -/
def version : Text := withFeeds [toolName ++ " " ++ toolVersion]

/-- The report of a command line that cannot be understood. -/
def complaint (message : Text) : Text :=
  usage ++ withFeeds [toolName ++ ": error: " ++ message]

end DocAudit.Command
