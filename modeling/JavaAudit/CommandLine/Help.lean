/-!
# Help on the command line
-/

namespace JavaAudit.CommandLine

/-- What the program can be asked for. -/
def usageLines : List String :=
  ["usage: sinkscan [-h] [--output \x7btext,json\x7d] [-o OUTPUT_FILE]",
    "                [--min-severity \x7bINFO,WARNING,ERROR,CRITICAL\x7d]",
    "                [--config CONFIG] [--list-rules] [--no-banner] [-v]",
    "                [--version]",
    "                [target]"]

def helpLines : List String :=
  usageLines ++
  ["",
    "Java security rule scanner using tree-sitter",
    "",
    "positional arguments:",
    "  target                Java file or directory to scan",
    "",
    "options:",
    "  -h, --help            show this help message and exit",
    "  --output \x7btext,json\x7d  Output format (default: text)",
    "  -o OUTPUT_FILE, --output-file OUTPUT_FILE",
    "                        Write output to file",
    "  --min-severity \x7bINFO,WARNING,ERROR,CRITICAL\x7d",
    "                        Minimum severity to report",
    "  --config CONFIG       Path to .sinkscan.yml config file",
    "  --list-rules          List the registered rules and exit",
    "  --no-banner           Suppress banner output",
    "  -v, --verbose         Enable debug logging",
    "  --version             show program's version number and exit"]

def linesText (lines : List String) : String := String.join (lines.map (· ++ "\n"))

end JavaAudit.CommandLine
