/-! # Usage texts -/

namespace StructForge.Cli

def programName : String := "nativegen"

def mainUsage : String :=
  "usage: nativegen [-h] [-v] [--log-file LOG_FILE] \x7bgenerate,inspect\x7d ...\n"

def mainHelp : String :=
  mainUsage ++
  "\n" ++
  "Generate native-friendly mirror structs for marked Python types.\n" ++
  "\n" ++
  "positional arguments:\n" ++
  "  \x7bgenerate,inspect\x7d\n" ++
  "    generate           Regenerate mirror structs for every marked type.\n" ++
  "    inspect            Show how each marked type\x27s fields are classified.\n" ++
  "\n" ++
  "options:\n" ++
  "  -h, --help           show this help message and exit\n" ++
  "  -v, --verbose        Increase log verbosity for troubleshooting.\n" ++
  "  --log-file LOG_FILE  Also write logs, with timestamps, to this file.\n"

def generateUsage : String :=
  "usage: nativegen generate [-h] [-v] [-m MODULES] [--no-entry-points]\n" ++
  "                          [-o OUTPUT_DIR] [--dry-run]\n" ++
  "                          [path]\n"

def inspectUsage : String :=
  "usage: nativegen inspect [-h] [-v] [-m MODULES] [--no-entry-points] [path]\n"

def searchHelp : String :=
  "\n" ++
  "positional arguments:\n" ++
  "  path                  Project root holding .nativegen.yml (defaults to\n" ++
  "                        current directory).\n" ++
  "\n" ++
  "options:\n" ++
  "  -h, --help            show this help message and exit\n" ++
  "  -v, --verbose         Increase log verbosity for troubleshooting.\n" ++
  "  -m MODULES, --module MODULES\n" ++
  "                        Module to scan for marked types; may be repeated.\n" ++
  "  --no-entry-points     Ignore types registered under the nativegen.types\n" ++
  "                        entry-point group.\n"

def generateHelp : String :=
  generateUsage ++ searchHelp ++
  "  -o OUTPUT_DIR, --output-dir OUTPUT_DIR\n" ++
  "                        Directory for generated files, relative to the project\n" ++
  "                        root.\n" ++
  "  --dry-run             Print generated sources without writing them.\n"

def inspectHelp : String := inspectUsage ++ searchHelp

end StructForge.Cli
