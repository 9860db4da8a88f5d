/-! # Flags -/

namespace StructForge.Cli

/-- The flags of the command line. -/
inductive Flag where
  | help
  | verbose
  | logFile
  | module
  | ignoreEntries
  | outputDir
  | dryRun
  deriving DecidableEq, Repr

namespace Flag

def names : Flag → List String
  | .help => ["-h", "--help"]
  | .verbose => ["-v", "--verbose"]
  | .logFile => ["--log-file"]
  | .module => ["-m", "--module"]
  | .ignoreEntries => ["--no-entry-points"]
  | .outputDir => ["-o", "--output-dir"]
  | .dryRun => ["--dry-run"]

def takesValue : Flag → Bool
  | .logFile | .module | .outputDir => true
  | .help | .verbose | .ignoreEntries | .dryRun => false

def title (f : Flag) : String := "/".intercalate f.names

end Flag

end StructForge.Cli
