/-!
Contract: the texts that explain the command line.

Owns: the usage and the help text.
Does not own: when they are shown.
-/

namespace StaticDispatch.CommandLine

def programName : String := "gfinline"

def usageLines : List String := [
  "usage: gfinline [-h] [--call CALLS] [--no-checks] [--checks] [--config CONFIG]",
  "                [--enable ENABLE] [--enable-all] [--disable DISABLE]",
  "                [--allow-unordered] [--emit-source] [--json]",
  "                source"]

def helpLines : List String := usageLines ++ [
  "",
  "Resolve generic function call sites statically",
  "",
  "positional arguments:",
  "  source             Path to a declaration file",
  "",
  "options:",
  "  -h, --help         show this help message and exit",
  "  --call CALLS       Call site as name(Type, ?, literal, ...) with static",
  "                     types in precedence order (repeatable)",
  "  --no-checks        Only inline a single definite method",
  "  --checks           Allow guarded cascades (default)",
  "  --config CONFIG    Path to an inlining config JSON file",
  "  --enable ENABLE    Enable inlining for a generic function (repeatable)",
  "  --enable-all       Enable inlining for every generic function",
  "  --disable DISABLE  Never inline a generic function, even under --enable-all",
  "                     (repeatable)",
  "  --allow-unordered  Inline even when overlapping candidates are ordered by",
  "                     registration order only",
  "  --emit-source      Also print the generated Python source",
  "  --json             Emit results and diagnostics as JSON"]

end StaticDispatch.CommandLine
