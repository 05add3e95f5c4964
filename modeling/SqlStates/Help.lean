/-
The texts that explain the command line.
-/
import SqlStates.Text.Basic

set_option autoImplicit false

namespace SqlStates

/-- How the program is called. -/
def usageText : Text :=
  "Usage: errcodes [OPTIONS] <COMMAND>\n\nFor more information, try '--help'.\n".toList

/-- What the program and its options do. -/
def helpText : Text :=
  ("Generates C++ sqlstate declarations from PostgreSQL's errcodes.txt\n\n"
    ++ "Usage: errcodes [OPTIONS] <COMMAND>\n\n"
    ++ "Commands:\n"
    ++ "  enum-values   Print `name=value,` lines for the sqlstate enum\n"
    ++ "  switch-cases  Print `case sqlstate::name: return \"name\";` lines\n"
    ++ "  help          Print this message or the help of the given subcommand(s)\n\n"
    ++ "Options:\n"
    ++ "      --url <URL>       Catalog URL [env: ERRCODES_URL=]\n"
    ++ "      --file <PATH>     Read the catalog from a local file instead of fetching it\n"
    ++ "  -o, --output <PATH>   Write the generated lines to a file instead of stdout\n"
    ++ "      --timeout <SECS>  HTTP timeout in seconds [default: 30]\n"
    ++ "  -v, --verbose         Log debug details to stderr\n"
    ++ "  -h, --help            Print help\n"
    ++ "  -V, --version         Print version\n").toList

end SqlStates
