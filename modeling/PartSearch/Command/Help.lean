import PartSearch.Command.Arguments
import PartSearch.Command.Palette

/-!
The texts about the command line itself: its help, its version, and what is wrong with its
arguments.
-/

namespace PartSearch.Help

def version : String := "partsift 0.1.0"

def text : String := textOfLines [
  version,
  "",
  "Parametric search for electronics components.",
  "",
  "Usage:",
  "  partsift [OPTIONS] [--] <query...>",
  "  partsift --catalog <file> [OPTIONS] [--] [query...]",
  "  partsift --catalog <file> --alternatives <id> [OPTIONS]",
  "",
  "Without --catalog the query is only parsed and the structured reading is",
  "printed. With --catalog the query is run against the catalog.",
  "",
  "Options:",
  "  --catalog <file>          JSON catalog with \"subcategories\" and \"components\".",
  "  --alternatives <id>       Rank alternatives to part <id> from the catalog.",
  "  --filter <expr>           Spec filter such as \"Voltage Rating>=25V\". Repeatable;",
  "                            wins over filters parsed from the query.",
  "  --json                    Print machine-readable JSON.",
  "  --color                   Force ANSI color output.",
  "  --no-color                Disable ANSI color output.",
  "  --debug                   Log debug events to stderr (otherwise RUST_LOG applies).",
  "  -h, --help                Show this help message.",
  "  -V, --version             Print version information.",
  "",
  "The query is read from stdin when no query arguments are given.",
  "",
  "Exit codes:",
  "  0  Success.",
  "  1  Catalog or search error.",
  "  2  Invalid arguments, filter or query."]

end PartSearch.Help

namespace PartSearch

def UsageError.message : UsageError → String
  | valueMissing option value => option ++ " expects " ++ value
  | invalidFilter expression e =>
    "invalid --filter '" ++ expression ++ "': " ++ e.message
  | unknownOption argument => "unknown option '" ++ argument ++ "'"
  | alternativesWithoutCatalog => "--alternatives needs --catalog"
  | alternativesWithQuery => "--alternatives takes no query"
  | noQuery => "no query provided\n\n" ++ Help.text

end PartSearch
