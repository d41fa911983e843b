import JsonProbe.Check
/-!
# The command line

The command line names a subcommand and its arguments; the options `-i`/`--input TEXT`,
`-p`/`--pretty` and `-v`/`--verbose` may stand anywhere before `--`. The subcommands are `null`,
`match`, `len`, `read`, `read-array` and `missing`, each with a path (and a pattern or a length),
and `syntax`, which prints the path syntax guide.
-/

set_option autoImplicit false

namespace JsonProbe.Cli

/-- What the command line asks for. -/
inductive Command where
  | check (assertion : Check.Assertion) (path : String)
  | guide
  | help
  deriving Repr

/-- A parsed command line. -/
structure Invocation where
  command : Command
  input : Option String := none
  pretty : Bool := false
  verbose : Bool := false
  deriving Repr

/-- The usage text. -/
def usage : String :=
  "jsonmatch - Query and assert on JSON documents by path\n\n" ++
  "Usage: jsonmatch [OPTIONS] <COMMAND>\n\n" ++
  "Commands:\n" ++
  "  null        Assert the value at PATH is null\n" ++
  "  match       Assert the scalar at PATH matches a regular expression\n" ++
  "  len         Assert the value at PATH is an array of exactly LENGTH elements\n" ++
  "  read        Print the scalar at PATH\n" ++
  "  read-array  Print the scalar elements of the array at PATH\n" ++
  "  missing     Assert the final key of PATH is absent\n" ++
  "  syntax      Show path syntax documentation\n\n" ++
  "Options:\n" ++
  "  -i, --input <INPUT>  JSON input (reads from stdin if not provided) [env: JSONMATCH_INPUT=]\n" ++
  "  -p, --pretty         Pretty-print array output\n" ++
  "  -v, --verbose        Log assertion steps to stderr\n" ++
  "  -h, --help           Print help\n"

/-- Options and positional arguments, separated. -/
structure Split where
  positionals : List String := []
  input : Option String := none
  pretty : Bool := false
  verbose : Bool := false
  help : Bool := false

/-- Separates options from positional arguments. -/
def split : List String → Split → Except String Split
  | [], acc => .ok { acc with positionals := acc.positionals.reverse }
  | "--" :: rest, acc => .ok { acc with positionals := acc.positionals.reverse ++ rest }
  | "-i" :: v :: rest, acc => split rest { acc with input := some v }
  | "--input" :: v :: rest, acc => split rest { acc with input := some v }
  | ["-i"], _ => .error "error: a value is required for '--input <INPUT>' but none was supplied"
  | ["--input"], _ => .error "error: a value is required for '--input <INPUT>' but none was supplied"
  | "-p" :: rest, acc => split rest { acc with pretty := true }
  | "--pretty" :: rest, acc => split rest { acc with pretty := true }
  | "-v" :: rest, acc => split rest { acc with verbose := true }
  | "--verbose" :: rest, acc => split rest { acc with verbose := true }
  | "-h" :: rest, acc => split rest { acc with help := true }
  | "--help" :: rest, acc => split rest { acc with help := true }
  | arg :: rest, acc =>
    if "--input=".isPrefixOf arg then split rest { acc with input := some (arg.drop 8).toString }
    else if "-i".isPrefixOf arg && arg.length > 2 then split rest { acc with input := some (arg.drop 2).toString }
    else if "-".isPrefixOf arg && arg.length > 1 then .error ("error: unexpected argument '" ++ arg ++ "' found")
    else split rest { acc with positionals := arg :: acc.positionals }

/-- The subcommand and its arguments. -/
def command : List String → Except String Command
  | ["null", path] => .ok (.check .null path)
  | ["match", path, pattern] => .ok (.check (.pattern pattern) path)
  | ["len", path, n] =>
    match n.toNat? with
    | some k => .ok (.check (.length k) path)
    | none => .error ("error: invalid value '" ++ n ++ "' for '<LENGTH>': invalid digit found in string")
  | ["read", path] => .ok (.check .read path)
  | ["read-array", path] => .ok (.check .readArray path)
  | ["missing", path] => .ok (.check .missing path)
  | ["syntax"] => .ok .guide
  | [] => .error ("error: a subcommand is required\n\n" ++ usage)
  | name :: _ =>
    if ["null", "match", "len", "read", "read-array", "missing", "syntax"].contains name then
      .error ("error: wrong number of arguments for '" ++ name ++ "'\n\n" ++ usage)
    else .error ("error: unrecognized subcommand '" ++ name ++ "'\n\n" ++ usage)

/-- Parses a command line. -/
def parse (args : List String) : Except String Invocation := do
  let s ← split args {}
  if s.help then return { command := .help }
  let c ← command s.positionals
  return { command := c, input := s.input, pretty := s.pretty, verbose := s.verbose }

end JsonProbe.Cli
