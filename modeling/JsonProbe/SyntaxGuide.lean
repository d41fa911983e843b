/-!
# The path syntax guide

The reference text that describes path expressions and the assertions, as the command line
prints it.
-/

set_option autoImplicit false

namespace JsonProbe

/-- The path syntax reference. -/
def syntaxGuide : String :=
  "JSONMATCH PATH SYNTAX\n" ++
  "\n" ++
  "ROOT ACCESS\n" ++
  "  \"\"  or  .\n" ++
  "    The entire JSON document. Any JSON value may be the root.\n" ++
  "\n" ++
  "    Example:\n" ++
  "      Input:  null\n" ++
  "      Command: jsonmatch null .\n" ++
  "      Output: OK\n" ++
  "\n" ++
  "FIELD ACCESS\n" ++
  "  .field\n" ++
  "    Access an object member by name. The leading dot is optional.\n" ++
  "\n" ++
  "    Example:\n" ++
  "      Input:  \x7b\"user\": \x7b\"name\": \"Alice\"\x7d\x7d\n" ++
  "      Command: jsonmatch read .user.name\n" ++
  "      Output: Alice\n" ++
  "\n" ++
  "    Constraints:\n" ++
  "      - A missing member is an error that lists the keys present\n" ++
  "      - Names are case-sensitive and may not contain '.' or '['\n" ++
  "\n" ++
  "ARRAY INDEX ACCESS\n" ++
  "  .field[index]\n" ++
  "  .field.index\n" ++
  "    Access array elements by zero-based index. Both forms are equivalent.\n" ++
  "\n" ++
  "    Example:\n" ++
  "      Input:  \x7b\"items\": [\"a\", \"b\", \"c\"]\x7d\n" ++
  "      Command: jsonmatch read .items[1]\n" ++
  "      Output: b\n" ++
  "\n" ++
  "    Root arrays:\n" ++
  "      [1]   or  .[1]  or  .1\n" ++
  "\n" ++
  "    Constraints:\n" ++
  "      - Index out of bounds is an error reporting the array length\n" ++
  "      - Index must be a non-negative integer\n" ++
  "\n" ++
  "ASSERTIONS\n" ++
  "  null PATH           value is null\n" ++
  "  match PATH REGEX    regex matches somewhere in the scalar's text\n" ++
  "  len PATH N          value is an array of exactly N elements\n" ++
  "  read PATH           print the scalar's text\n" ++
  "  read-array PATH     print the array's scalar elements as a JSON array\n" ++
  "  missing PATH        the final key of PATH is absent\n" ++
  "\n" ++
  "  Numbers are matched and read exactly as written: -123.456 stays -123.456.\n"

end JsonProbe
