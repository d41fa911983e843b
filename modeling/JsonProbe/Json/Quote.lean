/-!
# Writing strings as JSON

A string is written in double quotes. Quote and backslash are escaped, the five control
characters with short escapes (`\b \f \n \r \t`) use them, other characters below U+0020 are
written `\u00XX` with lowercase hexadecimal digits, and every other character is written as itself.

An array of strings is written compactly as `["a","b"]`, or laid out with each element on its own
line indented by two spaces; the empty array is `[]` either way.
-/

set_option autoImplicit false

namespace JsonProbe.Quote

/-- A lowercase hexadecimal digit. -/
def hexDigit (n : Nat) : Char :=
  if n < 10 then Char.ofNat (48 + n) else Char.ofNat (87 + n)

/-- How one character is written inside quotes. -/
def escapeChar (c : Char) : List Char :=
  if c == '"' then ['\\', '"']
  else if c == '\\' then ['\\', '\\']
  else if c == '\x08' then ['\\', 'b']
  else if c == '\x0c' then ['\\', 'f']
  else if c == '\n' then ['\\', 'n']
  else if c == '\r' then ['\\', 'r']
  else if c == '\t' then ['\\', 't']
  else if c.toNat < 0x20 then ['\\', 'u', '0', '0', hexDigit (c.toNat / 16), hexDigit (c.toNat % 16)]
  else [c]

/-- A string written as a JSON string. -/
def quote (s : String) : String :=
  String.ofList ('"' :: s.toList.flatMap escapeChar ++ ['"'])

/-- An array of strings written as JSON, compact or laid out. -/
def stringArray (pretty : Bool) (items : List String) : String :=
  match items with
  | [] => "[]"
  | _ =>
    if pretty then "[\n" ++ ",\n".intercalate (items.map fun s => "  " ++ quote s) ++ "\n]"
    else "[" ++ ",".intercalate (items.map quote) ++ "]"

end JsonProbe.Quote
