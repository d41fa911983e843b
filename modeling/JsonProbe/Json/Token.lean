/-!
# Tokens of a JSON document

The tokens a document splits into, how each is displayed in messages, and the errors of
splitting, each with its message. Positions are byte offsets into the document, written
`byte N`.
-/

set_option autoImplicit false

namespace JsonProbe

/-- A lexical token of a JSON document. A number keeps its source text; a string holds its
decoded content. -/
inductive Token where
  | number (text : String)
  | string (value : String)
  | boolean (value : Bool)
  | null
  | lbrace
  | rbrace
  | lbracket
  | rbracket
  | colon
  | comma
  | eof
  deriving DecidableEq, Repr

namespace Token

/-- The token as messages write it: a string in double quotes with its decoded content and no
escaping, a number as written, and the end as `end of input`. -/
def display : Token → String
  | .number text => text
  | .string value => "\"" ++ value ++ "\""
  | .boolean true => "true"
  | .boolean false => "false"
  | .null => "null"
  | .lbrace => "\x7b"
  | .rbrace => "\x7d"
  | .lbracket => "["
  | .rbracket => "]"
  | .colon => ":"
  | .comma => ","
  | .eof => "end of input"

end Token

/-- A token and the offset of its first byte. -/
structure Lexeme where
  token : Token
  offset : Nat
  deriving DecidableEq, Repr

/-- Why the document could not be split into tokens. Each error carries the offset it is
reported at. -/
inductive LexError where
  /-- A string ran to the end of the input. -/
  | unterminatedString (offset : Nat)
  /-- A backslash escape that is not one of JSON's; `text` is the escape as written. -/
  | invalidEscape (text : String) (offset : Nat)
  /-- A raw byte below 0x20 inside a string. -/
  | controlCharacter (byte : UInt8) (offset : Nat)
  /-- A string whose content is not well-formed UTF-8. -/
  | invalidUtf8 (offset : Nat)
  /-- A number that breaks JSON's number grammar; `text` is what was scanned. -/
  | invalidNumber (text : String) (offset : Nat)
  /-- A word other than `true`, `false` and `null`. -/
  | unknownIdentifier (text : String) (offset : Nat)
  /-- A character that starts no token. -/
  | unexpectedChar (c : Char) (offset : Nat)
  deriving DecidableEq, Repr

/-- Two lowercase hexadecimal digits of a byte. -/
def hexByte (b : UInt8) : String :=
  let digit (n : Nat) : Char := if n < 10 then Char.ofNat (48 + n) else Char.ofNat (87 + n)
  String.ofList [digit (b.toNat / 16), digit (b.toNat % 16)]

/-- A position as messages write it. -/
def atByte (offset : Nat) : String :=
  "byte " ++ toString offset

namespace LexError

/-- The offset an error is reported at. -/
def offset : LexError → Nat
  | .unterminatedString p => p
  | .invalidEscape _ p => p
  | .controlCharacter _ p => p
  | .invalidUtf8 p => p
  | .invalidNumber _ p => p
  | .unknownIdentifier _ p => p
  | .unexpectedChar _ p => p

/-- The message of a lexical error. -/
def message : LexError → String
  | .unterminatedString p => "Unterminated string starting at " ++ atByte p
  | .invalidEscape text p => "Invalid escape sequence '" ++ text ++ "' at " ++ atByte p
  | .controlCharacter b p =>
    "Unescaped control character 0x" ++ hexByte b ++ " in string at " ++ atByte p
  | .invalidUtf8 p => "Invalid UTF-8 in string starting at " ++ atByte p
  | .invalidNumber text p => "Malformed number '" ++ text ++ "' at " ++ atByte p
  | .unknownIdentifier text p => "Unexpected token '" ++ text ++ "' at " ++ atByte p
  | .unexpectedChar c p => "Unexpected character '" ++ String.singleton c ++ "' at " ++ atByte p

end LexError

end JsonProbe
