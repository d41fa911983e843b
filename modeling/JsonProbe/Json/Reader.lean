import JsonProbe.Json.TokenStream
import JsonProbe.Json.Term
/-!
# Reading a value from tokens

The reader is a pushdown machine over the token stream. Its stack holds the containers whose
next element is being read; its mode says what the next token may be. It looks at one token at a
time and takes the next one from the stream only after deciding on the current one, so a lexical
error is reported only when the reader reaches it.

At most 128 containers may be open: a `{` or `[` that would open the 129th is refused at its
offset.
-/

set_option autoImplicit false

namespace JsonProbe

/-- What the reader expected where it stopped, as messages name it. -/
inductive Expectation where
  | value
  | key
  | colon
  | commaOrBrace
  | commaOrBracket
  deriving DecidableEq, Repr

/-- The words a message uses for an expectation. -/
def Expectation.describe : Expectation → String
  | .value => "a value"
  | .key => "a string key"
  | .colon => "':'"
  | .commaOrBrace => "',' or '\x7d'"
  | .commaOrBracket => "',' or ']'"

/-- Why a document could not be read. -/
inductive ParseError where
  /-- The tokens could not be split. -/
  | lex (error : LexError)
  /-- A token that cannot stand where it is. -/
  | unexpectedToken (expected : Expectation) (found : Token) (offset : Nat)
  /-- The input ended where more was needed. -/
  | unexpectedEnd (expected : Expectation) (offset : Nat)
  /-- A token after the complete document. -/
  | trailing (found : Token) (offset : Nat)
  /-- A container opened inside 128 open containers. -/
  | tooDeep (offset : Nat)
  deriving DecidableEq, Repr

/-- The deepest nesting of containers a document may have. -/
def maxDepth : Nat := 128

/-- The message of a reading error. -/
def ParseError.message : ParseError → String
  | .lex e => "Parse error: " ++ e.message
  | .unexpectedToken expected found p =>
    "Parse error: expected " ++ expected.describe ++ ", got '" ++ found.display ++ "' at " ++ atByte p
  | .unexpectedEnd expected p =>
    "Parse error: unexpected end of input at " ++ atByte p ++ ", expected " ++ expected.describe
  | .trailing found p =>
    "Parse error: trailing '" ++ found.display ++ "' at " ++ atByte p ++ " after the document"
  | .tooDeep p =>
    "Parse error: nesting deeper than " ++ toString maxDepth ++ " levels at " ++ atByte p

namespace Reader

/-- An open container whose next element is being read. -/
inductive Frame where
  /-- An array, with its elements so far, latest first. -/
  | array (items : List Term)
  /-- An object, with its members so far, while the value of `key` is read. -/
  | member (members : List (String × Term)) (key : String)
  deriving Repr

/-- What the next token may be. The modes after `[` and `{` and between elements hold the
innermost container themselves; it joins the stack only while one of its elements is read. -/
inductive Mode where
  /-- A value, inside the containers of the stack. -/
  | value
  /-- Just after `[`: a value or `]`. -/
  | arrayOpen
  /-- Just after `{`: a key or `}`. -/
  | objectOpen
  /-- After `,` in an object: a key. -/
  | key (members : List (String × Term))
  /-- After a key: `:`. -/
  | colon (members : List (String × Term)) (key : String)
  /-- After an element of an array: `,` or `]`. -/
  | nextItem (items : List Term)
  /-- After a member of an object: `,` or `}`. -/
  | nextMember (members : List (String × Term))
  /-- The document is complete: only the end of input may follow. -/
  | done (result : Term)
  deriving Repr

/-- What a mode expects, for messages. -/
def Mode.expectation : Mode → Expectation
  | .value => .value
  | .arrayOpen => .value
  | .objectOpen => .key
  | .key _ => .key
  | .colon _ _ => .colon
  | .nextItem _ => .commaOrBracket
  | .nextMember _ => .commaOrBrace
  | .done _ => .value

/-- The machine's state: a mode and the containers around it. -/
abbrev State := Mode × List Frame

/-- A value is complete: it becomes the next element of the innermost container, or the
document. -/
def complete (v : Term) : List Frame → State
  | [] => (.done v, [])
  | .array items :: stack => (.nextItem (v :: items), stack)
  | .member members key :: stack => (.nextMember (Term.insertMember key v members), stack)

/-- The value a token starts, where a value is expected inside `stack`. -/
def startValue (stack : List Frame) (t : Token) (offset : Nat) : Except ParseError State :=
  match t with
  | .lbracket => if stack.length < maxDepth then .ok (.arrayOpen, stack) else .error (.tooDeep offset)
  | .lbrace => if stack.length < maxDepth then .ok (.objectOpen, stack) else .error (.tooDeep offset)
  | .string s => .ok (complete (.string s) stack)
  | .number n => .ok (complete (.number n) stack)
  | .boolean b => .ok (complete (.bool b) stack)
  | .null => .ok (complete .null stack)
  | t => .error (.unexpectedToken .value t offset)

/-- One token, read in a mode inside a stack. The end of input is not a token here: see `run`. -/
def step : Mode → List Frame → Token → Nat → Except ParseError State
  | .value, stack, t, p => startValue stack t p
  | .arrayOpen, stack, .rbracket, _ => .ok (complete (.array []) stack)
  | .arrayOpen, stack, t, p => startValue (.array [] :: stack) t p
  | .objectOpen, stack, .rbrace, _ => .ok (complete (.object []) stack)
  | .objectOpen, stack, .string k, _ => .ok (.colon [] k, stack)
  | .objectOpen, _, t, p => .error (.unexpectedToken .key t p)
  | .key members, stack, .string k, _ => .ok (.colon members k, stack)
  | .key _, _, t, p => .error (.unexpectedToken .key t p)
  | .colon members k, stack, .colon, _ => .ok (.value, .member members k :: stack)
  | .colon _ _, _, t, p => .error (.unexpectedToken .colon t p)
  | .nextItem items, stack, .comma, _ => .ok (.value, .array items :: stack)
  | .nextItem items, stack, .rbracket, _ => .ok (complete (.array items.reverse) stack)
  | .nextItem _, _, t, p => .error (.unexpectedToken .commaOrBracket t p)
  | .nextMember members, stack, .comma, _ => .ok (.key members, stack)
  | .nextMember members, stack, .rbrace, _ => .ok (complete (.object members) stack)
  | .nextMember _, _, t, p => .error (.unexpectedToken .commaOrBrace t p)
  | .done _, _, t, p => .error (.trailing t p)

/-- Runs the machine over a token stream. At the end of input only a complete document is
accepted; a lexical error is reported when the machine reaches it. -/
def run : Mode → List Frame → TokenStream → Except ParseError Term
  | _, _, .failure e => .error (.lex e)
  | .done v, _, .eof _ => .ok v
  | mode, _, .eof p => .error (.unexpectedEnd mode.expectation p)
  | mode, stack, .cons ⟨t, p⟩ rest =>
    match step mode stack t p with
    | .ok (mode', stack') => run mode' stack' rest
    | .error e => .error e

end Reader

/-- Reads a JSON document from its bytes. -/
def Term.parse (bs : List UInt8) : Except ParseError Term :=
  Reader.run .value [] (TokenStream.ofBytes bs)

end JsonProbe
