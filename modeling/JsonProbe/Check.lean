import JsonProbe.Assertion
import JsonProbe.Regex
import JsonProbe.Json.Quote
/-!
# Checking a document from the command line

A check runs one assertion on an input text and renders the outcome: `OK` for an assertion that
holds, the text for `read`, and a JSON array of strings for `read-array`. Without input nothing
else runs.
-/

set_option autoImplicit false

namespace JsonProbe.Check

/-- Checks match patterns with the engine of `JsonProbe.Regex`, reporting a pattern it refuses
with the message of its compile error. -/
instance : RegexEngine where
  Compiled := Regex
  compile pattern := (Regex.compile pattern).mapError Regex.CompileError.message
  isMatch := Regex.isMatch

/-- The assertion a check runs. -/
inductive Assertion where
  | null
  | pattern (pattern : String)
  | length (n : Nat)
  | read
  | readArray
  | missing
  deriving DecidableEq, Repr

/-- What a check gives when it succeeds. -/
inductive Outcome where
  | passed
  | scalar (text : String)
  | strings (items : List String)
  deriving DecidableEq, Repr

/-- Why a check failed. -/
inductive Failure where
  /-- No input was given. -/
  | noInput
  /-- The assertion failed. -/
  | assertion (e : ProbeError)

/-- The message of a failed check. -/
def Failure.message : Failure → String
  | .noInput => "No input provided. Use --input, set JSONMATCH_INPUT or pipe JSON to stdin."
  | .assertion e => e.message

/-- Runs an assertion on the input's UTF-8 bytes. -/
def run (a : Assertion) (path : String) (input : Option String) : Except Failure Outcome := do
  let text ← match input with
    | some t => pure t
    | none => throw Failure.noInput
  let bs := text.toUTF8.toList
  let result : Except ProbeError Outcome := match a with
    | .null => (JsonProbe.Assertion.isNull bs path).map fun _ => .passed
    | .pattern p => (JsonProbe.Assertion.matchesPattern bs path p).map fun _ => .passed
    | .length n => (JsonProbe.Assertion.hasLength bs path n).map fun _ => .passed
    | .read => (JsonProbe.Assertion.read bs path).map .scalar
    | .readArray => (JsonProbe.Assertion.readArray bs path).map .strings
    | .missing => (JsonProbe.Assertion.keyIsMissing bs path).map fun _ => .passed
  result.mapError .assertion

/-- The outcome as printed, compact or laid out. -/
def Outcome.render (pretty : Bool) : Outcome → String
  | .passed => "OK"
  | .scalar text => text
  | .strings items => Quote.stringArray pretty items

end JsonProbe.Check
