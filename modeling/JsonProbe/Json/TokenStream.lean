import JsonProbe.Json.Token.Scan
/-!
# The token stream of a document

A document read token by token: each token with its offset, ending either at the end of the
input or at the first lexical error. Tokens are produced on demand by whoever walks the stream, so
a reader that stops early never sees an error further on.
-/

set_option autoImplicit false

namespace JsonProbe

/-- The tokens of a document, each with its offset, ended by the end of input (with its offset)
or by a lexical error. -/
inductive TokenStream where
  | eof (offset : Nat)
  | failure (error : LexError)
  | cons (lexeme : Lexeme) (rest : TokenStream)
  deriving Repr

namespace TokenStream

/-- The stream of the bytes `bs`, whose first byte is at `offset`. Blanks before a token are
skipped; the end of input is at the offset after the last byte. -/
def read (offset : Nat) (bs : List UInt8) : TokenStream :=
  let blanks := (bs.takeWhile Token.isBlank).length
  let start := offset + blanks
  match h : bs.drop blanks with
  | [] => .eof start
  | b :: rest =>
    match Token.scan start b rest with
    | .error e => .failure e
    | .ok (t, k) =>
      have : rest.length - k < bs.length := by
        have hl := congrArg List.length h
        simp only [List.length_drop, List.length_cons] at hl
        omega
      .cons ⟨t, start⟩ (read (start + 1 + k) (rest.drop k))
termination_by bs.length

/-- The token stream of a whole document. -/
def ofBytes (bs : List UInt8) : TokenStream :=
  read 0 bs

/-- The lexemes before the end or the error, in order. -/
def lexemes : TokenStream → List Lexeme
  | .eof _ => []
  | .failure _ => []
  | .cons l rest => l :: lexemes rest

/-- How the stream ends: at the end of input, with its offset, or with a lexical error. -/
def ending : TokenStream → Except LexError Nat
  | .eof offset => .ok offset
  | .failure e => .error e
  | .cons _ rest => ending rest

end TokenStream

end JsonProbe
