import SqlCsvServer.Common.Util

/-!
# Cutting SQL text into tokens: `sql/lexer.c`

The lexer walks a C string from left to right.  Its state is the index of the
next byte together with the text from that byte on; every round takes at least
one byte, so the length of the text bounds the number of rounds.
-/

namespace SqlCsvServer
namespace Sql

open Foundation

/-- `TokenType`, without the prefix `TOKEN_`. -/
inductive TokenType where
  | identifier
  | string
  | number
  | star
  | equals
  | comma
  | lparen
  | rparen
  | semicolon
  | «end»
deriving DecidableEq, Repr

structure Token where
  type : TokenType
  text : Bytes
  position : Nat
deriving DecidableEq, Repr

/-!
## Words
-/

def isIdentifierStart (value : Byte) : Bool :=
  isAlpha value || value == 0x5F || isDigit value || 0x80 ≤ value

def isIdentifierContinue (value : Byte) : Bool :=
  isAlpha value || isDigit value || value == 0x5F || 0x80 ≤ value

/-- The type `lex_word` gives a word. -/
def wordType (word : Bytes) : TokenType :=
  if isDigit (word.headD Byte.nul) then .number else .identifier

/-!
## String literals
-/

/-- Where the loop of `lex_string` stops. -/
structure LexedString where
  text : Bytes
  rest : Bytes
  /-- The byte in front of `rest`. -/
  last : Byte
deriving DecidableEq

/-- One more byte in the buffer of `lex_string`. -/
def LexedString.push (current : Byte) (lexed : LexedString) : LexedString :=
  { lexed with text := current :: lexed.text }

/-- The loop of `lex_string` after the byte `last`. -/
def lexStringLoop (last : Byte) : Bytes -> LexedString
  | [] => { text := [], rest := [], last := last }
  | current :: rest =>
      if current = Byte.singleQuote then
        match rest with
        | [] => { text := [], rest := [], last := Byte.singleQuote }
        | next :: more =>
            if next = Byte.singleQuote then
              (lexStringLoop Byte.singleQuote more).push Byte.singleQuote
            else { text := [], rest := rest, last := Byte.singleQuote }
      else (lexStringLoop current rest).push current

def lexString (start : Nat) (text : Bytes) : Except Bytes (Token × Bytes) :=
  let lexed := lexStringLoop Byte.singleQuote text
  -- the source looks at input[*index - 1] to see whether the literal was closed
  if lexed.last ≠ Byte.singleQuote then
    .error (Common.message
      (ascii "unterminated string literal at position " ++ decimalNat start))
  else
    .ok ({ type := .string, text := lexed.text, position := start }, lexed.rest)

/-!
## The whole text
-/

/-- The one-byte tokens of `lex_sql`. -/
def simpleTokenType (current : Byte) : Option TokenType :=
  if current = 0x2A then some .star
  else if current = 0x3D then some .equals
  else if current = 0x2C then some .comma
  else if current = 0x28 then some .lparen
  else if current = 0x29 then some .rparen
  else if current = 0x3B then some .semicolon
  else none

theorem simpleTokenType_mark {current : Byte} {type : TokenType}
    (h : simpleTokenType current = some type) : type ≠ .end ∧ type ≠ .identifier := by
  unfold simpleTokenType at h
  cases type with
  | «end» => grind
  | identifier => grind
  | _ => decide

/-- One round of `lex_sql`: the token it pushes, if any, and the text left. -/
def lexRound (index : Nat) (current : Byte) (rest : Bytes) :
    Except Bytes (Option Token × Bytes) :=
  if isSpace current then .ok (none, rest)
  else if isIdentifierStart current then
    let word := (current :: rest).takeWhile isIdentifierContinue
    .ok (some { type := wordType word, text := word, position := index },
      (current :: rest).dropWhile isIdentifierContinue)
  else if current = Byte.singleQuote then
    match lexString index rest with
    | .error text => .error text
    | .ok (token, left) => .ok (some token, left)
  else
    match simpleTokenType current with
    | some type =>
        .ok (some { type := type, text := [current], position := index }, rest)
    | none =>
        .error (Common.message
          (ascii "unexpected character '" ++ [current] ++
            ascii "' at position " ++ decimalNat index))

/-- The token that closes every token array. -/
def endToken (index : Nat) : Token :=
  { type := .end, text := [], position := index }

/-- The loop of `lex_sql` from an index on. -/
def lexLoop : Nat -> Nat -> Bytes -> Except Bytes (List Token)
  | _, index, [] => .ok [endToken index]
  | 0, _, _ :: _ => .ok []
  | fuel + 1, index, current :: rest =>
      match lexRound index current rest with
      | .error text => .error text
      | .ok (token, left) =>
          match lexLoop fuel (index + ((rest.length + 1) - left.length)) left with
          | .error text => .error text
          | .ok tokens => .ok (token.toList ++ tokens)

def lexSql (input : Bytes) : Except Bytes (List Token) :=
  lexLoop (cString input).length 0 (cString input)

end Sql
end SqlCsvServer
