import SqlCsvServer.Sql.Ast
import SqlCsvServer.Sql.Lexer

/-!
# Parsing a token array: `sql/parser.c`

The parser state is the rest of the token array.  Every array that
`lex_sql` makes ends with the token `TOKEN_END`, and the parser stops
as soon as it has consumed that one.
-/

namespace SqlCsvServer
namespace Sql

open Foundation
open Common

abbrev Parse (α : Type) := StateT (List Token) (Except Bytes) α

/-!
## Looking at the current token
-/

def currentToken (tokens : List Token) : Token :=
  tokens.headD (endToken 0)

def tokenTypeName : TokenType -> Bytes
  | .identifier => ascii "IDENTIFIER"
  | .string => ascii "STRING"
  | .number => ascii "NUMBER"
  | .star => ascii "STAR"
  | .equals => ascii "EQUALS"
  | .comma => ascii "COMMA"
  | .lparen => ascii "LPAREN"
  | .rparen => ascii "RPAREN"
  | .semicolon => ascii "SEMICOLON"
  | .end => ascii "EOF"

def describeToken (token : Token) : Bytes :=
  let place := ascii " at position " ++ decimalNat token.position
  if token.type = .end then snprintf 128 (ascii "EOF" ++ place)
  else if token.text ≠ [] then
    snprintf 128 (tokenTypeName token.type ++ ascii "(\"" ++ token.text ++
      ascii "\")" ++ place)
  else snprintf 128 (tokenTypeName token.type ++ place)

/-- The text `set_expected_token_error` leaves in the message. -/
def expectedTokenError (expected : Bytes) (tokens : List Token) : Bytes :=
  let description := describeToken (currentToken tokens)
  if (ascii "expected ").isPrefixOf expected ∨
      (ascii "unexpected ").isPrefixOf expected then
    message (expected ++ ascii ", got " ++ description)
  else
    message (ascii "expected " ++ expected ++ ascii ", got " ++ description)

def isKeyword (keyword : Bytes) (token : Token) : Bool :=
  token.type == .identifier && stringsEqualIgnoreCase token.text keyword

/-!
## Consuming tokens
-/

def advance : Parse Unit := fun tokens => .ok ((), tokens.tail)

/-- `set_expected_token_error` and return 0. -/
def failExpected (α : Type) (expected : Bytes) : Parse α :=
  fun tokens => .error (expectedTokenError expected tokens)

def matchType (type : TokenType) : Parse Bool := do
  if (currentToken (← get)).type = type then
    advance
    return true
  else return false

def expectType (type : TokenType) (text : String) : Parse Unit := do
  if ← matchType type then return ()
  else failExpected Unit (ascii text)

def expectKeyword (keyword : String) : Parse Unit := do
  if isKeyword (ascii keyword) (currentToken (← get)) then advance
  else failExpected Unit (snprintf 64 (ascii "keyword " ++ ascii keyword))

def parseIdentifier : Parse Bytes := do
  let token := currentToken (← get)
  if token.type = .identifier then
    advance
    return token.text
  else failExpected Bytes (ascii "identifier")

def isValueType : TokenType -> Bool
  | .string | .number | .identifier => true
  | _ => false

def parseValue (expected : String) : Parse Bytes := do
  let token := currentToken (← get)
  if isValueType token.type then
    advance
    return token.text
  else failExpected Bytes (ascii expected)

def parseMoreItems (item : Parse Bytes) : Nat -> Parse (List Bytes)
  | 0 => return []
  | fuel + 1 => do
      if ← matchType .comma then
        let value ← item
        let values ← parseMoreItems item fuel
        return value :: values
      else return []

def parseItemList (item : Parse Bytes) : Parse (List Bytes) := do
  let value ← item
  let values ← parseMoreItems item (← get).length
  return value :: values

def parseIdentifierList : Parse (List Bytes) :=
  parseItemList parseIdentifier

def parseValueList : Parse (List Bytes) :=
  parseItemList (parseValue "SQL value")

def parseConditionValue : Parse Bytes :=
  parseValue "SQL value in WHERE clause"

def rejectUnsupportedWhereConnector : Parse Unit := fun tokens =>
  let token := currentToken tokens
  if isKeyword (ascii "AND") token ∨ isKeyword (ascii "OR") token then
    .error (message
      (ascii "AND/OR conditions are not supported; " ++
        ascii "only a single WHERE condition is allowed, got IDENTIFIER(\"" ++
        token.text ++ ascii "\") at position " ++ decimalNat token.position))
  else .ok ((), tokens)

/-!
## Statements
-/

def parseInsert : Parse InsertStatement := do
  expectKeyword "INSERT"
  expectKeyword "INTO"
  let tableName ← parseIdentifier
  expectType .lparen "expected '(' after table name"
  let columns ← parseIdentifierList
  expectType .rparen "expected ')' after column list"
  expectKeyword "VALUES"
  expectType .lparen "expected '(' after VALUES"
  let values ← parseValueList
  expectType .rparen "expected ')' after value list"
  return { tableName := tableName, columns := columns, values := values }

/-- The part of `parse_select` between SELECT and FROM. -/
def parseSelectColumns : Parse (Bool × List Bytes) := do
  if ← matchType .star then return (true, [])
  else
    let columns ← parseIdentifierList
    return (false, columns)

/-- The part of `parse_select` from WHERE on. -/
def parseCondition : Parse (Option WhereCondition) := do
  if isKeyword (ascii "WHERE") (currentToken (← get)) then
    advance
    let whereColumn ← parseIdentifier
    expectType .equals "expected '=' in WHERE clause"
    let whereValue ← parseConditionValue
    rejectUnsupportedWhereConnector
    return some { whereColumn := whereColumn, whereValue := whereValue }
  else return none

def parseSelect : Parse SelectStatement := do
  expectKeyword "SELECT"
  let (selectAll, columns) ← parseSelectColumns
  expectKeyword "FROM"
  let tableName ← parseIdentifier
  let condition ← parseCondition
  return {
    tableName := tableName
    columns := columns
    selectAll := selectAll
    condition := condition }

/-- The branch on the first token in `parse_statement`. -/
def parseBody : Parse Statement := do
  let token := currentToken (← get)
  if isKeyword (ascii "INSERT") token then
    return .insertStatement (← parseInsert)
  else if isKeyword (ascii "SELECT") token then
    return .selectStatement (← parseSelect)
  else
    throw (message
      (ascii "only INSERT and SELECT are supported, got " ++ describeToken token))

/-- `parse_statement` as a parser function. -/
def parseWhole : Parse Statement := do
  let statement ← parseBody
  expectType .semicolon "expected ';' at end of SQL statement"
  expectType .end "unexpected tokens after SQL statement"
  return statement

def parseStatement (tokens : List Token) : Except Bytes Statement :=
  (parseWhole.run tokens).map Prod.fst

/-!
## What the parser functions do to the token list
-/

section Tokens

variable {token : Token} {tokens : List Token}

@[simp] theorem currentToken_cons : currentToken (token :: tokens) = token :=
  rfl

@[simp] theorem parse_bind {α β : Type} (first : Parse α) (next : α -> Parse β)
    (tokens : List Token) :
    (first >>= next) tokens =
      match first tokens with
      | .error text => .error text
      | .ok (value, left) => next value left := by
  change (first tokens >>= fun result => next result.1 result.2) = _
  cases first tokens with
  | error text => rfl
  | ok result => rfl

@[simp] theorem parse_map {α β : Type} (f : α -> β) (first : Parse α)
    (tokens : List Token) :
    (f <$> first) tokens =
      match first tokens with
      | .error text => .error text
      | .ok (value, left) => .ok (f value, left) := by
  change (first tokens >>= fun result => pure (f result.1, result.2)) = _
  cases first tokens with
  | error text => rfl
  | ok result => rfl

@[simp] theorem parse_pure {α : Type} (value : α) (tokens : List Token) :
    (pure value : Parse α) tokens = .ok (value, tokens) :=
  rfl

@[simp] theorem parse_get (tokens : List Token) :
    (get : Parse (List Token)) tokens = .ok (tokens, tokens) :=
  rfl

@[simp] theorem advance_cons : advance (token :: tokens) = .ok ((), tokens) :=
  rfl

theorem matchType_same {type : TokenType} (h : token.type = type) :
    matchType type (token :: tokens) = .ok (true, tokens) := by
  simp [matchType, h]

theorem matchType_other {type : TokenType} (h : token.type ≠ type) :
    matchType type (token :: tokens) = .ok (false, token :: tokens) := by
  simp [matchType, h]

theorem expectType_same {type : TokenType} (text : String)
    (h : token.type = type) :
    expectType type text (token :: tokens) = .ok ((), tokens) := by
  simp [expectType, matchType_same h]

theorem expectKeyword_same {keyword : String}
    (h : isKeyword (ascii keyword) token = true) :
    expectKeyword keyword (token :: tokens) = .ok ((), tokens) := by
  simp [expectKeyword, h]

theorem parseIdentifier_same (h : token.type = .identifier) :
    parseIdentifier (token :: tokens) = .ok (token.text, tokens) := by
  simp [parseIdentifier, h]

theorem parseValue_same (expected : String) (h : isValueType token.type = true) :
    parseValue expected (token :: tokens) = .ok (token.text, tokens) := by
  simp [parseValue, h]

theorem isKeyword_type {keyword : Bytes} (h : isKeyword keyword token = true) :
    token.type = .identifier := by
  simp only [isKeyword, Bool.and_eq_true, beq_iff_eq] at h
  exact h.1

theorem isKeyword_of_other_type {keyword : Bytes}
    (h : token.type ≠ .identifier) : isKeyword keyword token = false := by
  simp [isKeyword, h]

theorem isKeyword_unique {left right : Bytes}
    (hleft : isKeyword left token = true) (hright : isKeyword right token = true) :
    stringsEqualIgnoreCase left right = true := by
  simp only [isKeyword, Bool.and_eq_true, stringsEqualIgnoreCase_iff]
    at hleft hright ⊢
  rw [← hleft.2, hright.2]

end Tokens

end Sql
end SqlCsvServer
