import Mathlib.Data.List.Infix
import SqlCsvServer.Foundation.Bytes

/-!
# Shared helpers of `common/util.c`

Strings are the bytes in front of the terminating NUL.  Where the source edits a
buffer in place, the function here returns the text that is left in it.
-/

namespace SqlCsvServer
namespace Common

open Foundation

/-!
## Comparing and trimming text
-/

def stringsEqualIgnoreCase : Bytes -> Bytes -> Bool
  | l :: left, r :: right =>
      if toLower l = toLower r then stringsEqualIgnoreCase left right else false
  | [], [] => true
  | _, _ => false

theorem stringsEqualIgnoreCase_iff :
    forall {left right : Bytes},
      stringsEqualIgnoreCase left right = true <->
        left.map toLower = right.map toLower := by
  intro left
  induction left with
  | nil =>
      intro right
      cases right <;> simp [stringsEqualIgnoreCase]
  | cons l left ih =>
      intro right
      cases right with
      | nil => simp [stringsEqualIgnoreCase]
      | cons r right => simp [stringsEqualIgnoreCase, ih]

def trimWhitespace (text : Bytes) : Bytes :=
  (text.dropWhile isSpace).rdropWhile isSpace

def isLineEnding (b : Byte) : Bool :=
  b == Byte.lineFeed || b == Byte.carriageReturn

def stripLineEndings (text : Bytes) : Bytes :=
  text.rdropWhile isLineEnding

def strstr (text part : Bytes) : Bool :=
  text.tails.any (part.isPrefixOf ·)

def stringListIndexOf (list : List Bytes) (value : Bytes) : Option Nat :=
  list.findIdx? (fun item => decide (item = value))

/-!
## Integers
-/

def intMin : Int := -2147483648

def intMax : Int := 2147483647

def longMin : Int := -9223372036854775808

def longMax : Int := 9223372036854775807

def digitsValue (digits : Bytes) : Nat :=
  digits.foldl (fun value b => value * 10 + (b.toNat - 0x30)) 0

structure StrtolResult where
  value : Int
  /-- The text from `end` on. -/
  rest : Bytes
  /-- `end == text` after the call. -/
  noConversion : Bool
  /-- `errno` was set to `ERANGE`. -/
  outOfRange : Bool
deriving DecidableEq

def strtol (text : Bytes) : StrtolResult :=
  let unsigned := text.dropWhile isSpace
  let signed : Bool × Bytes :=
    match unsigned with
    | 0x2D :: rest => (true, rest)
    | 0x2B :: rest => (false, rest)
    | _ => (false, unsigned)
  let digits := signed.2.takeWhile isDigit
  if digits = [] then
    { value := 0, rest := text, noConversion := true, outOfRange := false }
  else
    let magnitude : Int := digitsValue digits
    let value := if signed.1 then -magnitude else magnitude
    let rest := signed.2.dropWhile isDigit
    if value < longMin then
      { value := longMin, rest := rest, noConversion := false,
        outOfRange := true }
    else if longMax < value then
      { value := longMax, rest := rest, noConversion := false,
        outOfRange := true }
    else
      { value := value, rest := rest, noConversion := false,
        outOfRange := false }

/-- `parse_int_strict`; `none` is the return value 0. -/
def parseIntStrict (text : Bytes) : Option Int :=
  if text = [] then none
  else
    let parsed := strtol text
    if parsed.outOfRange || parsed.noConversion || parsed.rest != [] then none
    else if parsed.value < intMin ∨ intMax < parsed.value then none
    else some parsed.value

/-!
## Paths and system errors
-/

def buildPath (dir name extension : Bytes) : Bytes :=
  dir ++ ascii "/" ++ name ++ extension

/-- The `errno` values the source tells apart, and the text of any other. -/
inductive Errno where
  | noEntry
  | notDirectory
  | illegalSequence
  | other (text : Bytes)
deriving DecidableEq

def strerror : Errno -> Bytes
  | .noEntry => ascii "No such file or directory"
  | .notDirectory => ascii "Not a directory"
  | .illegalSequence => ascii "Invalid or incomplete multibyte or wide character"
  | .other text => text

def messageSize : Nat := 256

/-- `snprintf` into a message buffer. -/
def message (text : Bytes) : Bytes :=
  snprintf messageSize text

def formatSystemError (action path : Bytes) (errno : Errno) : Bytes :=
  message (action ++ ascii " '" ++ path ++ ascii "': " ++ strerror errno)

/-!
## Display width
-/

def utf8DecodeCodepoint (text : Bytes) : Nat × Nat :=
  let b0 := text.getD 0 0
  let b1 := text.getD 1 0
  let b2 := text.getD 2 0
  let b3 := text.getD 3 0
  if b0 < 0x80 then (b0.toNat, 1)
  else if b0 &&& 0xE0 = 0xC0 ∧ b1 &&& 0xC0 = 0x80 then
    (((b0 &&& 0x1F).toNat <<< 6) ||| (b1 &&& 0x3F).toNat, 2)
  else if b0 &&& 0xF0 = 0xE0 ∧ b1 &&& 0xC0 = 0x80 ∧ b2 &&& 0xC0 = 0x80 then
    (((b0 &&& 0x0F).toNat <<< 12) ||| ((b1 &&& 0x3F).toNat <<< 6) |||
      (b2 &&& 0x3F).toNat, 3)
  else if b0 &&& 0xF8 = 0xF0 ∧ b1 &&& 0xC0 = 0x80 ∧ b2 &&& 0xC0 = 0x80 ∧
      b3 &&& 0xC0 = 0x80 then
    (((b0 &&& 0x07).toNat <<< 18) ||| ((b1 &&& 0x3F).toNat <<< 12) |||
      ((b2 &&& 0x3F).toNat <<< 6) ||| (b3 &&& 0x3F).toNat, 4)
  else (b0.toNat, 1)

def zeroWidthRanges : List (Nat × Nat) :=
  [(0x0300, 0x036F), (0x1AB0, 0x1AFF), (0x1DC0, 0x1DFF), (0x20D0, 0x20FF),
    (0xFE20, 0xFE2F)]

def doubleWidthRanges : List (Nat × Nat) :=
  [(0x1100, 0x115F), (0x2329, 0x232A), (0x2E80, 0xA4CF), (0xAC00, 0xD7A3),
    (0xF900, 0xFAFF), (0xFE10, 0xFE19), (0xFE30, 0xFE6F), (0xFF00, 0xFF60),
    (0xFFE0, 0xFFE6), (0x1F300, 0x1FAFF), (0x20000, 0x3FFFD)]

def inRanges (ranges : List (Nat × Nat)) (codepoint : Nat) : Bool :=
  ranges.any fun range => range.1 ≤ codepoint && codepoint ≤ range.2

def unicodeDisplayWidth (codepoint : Nat) : Nat :=
  if codepoint = 0 then 0
  else if inRanges zeroWidthRanges codepoint then 0
  else if inRanges doubleWidthRanges codepoint then 2
  else 1

def utf8DisplayWidthLoop : Nat -> Bytes -> Nat
  | 0, _ => 0
  | _, [] => 0
  | fuel + 1, b :: text =>
      let decoded := utf8DecodeCodepoint (b :: text)
      unicodeDisplayWidth decoded.1 +
        utf8DisplayWidthLoop fuel ((b :: text).drop decoded.2)

/-- `utf8_display_width`; every round takes at least one byte. -/
def utf8DisplayWidth (text : Bytes) : Nat :=
  utf8DisplayWidthLoop text.length text

/-!
## Facts about text
-/

theorem strstr_iff {text part : Bytes} :
    strstr text part = true <-> part <:+: text := by
  unfold strstr
  rw [List.any_eq_true]
  constructor
  · rintro ⟨tail, htail, hprefix⟩
    rw [List.mem_tails] at htail
    exact (List.isPrefixOf_iff_prefix.mp hprefix).isInfix.trans htail.isInfix
  · rintro ⟨left, right, rfl⟩
    refine ⟨part ++ right, ?_, ?_⟩
    · rw [List.mem_tails, List.append_assoc]
      exact List.suffix_append _ _
    · exact List.isPrefixOf_iff_prefix.mpr (List.prefix_append _ _)

theorem stripLineEndings_append_lineFeed (text : Bytes) :
    stripLineEndings (text ++ [Byte.lineFeed]) = stripLineEndings text := by
  unfold stripLineEndings
  rw [List.rdropWhile_concat_pos _ _ _ (by decide)]

theorem stripLineEndings_eq_self {text : Bytes}
    (h : forall b, b ∈ text -> isLineEnding b = false) :
    stripLineEndings text = text := by
  unfold stripLineEndings
  rw [List.rdropWhile_eq_self_iff]
  intro hne
  rw [h _ (List.getLast_mem hne)]
  simp

theorem lineText_append_lineFeed (line : Bytes) :
    stripLineEndings (cString (line ++ [Byte.lineFeed])) =
      stripLineEndings (cString line) := by
  by_cases hnul : NulFree line
  · have hnul' : NulFree (line ++ [Byte.lineFeed]) := by
      intro h
      rcases List.mem_append.mp h with h | h
      · exact hnul h
      · exact absurd h (by decide)
    rw [cString_eq_self hnul, cString_eq_self hnul',
      stripLineEndings_append_lineFeed]
  · have hcut : cString (line ++ [Byte.lineFeed]) = cString line := by
      unfold cString
      rw [List.takeWhile_append]
      split
      · rename_i hlength
        exfalso
        apply hnul
        have hall : line.takeWhile (fun b => b != Byte.nul) = line :=
          (List.takeWhile_prefix _).eq_of_length hlength
        intro hmem
        rw [← hall] at hmem
        simpa using List.mem_takeWhile_imp hmem
      · rfl
    rw [hcut]

theorem trimWhitespace_eq_self {text : Bytes}
    (hfirst : forall b, text.head? = some b -> isSpace b = false)
    (hlast : forall b, text.getLast? = some b -> isSpace b = false) :
    trimWhitespace text = text := by
  have hfront : text.dropWhile isSpace = text := by
    cases text with
    | nil => rfl
    | cons b text => simp [hfirst b rfl]
  unfold trimWhitespace
  rw [hfront, List.rdropWhile_eq_self_iff]
  intro hne
  rw [hlast _ (List.getLast?_eq_some_getLast hne)]
  simp

/-- A text with no byte for `trim_whitespace` to take off. -/
def NoOuterBlanks (text : Bytes) : Prop :=
  (forall b, text.head? = some b -> isSpace b = false) ∧
    forall b, text.getLast? = some b -> isSpace b = false

theorem trimWhitespace_eq_self_iff (text : Bytes) :
    trimWhitespace text = text <-> NoOuterBlanks text := by
  constructor
  · intro h
    have hshort : (trimWhitespace text).length ≤ (text.dropWhile isSpace).length :=
      (List.rdropWhile_prefix (p := isSpace) (text.dropWhile isSpace)).length_le
    have hfront : text.dropWhile isSpace = text := by
      apply (List.dropWhile_suffix isSpace).eq_of_length_le
      rwa [h] at hshort
    have hback : text.rdropWhile isSpace = text := by
      unfold trimWhitespace at h
      rwa [hfront] at h
    constructor
    · intro b hb
      cases text with
      | nil => simp at hb
      | cons first text =>
          have hfirst := List.dropWhile_eq_self_iff.mp hfront (by simp)
          have hsame : first = b := by simpa using hb
          rw [← hsame]
          simpa using hfirst
    · intro b hb
      rcases List.getLast?_eq_some_iff.mp hb with ⟨front, hfrontEq⟩
      have hne : text ≠ [] := by simp [hfrontEq]
      have hlast := List.rdropWhile_eq_self_iff.mp hback hne
      have hsame : text.getLast hne = b := by simp [hfrontEq]
      rw [hsame] at hlast
      simpa using hlast
  · intro h
    exact trimWhitespace_eq_self h.1 h.2

end Common
end SqlCsvServer
