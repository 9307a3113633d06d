import Mathlib.Data.List.DropRight

/-!
# Byte strings

C strings and file contents are lists of bytes.  A string constant of the
source is written with `ascii`, a C character test is a Boolean predicate
on one byte in the C locale, and `cString` is what the string functions of
C see of a buffer: the bytes in front of the first NUL.
-/

namespace SqlCsvServer
namespace Foundation

abbrev Byte := UInt8

abbrev Bytes := List Byte

/-- The bytes of a text constant. -/
def ascii (text : String) : Bytes :=
  text.toUTF8.data.toList

namespace Byte

abbrev nul : Byte := 0x00
abbrev tab : Byte := 0x09
abbrev lineFeed : Byte := 0x0A
abbrev carriageReturn : Byte := 0x0D
abbrev space : Byte := 0x20
abbrev doubleQuote : Byte := 0x22
abbrev singleQuote : Byte := 0x27
abbrev comma : Byte := 0x2C
abbrev backslash : Byte := 0x5C

end Byte

/-!
## Character classes of the C locale
-/

def isSpace (b : Byte) : Bool :=
  b == 0x20 || (0x09 ≤ b && b ≤ 0x0D)

def isDigit (b : Byte) : Bool :=
  0x30 ≤ b && b ≤ 0x39

def isAlpha (b : Byte) : Bool :=
  (0x41 ≤ b && b ≤ 0x5A) || (0x61 ≤ b && b ≤ 0x7A)

def toLower (b : Byte) : Byte :=
  if 0x41 ≤ b && b ≤ 0x5A then b + 0x20 else b

instance (priority := low) {p : Byte -> Prop} [DecidablePred p] :
    Decidable (forall b, p b) :=
  decidable_of_iff (forall n : Fin 256, p (UInt8.ofFin n))
    ⟨fun h b => h b.toFin, fun h n => h (UInt8.ofFin n)⟩

/-- The part of a buffer in front of its first NUL. -/
def cString (buffer : Bytes) : Bytes :=
  buffer.takeWhile (fun b => b != Byte.nul)

/-- A value that a C string can hold. -/
def NulFree (text : Bytes) : Prop :=
  Byte.nul ∉ text

instance (text : Bytes) : Decidable (NulFree text) :=
  inferInstanceAs (Decidable (Byte.nul ∉ text))

theorem cString_eq_self {text : Bytes} (h : NulFree text) :
    cString text = text := by
  unfold cString
  rw [List.takeWhile_eq_self_iff]
  intro b hb
  have hne : b ≠ Byte.nul := fun hnul => h (hnul ▸ hb)
  simpa using hne

def snprintf (size : Nat) (text : Bytes) : Bytes :=
  text.take (size - 1)

/-- The digits %d and %zu print for a number that is not negative. -/
def decimalNat (n : Nat) : Bytes :=
  (Nat.toDigits 10 n).map fun c => c.toNat.toUInt8

def decimalInt (n : Int) : Bytes :=
  if n < 0 then ascii "-" ++ decimalNat n.natAbs else decimalNat n.natAbs

end Foundation
end SqlCsvServer
