import Mathlib.Algebra.Group.Nat.Defs

/-! # Text functions that compute in the kernel

The string functions programs use to clean up and check their inputs, on the characters of the
string, so that `decide` evaluates them.
-/

namespace Foundations.Text

/-- The characters with the Unicode property `White_Space`. -/
def isWhitespace (character : Char) : Bool :=
  let code := character.toNat
  (9 ≤ code && code ≤ 13) || code == 0x20 || code == 0x85 || code == 0xA0 || code == 0x1680 ||
    (0x2000 ≤ code && code ≤ 0x200A) || code == 0x2028 || code == 0x2029 || code == 0x202F ||
    code == 0x205F || code == 0x3000

def trim (text : String) : String :=
  String.ofList ((text.toList.dropWhile isWhitespace).reverse.dropWhile isWhitespace).reverse

def isAsciiUpper (character : Char) : Bool := 'A' ≤ character && character ≤ 'Z'

def isAsciiDigit (character : Char) : Bool := '0' ≤ character && character ≤ '9'

def isAsciiAlphabetic (character : Char) : Bool :=
  isAsciiUpper character || ('a' ≤ character && character ≤ 'z')

def isAsciiAlphanumeric (character : Char) : Bool :=
  isAsciiAlphabetic character || isAsciiDigit character

def toAsciiLowercase (text : String) : String :=
  String.ofList (text.toList.map fun character =>
    if isAsciiUpper character then Char.ofNat (character.toNat + 32) else character)

private def splitCharacters (separator : Char) : List Char → List (List Char)
  | [] => [[]]
  | character :: characters =>
    match splitCharacters separator characters with
    | [] => [[character]]
    | part :: parts =>
      if character = separator then [] :: part :: parts else (character :: part) :: parts

/-- The parts between the separators, one more than there are separators. -/
def split (separator : Char) (text : String) : List String :=
  (splitCharacters separator text.toList).map String.ofList

private def containsCharacters (part : List Char) : List Char → Bool
  | [] => part.isEmpty
  | character :: characters =>
    part.isPrefixOf (character :: characters) || containsCharacters part characters

def contains (text part : String) : Bool := containsCharacters part.toList text.toList

def bytes (text : String) : List Nat := text.toUTF8.data.toList.map UInt8.toNat

private def decimalDigits (digits : List Char) : Option Nat :=
  if digits.isEmpty || !digits.all isAsciiDigit then none
  else some (digits.foldl (fun value digit => value * 10 + (digit.toNat - 48)) 0)

/-- A decimal integer of 64 bits with an optional sign; `none` also when it does not fit. -/
def parseI64 (text : String) : Option Int :=
  match text.toList with
  | '-' :: digits => (decimalDigits digits).bind fun value =>
    if value ≤ 2 ^ 63 then some (-value) else none
  | '+' :: digits => (decimalDigits digits).bind fun value =>
    if value < 2 ^ 63 then some value else none
  | digits => (decimalDigits digits).bind fun value =>
    if value < 2 ^ 63 then some value else none

/-- A decimal number of 32 bits with an optional plus sign; `none` also when it does not fit. -/
def parseU32 (text : String) : Option Nat :=
  let digits := match text.toList with
    | '+' :: digits => digits
    | digits => digits
  (decimalDigits digits).bind fun value => if value < 2 ^ 32 then some value else none

def fnv1a64 (bytes : List Nat) : Nat :=
  bytes.foldl (fun hash byte => ((hash ^^^ byte) * 0x100000001b3) % 2 ^ 64) 0xcbf29ce484222325

/-- Lower-case hexadecimal digits, filled up with zeros on the left to sixteen. -/
def hex16 (value : Nat) : String :=
  let digits := Nat.toDigits 16 value
  String.ofList (List.replicate (16 - digits.length) '0' ++ digits)

/-- Decimal digits, filled up with zeros on the left. -/
def padDecimal (width value : Nat) : String :=
  let digits := toString value
  String.ofList (List.replicate (width - digits.length) '0') ++ digits

end Foundations.Text
