import BlobRemote.Number.Hex
import BlobRemote.Text.Quoted
import BlobRemote.Text.Utf16

/-!
# Escapes of a property file

A backslash takes the meaning away from the character after it, except that `t`, `n`, `r` and `f`
stand for tab, line feed, carriage return and form feed, and `u` with four more characters for a
UTF-16 code unit. Here is the reader of one key or value (`BlobRemote.Property.unescape`) beside the
writer (`BlobRemote.Property.escapeKey` and `BlobRemote.Property.escapeValue`).
-/

namespace BlobRemote

namespace Property

/-- What makes a property file unreadable. -/
inductive Fault where
  /-- The file is not UTF-8. -/
  | undecodable (fault : Utf8.Fault)
  /-- Fewer than four characters follow `\u` in a key or a value. -/
  | shortEscape (text : String)
  /-- The characters after `\u` are no hexadecimal integer. -/
  | number (digits : String)
  /-- The integer after `\u` is no code point. -/
  | outOfRange
  /-- A surrogate stands without its partner in a key or a value. -/
  | surrogate
  deriving DecidableEq

/-- What is wrong, in words. -/
def Fault.message : Fault → String
  | .undecodable fault => fault.message
  | .shortEscape text => "Malformed \\uxxxx encoding: " ++ Quoted.text text
  | .number digits => "invalid literal for int() with base 16: " ++ Quoted.text digits
  | .outOfRange => "chr() arg not in range(0x110000)"
  | .surrogate => "'utf-16-le' codec can't decode bytes: unpaired surrogate"

/-! ### Reading -/

/-- The character that a letter stands for after a backslash. -/
def ofShort (c : Char) : Char :=
  if c = 't' then '\t'
  else if c = 'n' then '\n'
  else if c = 'r' then '\r'
  else if c = 'f' then '\x0c'
  else c

/-- The code units that the four characters after `\u` spell. -/
def escapedUnits (digits : List Char) : Except Fault (List Nat) :=
  match Number.readHex? digits with
  | none => .error (.number (String.ofList digits))
  | some n => if 0 ≤ n ∧ n < 0x110000 then .ok (Utf16.units n.toNat) else .error .outOfRange

/-- The code units that a text spells. A backslash at the very end stands for itself; `whole` is the
text to show if an escape is cut short. -/
def unitsOf (whole : List Char) : List Char → Except Fault (List Nat)
  | [] => .ok []
  | '\\' :: 'u' :: a :: b :: c :: d :: rest =>
    (escapedUnits [a, b, c, d]).bind fun units => (unitsOf whole rest).map (units ++ ·)
  | '\\' :: 'u' :: _ => .error (.shortEscape (String.ofList whole))
  | '\\' :: c :: rest => (unitsOf whole rest).map (Utf16.units (ofShort c).toNat ++ ·)
  | c :: rest => (unitsOf whole rest).map (Utf16.units c.toNat ++ ·)

/-- **The text that a key or a value spells.** -/
def unescape (s : List Char) : Except Fault (List Char) :=
  match unitsOf s s with
  | .error fault => .error fault
  | .ok units =>
    match Utf16.fold units with
    | some text => .ok text
    | none => .error .surrogate

/-! ### Writing -/

/-- The letter that stands for a character after a backslash. -/
def short? (c : Char) : Option Char :=
  if c = '\t' then some 't'
  else if c = '\n' then some 'n'
  else if c = '\r' then some 'r'
  else if c = '\x0c' then some 'f'
  else none

/-- A code unit by its number. -/
def escapeUnit (u : Nat) : List Char :=
  ['\\', 'u', Number.upperDigit (u / 0x1000 % 16), Number.upperDigit (u / 0x100 % 16),
    Number.upperDigit (u / 0x10 % 16), Number.upperDigit (u % 16)]

/-- Whether a character has a meaning of its own in a property file. -/
def isSpecial (c : Char) : Bool := c == '\\' || c == '=' || c == ':' || c == '#' || c == '!'

/-- A character other than a blank, as it is written. -/
def escapeChar (c : Char) : List Char :=
  match short? c with
  | some letter => ['\\', letter]
  | none =>
    if isSpecial c then ['\\', c]
    else if ' ' < c ∧ c ≤ '~' then [c]
    else (Utf16.units c.toNat).flatMap escapeUnit

/-- A key as it is written: every blank has a backslash. -/
def escapeKey (s : List Char) : List Char :=
  s.flatMap fun c => if c = ' ' then ['\\', ' '] else escapeChar c

/-- The inside of a value as it is written: a blank needs no backslash. -/
def escapeInner (s : List Char) : List Char :=
  s.flatMap fun c => if c = ' ' then [' '] else escapeChar c

/-- A value as it is written: only a blank at its beginning has a backslash. -/
def escapeValue : List Char → List Char
  | ' ' :: rest => '\\' :: ' ' :: escapeInner rest
  | s => escapeInner s

end Property

end BlobRemote
