import SlotLang.Text.DefaultIgnorable
import SlotLang.Text.GraphemeExtend
import SlotLang.Text.Unprintable

/-!
# Quoted text

Messages show names between double quotes.  Quotes and backslashes inside a
name are escaped, the common control characters have short escapes, and every
other character that cannot be shown on its own is written as its code point in
hexadecimal.  An apostrophe needs no escape.
-/

namespace SlotLang.Text

/-- The voiced and semi-voiced sound marks of halfwidth katakana.  They extend
the character before them but are letters and take up a cell of their own. -/
def isHalfwidthSoundMark (char : Char) : Bool :=
  char.toNat == 0xFF9E || char.toNat == 0xFF9F

/-- Whether a character would merge with the one before it. -/
def mergesBackward (char : Char) : Bool :=
  isGraphemeExtend char && !isHalfwidthSoundMark char

/-- Whether a character is written as its code point: it would merge with the
character before it, or would not be seen at all. -/
def needsCodePoint (char : Char) : Bool :=
  mergesBackward char || isUnprintable char || isDefaultIgnorable char

/-- The code point form of a character, in lower-case hexadecimal. -/
def codePointEscape (char : Char) : List Char :=
  ['\\', 'u', '\x7b'] ++ Nat.toDigits 16 char.toNat ++ ['\x7d']

/-- One character of a quoted text. -/
def quotedChar (char : Char) : List Char :=
  match char with
  | '"' => ['\\', '"']
  | '\\' => ['\\', '\\']
  | '\n' => ['\\', 'n']
  | '\r' => ['\\', 'r']
  | '\t' => ['\\', 't']
  | '\x00' => ['\\', '0']
  | _ => if needsCodePoint char then codePointEscape char else [char]

/-- A text between double quotes, with everything escaped that needs it. -/
def quoted (text : String) : String :=
  "\"" ++ String.ofList (text.toList.flatMap quotedChar) ++ "\""

/-- A list of quoted texts between brackets. -/
def quotedList (texts : List String) : String :=
  "[" ++ String.intercalate ", " (texts.map quoted) ++ "]"

end SlotLang.Text
