import Karnaugh.Text.GraphemeExtend
import Karnaugh.Text.Invisible

set_option autoImplicit false

/-! # Quoted text

Messages show a text that someone typed between double quotes, so that its ends and its invisible
characters can be seen. The double quote, the backslash and the four usual controls are written with
a backslash; every other character that is invisible or joins its neighbour is written by its
number, `\u{hex}` in lower case without leading zeros; all else stands for itself. -/

namespace Karnaugh.Text

/-- The hexadecimal digits of a number, lower case, without leading zeros. -/
def hexDigits (n : Nat) : List Char :=
  Nat.toDigits 16 n

/-- The halfwidth sound marks of Katakana. They extend the character before them, but have a place of
    their own in the line, so that they can be seen. -/
def soundMarks : CharRanges :=
  [(0xff9e, 0xff9f)]

/-- A character that joins the one before it, so that it cannot be told from it when printed. -/
def isJoining (c : Char) : Bool :=
  graphemeExtend.contains c && !soundMarks.contains c

/-- A character that would not be seen for what it is when printed. -/
def isHidden (c : Char) : Bool :=
  isJoining c || invisible.contains c

/-- A character by its number. -/
def numbered (c : Char) : List Char :=
  '\\' :: 'u' :: '\x7b' :: hexDigits c.toNat ++ ['\x7d']

/-- How one character is written inside quotes. -/
def quotedChar (c : Char) : List Char :=
  if c = '\x00' then ['\\', '0']
  else if c = '\t' then ['\\', 't']
  else if c = '\r' then ['\\', 'r']
  else if c = '\n' then ['\\', 'n']
  else if c = '\x22' then ['\\', '\x22']
  else if c = '\\' then ['\\', '\\']
  else if isHidden c then numbered c
  else [c]

/-- A text between double quotes. -/
def quoted (text : String) : String :=
  String.ofList ('\x22' :: text.toList.flatMap quotedChar ++ ['\x22'])

end Karnaugh.Text
