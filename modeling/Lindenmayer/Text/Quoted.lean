import Lindenmayer.Text.Combining
import Lindenmayer.Text.Invisible

set_option autoImplicit false

/-! # A character in single quotes

A message that shows an offending character quotes it, and writes what a reader could not see as an
escape: so the quoted form never breaks the line it stands in. -/

namespace Lindenmayer.Text

/-- A code point in lower-case hexadecimal digits without padding, as `\u` and braces. -/
def codePointEscape (c : Char) : List Char :=
  '\\' :: 'u' :: '\x7b' :: (Nat.toDigits 16 c.toNat ++ ['\x7d'])

/-- A character as it stands between single quotes: NUL, tab, carriage return, newline, the single
quote and the backslash by a letter, other invisible or combining characters by their code point,
and everything else as it is. -/
def escaped (c : Char) : List Char :=
  if c = '\x00' then ['\\', '0']
  else if c = '\t' then ['\\', 't']
  else if c = '\r' then ['\\', 'r']
  else if c = '\n' then ['\\', 'n']
  else if c = '\x27' then ['\\', '\x27']
  else if c = '\\' then ['\\', '\\']
  else if isCombining c || isInvisible c then codePointEscape c
  else [c]

/-- A character in single quotes. -/
def quoted (c : Char) : String := String.ofList ('\x27' :: (escaped c ++ ['\x27']))

end Lindenmayer.Text
