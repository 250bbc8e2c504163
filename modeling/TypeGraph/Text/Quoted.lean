/-
Quoted text.

A text is shown between quote marks, with a backslash before anything that would
be misread.  The mark is the single quote, unless the text has a single quote and
no double one: then nothing has to be escaped if the double quote is used.
Hidden characters are written by code point, in the shortest of three widths that
holds it.
-/
import TypeGraph.Text.Printable

namespace TypeGraph.Text

/-- The single quote mark. -/
def singleQuote : Char := '\x27'

/-- The double quote mark. -/
def doubleQuote : Char := '\x22'

/-- The mark that goes around `s`. -/
def quoteMark (s : List Char) : Char :=
  if s.contains singleQuote && !s.contains doubleQuote then doubleQuote else singleQuote

/-- Leading zeros up to `width` characters; a longer text stays as it is. -/
def padLeft (width : Nat) (digits : List Char) : List Char :=
  List.replicate (width - digits.length) '0' ++ digits

/-- `n` in lower-case hexadecimal, with leading zeros up to `width` digits. -/
def hexPadded (width n : Nat) : List Char :=
  padLeft width (Nat.toDigits 16 n)

/-- A code point spelled out: two, four or eight hexadecimal digits, as many as it needs. -/
def codePoint (n : Nat) : List Char :=
  if n < 0x100 then '\\' :: 'x' :: hexPadded 2 n
  else if n < 0x10000 then '\\' :: 'u' :: hexPadded 4 n
  else '\\' :: 'U' :: hexPadded 8 n

/-- How one character is written between two `mark`s. -/
def escape (mark c : Char) : List Char :=
  if c = mark ∨ c = '\\' then ['\\', c]
  else if c = '\n' then ['\\', 'n']
  else if c = '\t' then ['\\', 't']
  else if c = '\r' then ['\\', 'r']
  else if isPrintable c then [c]
  else codePoint c.toNat

/-- The text between quote marks. -/
def quoted (s : String) : String :=
  let mark := quoteMark s.toList
  String.ofList (mark :: s.toList.flatMap (escape mark) ++ [mark])

end TypeGraph.Text
