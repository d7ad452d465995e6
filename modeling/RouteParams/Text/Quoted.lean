import RouteParams.Text.Printable
import RouteParams.Text.Digits

/-!
The quoted form of a text and of a string of octets, as messages show them. The enclosing mark and
the backslash are escaped, and so is every character without a visible form, so that a quoted text
stays on one line and ends at its own mark.
-/
namespace RouteParams.Text

/-- A text is enclosed in single marks unless it holds a single mark and no double one. -/
def enclosingMark (text : List Char) : Char :=
  if text.contains '\'' && !text.contains '"' then '"' else '\''

def escaped (mark c : Char) : List Char :=
  if c = mark ∨ c = '\\' then ['\\', c]
  else if c = '\n' then ['\\', 'n']
  else if c = '\r' then ['\\', 'r']
  else if c = '\t' then ['\\', 't']
  else if isPrintable c then [c]
  else if c.toNat < 0x100 then '\\' :: 'x' :: hexDigits 2 c.toNat
  else if c.toNat < 0x10000 then '\\' :: 'u' :: hexDigits 4 c.toNat
  else '\\' :: 'U' :: hexDigits 8 c.toNat

def quotedChars (text : List Char) : List Char :=
  let mark := enclosingMark text
  mark :: (text.flatMap (escaped mark) ++ [mark])

def quoted (text : String) : String :=
  String.ofList (quotedChars text.toList)

/-- Octets are shown through the characters of the same number; those outside ASCII are escaped. -/
def octetChars (octets : List UInt8) : List Char :=
  octets.map fun octet => Char.ofNat octet.toNat

def escapedOctet (mark c : Char) : List Char :=
  if c.toNat < 0x80 then escaped mark c else '\\' :: 'x' :: hexDigits 2 c.toNat

def quotedOctets (octets : List UInt8) : String :=
  let chars := octetChars octets
  let mark := enclosingMark chars
  String.ofList ('b' :: mark :: (chars.flatMap (escapedOctet mark) ++ [mark]))

/-- A growing string of octets is shown with its single marks escaped whichever mark encloses it. -/
def quotedBuffer (octets : List UInt8) : String :=
  let chars := octetChars octets
  let mark := enclosingMark chars
  String.ofList ('b' :: mark :: (chars.flatMap (escapedOctet '\'') ++ [mark]))

end RouteParams.Text
