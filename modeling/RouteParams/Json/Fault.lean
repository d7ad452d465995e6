import RouteParams.Text.Digits

/-!
What can be wrong with a JSON text, and where. A fault holds the text from its place to the end, from
which the line, the column and the offset follow.
-/
namespace RouteParams.Json

inductive Problem where
  | valueExpected
  | nameExpected
  | colonExpected
  | commaExpected
  | extraData
  | textUnended
  | controlCharacter
  | unknownEscape
  | hexExpected
  | byteOrderMark
  | integerTooLong (digits : Nat)
  /-- A text holds half of a surrogate pair alone, so it is no sequence of characters and cannot be held
  here. Such a text is not faulty JSON; what follows from it is left open. -/
  | halfAlone
  deriving DecidableEq

namespace Problem

def text : Problem → String
  | .valueExpected => "Expecting value"
  | .nameExpected => "Expecting property name enclosed in double quotes"
  | .colonExpected => "Expecting ':' delimiter"
  | .commaExpected => "Expecting ',' delimiter"
  | .extraData => "Extra data"
  | .textUnended => "Unterminated string starting at"
  | .controlCharacter => "Invalid control character at"
  | .unknownEscape => "Invalid \\escape"
  | .hexExpected => "Invalid \\uXXXX escape"
  | .byteOrderMark => "Unexpected UTF-8 BOM (decode using utf-8-sig)"
  | .integerTooLong digits =>
    Text.tooManyDigits Text.integerDigits ++ ": value has " ++ toString digits ++ " digits"
      ++ Text.raiseTheLimit
  | .halfAlone => "Half of a surrogate pair stands alone"

/-- An integer that is too long is reported without its place. -/
def hasPlace : Problem → Bool
  | .integerTooLong _ => false
  | _ => true

end Problem

structure Fault where
  problem : Problem
  rest : List Char
  deriving DecidableEq

namespace Fault

def before (text : List Char) (fault : Fault) : List Char :=
  text.take (text.length - fault.rest.length)

/-- Lines and columns are counted from one and offsets from zero. -/
def message (text : List Char) (fault : Fault) : String :=
  let before := fault.before text
  let line := before.count '\n' + 1
  let column := (before.reverse.takeWhile (· != '\n')).length + 1
  if fault.problem.hasPlace then
    fault.problem.text ++ ": line " ++ toString line ++ " column " ++ toString column
      ++ " (char " ++ toString before.length ++ ")"
  else fault.problem.text

end Fault
end RouteParams.Json
