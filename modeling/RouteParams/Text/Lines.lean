/-!
Ends of lines. A carriage return ends a line, alone or with the newline that follows it.
-/
namespace RouteParams.Text

/-- Writes every end of a line as one newline. -/
def unifyNewlines : List Char → List Char
  | [] => []
  | '\r' :: '\n' :: rest => '\n' :: unifyNewlines rest
  | '\r' :: rest => '\n' :: unifyNewlines rest
  | c :: rest => c :: unifyNewlines rest

def dropFinalNewline (text : List Char) : List Char :=
  if text.getLast? = some '\n' then text.dropLast else text

end RouteParams.Text
