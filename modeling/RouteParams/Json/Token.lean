import RouteParams.Json.Number
import RouteParams.Json.Text
import RouteParams.Text.Search

/-!
The tokens of a JSON text. A text or number that cannot be read is a token with its fault, since the
fault counts only where a value may stand; nothing after such a token is looked at.
-/
namespace RouteParams.Json

def words : List (List Char × Json) :=
  [(['n', 'u', 'l', 'l'], .null),
   (['t', 'r', 'u', 'e'], .bool true),
   (['f', 'a', 'l', 's', 'e'], .bool false),
   (['N', 'a', 'N'], .real .nan),
   (['I', 'n', 'f', 'i', 'n', 'i', 't', 'y'], .real (.infinite false)),
   (['-', 'I', 'n', 'f', 'i', 'n', 'i', 't', 'y'], .real (.infinite true))]

def word? (cs : List Char) : Option (Json × List Char) :=
  words.findSome? fun word => (word.1.isPrefixOf? cs).map (word.2, ·)

inductive Lexeme where
  | mark (c : Char)
  | text (content : Except Fault String)
  | scalar (value : Except Fault Json)

structure Token where
  lexeme : Lexeme
  place : List Char

def isMark (c : Char) : Bool :=
  c = '[' || c = ']' || c = '{' || c = '}' || c = ':' || c = ','

def isBlank (c : Char) : Bool :=
  c = ' ' || c = '\t' || c = '\n' || c = '\r'

def lexeme (c : Char) (rest : List Char) : Lexeme × List Char :=
  if isMark c then (.mark c, rest)
  else if c = '"' then
    match textUnits (c :: rest) rest with
    | .error fault => (.text (.error fault), [])
    | .ok (units, after) =>
      match joinUnits? units with
      | some chars => (.text (.ok (String.ofList chars)), after)
      | none => (.text (.error ⟨.halfAlone, c :: rest⟩), [])
  else match word? (c :: rest) with
    | some (value, after) => (.scalar (.ok value), after)
    | none =>
      match number? (c :: rest) with
      | some (.ok value, after) => (.scalar (.ok value), after)
      | some (.error problem, _) => (.scalar (.error ⟨problem, c :: rest⟩), [])
      | none => (.scalar (.error ⟨.valueExpected, c :: rest⟩), [])

theorem length_of_word? {cs after : List Char} {value : Json}
    (read : word? cs = some (value, after)) : after.length < cs.length := by
  obtain ⟨word, inside, found⟩ := List.exists_of_findSome?_eq_some read
  simp only [Option.map_eq_some_iff, Prod.mk.injEq] at found
  obtain ⟨rest, found, rfl, rfl⟩ := found
  have whole := congrArg List.length (Text.isPrefixOf?_eq_some found)
  have nonempty : 0 < word.1.length := by
    simp only [words, List.mem_cons, List.not_mem_nil, or_false] at inside
    rcases inside with rfl | rfl | rfl | rfl | rfl | rfl <;> decide
  simp only [List.length_append] at whole
  omega

/-- What follows a lexeme is no longer than what follows its first character. -/
theorem length_lexeme (c : Char) (rest : List Char) :
    (lexeme c rest).2.length ≤ rest.length := by
  unfold lexeme
  split
  · simp
  · split
    · split
      · simp
      · rename_i read
        split
        · exact Nat.le_of_lt (length_of_textUnits read)
        · simp
    · split
      · rename_i read
        exact Nat.le_of_lt_succ (length_of_word? read)
      · split
        · rename_i read
          exact Nat.le_of_lt_succ (length_of_number? read)
        · simp
        · simp

def tokens (cs : List Char) : List Token :=
  match cs with
  | [] => []
  | c :: rest =>
    if isBlank c then tokens rest
    else ⟨(lexeme c rest).1, c :: rest⟩ :: tokens (lexeme c rest).2
termination_by cs.length
decreasing_by
  · simp
  · exact Nat.lt_succ_of_le (length_lexeme c rest)

end RouteParams.Json
