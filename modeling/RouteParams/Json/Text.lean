import RouteParams.Json.Fault
import RouteParams.Text.Digits

/-!
Reading a text in a JSON text. Escapes by number are UTF-16 code units, which are joined to
characters once the whole text is read. A text in which half of a surrogate pair stands alone is kept
apart from all others.
-/
namespace RouteParams.Json

def isHigh (unit : Nat) : Bool :=
  0xd800 ≤ unit && unit < 0xdc00

def isLow (unit : Nat) : Bool :=
  0xdc00 ≤ unit && unit < 0xe000

/-- The character of one code unit. Half of a pair is no character. -/
def unitChar? (unit : Nat) : Option Char :=
  if isHigh unit || isLow unit then none else some (Char.ofNat unit)

/-- The characters of code units, if no half of a pair stands alone among them. A high half followed by
a low half makes one character. -/
def joinUnits? : List Nat → Option (List Char)
  | [] => some []
  | [unit] => (unitChar? unit).map fun c => [c]
  | first :: second :: rest =>
    if isHigh first && isLow second then
      (joinUnits? rest).map
        (Char.ofNat (0x10000 + (first - 0xd800) * 0x400 + (second - 0xdc00)) :: ·)
    else do
      let c ← unitChar? first
      let others ← joinUnits? (second :: rest)
      pure (c :: others)

def escapeValue? : Char → Option Char
  | '"' => some '"'
  | '\\' => some '\\'
  | '/' => some '/'
  | 'b' => some '\x08'
  | 'f' => some '\x0c'
  | 'n' => some '\n'
  | 'r' => some '\r'
  | 't' => some '\t'
  | _ => none

def hexNumber? (digits : List Char) : Option Nat :=
  digits.foldlM (fun number digit => (Text.hexValue? digit).map (16 * number + ·)) 0

/-- The code units of a text up to its closing mark, and what follows it. The text began at `whole`,
and an escape by number must not be the last thing there is. -/
def textUnits (whole : List Char) : List Char → Except Fault (List Nat × List Char)
  | [] => .error ⟨.textUnended, whole⟩
  | '"' :: rest => .ok ([], rest)
  | ['\\'] => .error ⟨.textUnended, whole⟩
  | '\\' :: 'u' :: a :: b :: c :: d :: rest =>
    match hexNumber? [a, b, c, d] with
    | none => .error ⟨.hexExpected, 'u' :: a :: b :: c :: d :: rest⟩
    | some unit =>
      if rest.isEmpty then .error ⟨.hexExpected, 'u' :: a :: b :: c :: d :: rest⟩
      else (textUnits whole rest).map fun read => (unit :: read.1, read.2)
  | '\\' :: 'u' :: rest => .error ⟨.hexExpected, 'u' :: rest⟩
  | '\\' :: letter :: rest =>
    match escapeValue? letter with
    | none => .error ⟨.unknownEscape, '\\' :: letter :: rest⟩
    | some c => (textUnits whole rest).map fun read => (c.toNat :: read.1, read.2)
  | c :: rest =>
    if c.toNat < 0x20 then .error ⟨.controlCharacter, c :: rest⟩
    else (textUnits whole rest).map fun read => (c.toNat :: read.1, read.2)

theorem length_of_textUnits {whole cs after : List Char} {units : List Nat}
    (read : textUnits whole cs = .ok (units, after)) : after.length < cs.length := by
  fun_induction textUnits whole cs generalizing units after <;>
    simp_all [Except.map] <;> grind

end RouteParams.Json
