import RouteParams.Text.DecimalDigit
import RouteParams.Text.Lines
import RouteParams.Text.Quoted
import RouteParams.Text.Search

/-!
Command line arguments. A grammar has switches, which begin with a dash, and slots, which are filled in
order by the words between them. A long switch may be shortened as long as it stays unmistakable, and
after two dashes every word is plain. Words that nothing takes are left over.
-/
namespace RouteParams.CommandLine

inductive Effect where
  | help
  | flag
  | value
  deriving DecidableEq

/-- A switch has long names, of two dashes and a word, and perhaps a short one, of a dash and a letter.
Only a switch without a short name takes a text. -/
structure Switch where
  names : List String
  effect : Effect
  deriving DecidableEq

/-- How many words a slot takes: one, one or more plain ones, or everything from a plain one on. -/
inductive Arity where
  | one
  | several
  | remainder
  deriving DecidableEq

structure Slot where
  name : String
  arity : Arity
  required : Bool
  deriving DecidableEq

structure Grammar where
  program : String
  usage : String
  help : String
  switches : List Switch
  slots : List Slot

/-- The role of a word. A switch by its long name may have a text after an equals sign in the same word.
A short switch may be followed by letters, each a short switch too, and before the first of them an
equals sign may stand that says nothing. -/
inductive Role where
  | plain
  | separator
  | switch (found : Switch) (text? : Option (List Char))
  | letters (first : Switch) (others : List Char)
  | unknown
  deriving DecidableEq

structure Word where
  text : String
  role : Role
  deriving DecidableEq

/-- Why the words are not carried out: help was asked for, or a word is wrong. -/
inductive Stop where
  | help
  | wrong (message : String)
  deriving DecidableEq

namespace Switch

def title (switch : Switch) : String :=
  String.intercalate "/" switch.names

def wrong (switch : Switch) (complaint : String) : Stop :=
  .wrong ("argument " ++ switch.title ++ ": " ++ complaint)

def ignoredText (switch : Switch) (text : List Char) : Stop :=
  switch.wrong ("ignored explicit argument " ++ Text.quoted (String.ofList text))

end Switch

def isNegativeNumber (text : List Char) : Bool :=
  match Text.dropFinalNewline text with
  | '-' :: rest =>
    let after := rest.dropWhile Text.isDecimalDigit
    match after with
    | [] => !rest.isEmpty
    | '.' :: fraction => !fraction.isEmpty && fraction.all Text.isDecimalDigit
    | _ => false
  | _ => false

namespace Grammar

def named? (grammar : Grammar) (name : List Char) : Option Switch :=
  grammar.switches.find? fun switch => switch.names.contains (String.ofList name)

def assignment (text : List Char) : List Char × Option (List Char) :=
  match Text.breakOn? ['='] text with
  | some (name, value) => (name, some value)
  | none => (text, none)

def assignedRole (name : List Char) (switch : Switch) (text : List Char) : Role :=
  if ['-', '-'].isPrefixOf name then .switch switch (some text) else .letters switch text

def completions (grammar : Grammar) (start : List Char) : List (String × Switch) :=
  grammar.switches.flatMap fun switch =>
    (switch.names.filter fun name => start.isPrefixOf name.toList).map (·, switch)

/-- The role of a word that is no switch of the grammar. A negative number or a word with a space in
it is plain even with a dash in front. -/
def unnamedRole (text : List Char) : Role :=
  if isNegativeNumber text || text.contains ' ' then .plain else .unknown

def abbreviatedRole (grammar : Grammar) (text : List Char) : Except Stop Role :=
  match text with
  | '-' :: '-' :: _ =>
    let (start, text?) := assignment text
    match grammar.completions start with
    | [] => .ok (unnamedRole text)
    | [(_, switch)] => .ok (.switch switch text?)
    | several =>
      .error (.wrong ("ambiguous option: " ++ String.ofList text ++ " could match "
        ++ String.intercalate ", " (several.map Prod.fst)))
  | '-' :: letter :: rest =>
    match grammar.named? ['-', letter] with
    | some switch => .ok (.letters switch rest)
    | none => .ok (unnamedRole text)
  | _ => .ok .plain

def role (grammar : Grammar) (text : List Char) : Except Stop Role :=
  if text.head? ≠ some '-' ∨ text = ['-'] then .ok .plain
  else match grammar.named? text with
    | some switch => .ok (.switch switch none)
    | none =>
      match assignment text with
      | (_, none) => grammar.abbreviatedRole text
      | (name, some value) =>
        match grammar.named? name with
        | some switch => .ok (assignedRole name switch value)
        | none => grammar.abbreviatedRole text

def words (grammar : Grammar) : List String → Except Stop (List Word)
  | [] => .ok []
  | text :: rest =>
    if text = "--" then .ok (⟨text, .separator⟩ :: rest.map (⟨·, .plain⟩))
    else do
      let role ← grammar.role text.toList
      let others ← words grammar rest
      pure (⟨text, role⟩ :: others)

end Grammar

/-- Texts under the name of the slot that took them or of the switch that they belong to. -/
structure Setting where
  name : String
  texts : List String
  deriving DecidableEq

structure Reading where
  slots : List Slot
  settings : List Setting
  leftovers : List String
  deriving DecidableEq

namespace Reading

def set (reading : Reading) (name : String) (texts : List String) : Reading :=
  { reading with settings := reading.settings ++ [⟨name, texts⟩] }

def leave (reading : Reading) (text : String) : Reading :=
  { reading with leftovers := reading.leftovers ++ [text] }

def texts (reading : Reading) (name : String) : List String :=
  (reading.settings.filter fun setting => setting.name == name).flatMap Setting.texts

def mentions (reading : Reading) (name : String) : Bool :=
  reading.settings.any fun setting => setting.name == name

end Reading

/-- The words that a slot takes from the front, and what remains. The two dashes go with the word next
to them, and only a slot for everything keeps them. -/
def Arity.take? : Arity → List Word → Option (List String × List Word)
  | .one, ⟨text, .plain⟩ :: ⟨_, .separator⟩ :: rest => some ([text], rest)
  | .one, ⟨text, .plain⟩ :: rest => some ([text], rest)
  | .one, ⟨_, .separator⟩ :: ⟨text, .plain⟩ :: rest => some ([text], rest)
  | .several, words =>
    let taken := words.takeWhile fun word => word.role = .plain || word.role = .separator
    let texts := (taken.filter fun word => word.role = .plain).map Word.text
    if texts.isEmpty then none else some (texts, words.drop taken.length)
  | .remainder, words =>
    match words.map Word.role with
    | .plain :: _ => some (words.map Word.text, [])
    | .separator :: .plain :: _ => some (words.map Word.text, [])
    | _ => none
  | _, _ => none

def fill (reading : Reading) (words : List Word) : List Slot → Reading × List Word
  | [] => ({ reading with slots := [] }, words)
  | slot :: rest =>
    match slot.arity.take? words with
    | none => ({ reading with slots := slot :: rest }, words)
    | some (texts, others) => fill (reading.set slot.name texts) others rest

namespace Grammar

/-- The short switches in one word. Nothing in it is carried out if one letter is no switch. -/
def cluster (grammar : Grammar) (switch : Switch) : List Char → Except Stop (List Switch)
  | [] => .error (switch.ignoredText [])
  | letter :: rest =>
    match grammar.named? ['-', letter], rest with
    | none, _ => .error (switch.ignoredText (letter :: rest))
    | some next, [] => .ok [switch, next]
    | some next, others => (cluster grammar next others).map (switch :: ·)

def perform (reading : Reading) (switch : Switch) : Except Stop Reading :=
  match switch.effect with
  | .help => .error .help
  | _ => .ok (reading.set switch.title [])

def readWords (grammar : Grammar) (reading : Reading) (words : List Word) :
    Except Stop Reading :=
  match words with
  | [] => .ok reading
  | word :: rest =>
    match word.role with
    | .switch switch text? =>
      match switch.effect, text? with
      | .value, some text =>
        readWords grammar (reading.set switch.title [String.ofList text]) rest
      | .value, none =>
        match rest with
        | ⟨text, .plain⟩ :: others => readWords grammar (reading.set switch.title [text]) others
        | _ => .error (switch.wrong "expected one argument")
      | _, some text => .error (switch.ignoredText text)
      | _, none => do
        let next ← perform reading switch
        readWords grammar next rest
    | .letters switch letters => do
      let switches ← grammar.cluster switch letters
      let next ← switches.foldlM perform reading
      readWords grammar next rest
    | .unknown => readWords grammar (reading.leave word.text) rest
    | _ =>
      let (filled, others) := fill reading (word :: rest) reading.slots
      if others.length ≤ rest.length then readWords grammar filled others
      else readWords grammar (reading.leave word.text) rest
termination_by words.length

def read (grammar : Grammar) (texts : List String) : Except Stop Reading := do
  let words ← grammar.words texts
  let reading ← grammar.readWords ⟨grammar.slots, [], []⟩ words
  match reading.slots.filter Slot.required with
  | [] => pure reading
  | missing =>
    .error (.wrong ("the following arguments are required: "
      ++ String.intercalate ", " (missing.map Slot.name)))

end Grammar
end RouteParams.CommandLine
