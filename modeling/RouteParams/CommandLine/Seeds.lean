import RouteParams.Fallback.Kind
import RouteParams.Resolution.Store
import RouteParams.Text.Search

/-!
Parameters and fallbacks given on the command line. A parameter is written NAME=VALUE, and a name
given more than once is bound to the list of its values; a fallback is written NAME:TYPE. Each is
divided at its first sign.
-/
namespace RouteParams

inductive SeedError where
  | paramForm (item : String)
  | fallbackForm (item : String)
  | kind (error : UnknownKind)

namespace SeedError

def message : SeedError → String
  | .paramForm item => "Expected NAME=VALUE, got " ++ Text.quoted item
  | .fallbackForm item => "Expected NAME:TYPE, got " ++ Text.quoted item
  | .kind error => error.message

end SeedError

namespace Seeds

/-- The name before the first sign and the text after it; a name must not be empty. -/
def divide? (sign : Char) (item : String) : Option (String × String) :=
  match Text.breakOn? [sign] item.toList with
  | some (name, value) =>
    if name.isEmpty then none else some (String.ofList name, String.ofList value)
  | none => none

/-- A second value makes the first the head of a list. -/
def extend (value : BoundValue) (text : String) : BoundValue :=
  match value with
  | .one first => .many [first, text]
  | .many texts => .many (texts ++ [text])

def addParam (params : NameTable BoundValue) (name text : String) : NameTable BoundValue :=
  match params.lookup name with
  | none => params.put name (.one text)
  | some value => params.put name (extend value text)

def params (items : List String) : Except SeedError (NameTable BoundValue) :=
  items.foldlM (fun params item =>
    match divide? '=' item with
    | none => .error (.paramForm item)
    | some (name, text) => .ok (addParam params name text)) []

def fallback (item : String) : Except SeedError Fallback :=
  match divide? ':' item with
  | none => .error (.fallbackForm item)
  | some (name, text) =>
    match ParamKind.read text with
    | .error error => .error (.kind error)
    | .ok kind => .ok ⟨name, kind⟩

def fallbacks (items : List String) : Except SeedError (List Fallback) :=
  items.mapM fallback

end Seeds
end RouteParams
