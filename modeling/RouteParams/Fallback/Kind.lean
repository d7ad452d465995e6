import RouteParams.Segment.Basic
import RouteParams.Tree.Raw

/-!
Reading the kind of a fallback from a value. Only the three texts of the kinds are valid.
-/
namespace RouteParams

structure UnknownKind where
  value : Raw

namespace UnknownKind

def message (error : UnknownKind) : String :=
  if error.value.isWritable Text.integerDigits then error.value.shown ++ " is not a valid ParamType"
  else Text.tooManyDigits Text.integerDigits ++ Text.raiseTheLimit

end UnknownKind

namespace ParamKind

def ofRaw (value : Raw) : Except UnknownKind ParamKind :=
  match value with
  | .text text => (ofText? text).elim (.error ⟨value⟩) .ok
  | _ => .error ⟨value⟩

def read (text : String) : Except UnknownKind ParamKind :=
  ofRaw (.text text)

end ParamKind
end RouteParams
