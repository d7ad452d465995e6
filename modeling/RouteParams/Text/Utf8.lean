import RouteParams.Text.Digits

/-!
Reading octets as text in UTF-8. The octets that follow a leading octet have a range each, which keeps
out overlong forms, surrogates and what lies beyond the last code point.
-/
namespace RouteParams.Text.Utf8

/-- A character whose leading octet has been read: the bits so far, the range of the next octet and
the number of octets still due. -/
structure Pending where
  first : UInt8
  taken : Nat
  bits : Nat
  low : UInt8
  high : UInt8
  due : Nat
  deriving DecidableEq

inductive Reason where
  | start
  | continuation
  | ending
  deriving DecidableEq

namespace Reason

def text : Reason → String
  | .start => "invalid start byte"
  | .continuation => "invalid continuation byte"
  | .ending => "unexpected end of data"

end Reason

/-- The octets that cannot be read: the first of them, where it stands and how many there are. -/
structure Fault where
  first : UInt8
  position : Nat
  count : Nat
  reason : Reason
  deriving DecidableEq

namespace Fault

def message (fault : Fault) : String :=
  "'utf-8' codec can't decode "
    ++ (if fault.count = 1 then
        "byte 0x" ++ String.ofList (hexDigits 2 fault.first.toNat) ++ " in position "
          ++ toString fault.position
      else
        "bytes in position " ++ toString fault.position ++ "-"
          ++ toString (fault.position + fault.count - 1))
    ++ ": " ++ fault.reason.text

end Fault

/-- The ranges of leading octets: first and last octet, range of the next octet and octets due. -/
def leads : List (UInt8 × UInt8 × UInt8 × UInt8 × Nat) :=
  [(0xc2, 0xdf, 0x80, 0xbf, 1),
   (0xe0, 0xe0, 0xa0, 0xbf, 2),
   (0xe1, 0xec, 0x80, 0xbf, 2),
   (0xed, 0xed, 0x80, 0x9f, 2),
   (0xee, 0xef, 0x80, 0xbf, 2),
   (0xf0, 0xf0, 0x90, 0xbf, 3),
   (0xf1, 0xf3, 0x80, 0xbf, 3),
   (0xf4, 0xf4, 0x80, 0x8f, 3)]

/-- What a leading octet announces. It holds as many bits less than six as octets are due. -/
def announced? (octet : UInt8) : Option Pending :=
  leads.findSome? fun (first, last, low, high, due) =>
    if first ≤ octet ∧ octet ≤ last then
      some ⟨octet, 1, octet.toNat % Nat.pow 2 (6 - due), low, high, due⟩
    else none

/-- The characters read so far, the last of them first, and the number of octets taken. -/
structure Reading where
  chars : List Char
  position : Nat
  pending? : Option Pending
  deriving DecidableEq

def begin (reading : Reading) (octet : UInt8) : Except Fault Reading :=
  if octet < 0x80 then
    .ok ⟨Char.ofNat octet.toNat :: reading.chars, reading.position + 1, none⟩
  else match announced? octet with
    | none => .error ⟨octet, reading.position, 1, .start⟩
    | some pending => .ok ⟨reading.chars, reading.position + 1, some pending⟩

def resume (reading : Reading) (pending : Pending) (octet : UInt8) : Except Fault Reading :=
  if pending.low ≤ octet ∧ octet ≤ pending.high then
    let bits := pending.bits * 64 + octet.toNat % 64
    if pending.due ≤ 1 then .ok ⟨Char.ofNat bits :: reading.chars, reading.position + 1, none⟩
    else
      .ok ⟨reading.chars, reading.position + 1,
        some ⟨pending.first, pending.taken + 1, bits, 0x80, 0xbf, pending.due - 1⟩⟩
  else .error ⟨pending.first, reading.position - pending.taken, pending.taken, .continuation⟩

def step (reading : Reading) (octet : UInt8) : Except Fault Reading :=
  match reading.pending? with
  | none => begin reading octet
  | some pending => resume reading pending octet

def finish (reading : Reading) : Except Fault (List Char) :=
  match reading.pending? with
  | none => .ok reading.chars.reverse
  | some pending =>
    .error ⟨pending.first, reading.position - pending.taken, pending.taken, .ending⟩

def decode (octets : List UInt8) : Except Fault (List Char) := do
  finish (← octets.foldlM step ⟨[], 0, none⟩)

end RouteParams.Text.Utf8
