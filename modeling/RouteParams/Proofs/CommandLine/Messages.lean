import RouteParams.CommandLine.Resolve
import RouteParams.Proofs.Text.Visible

/-!
The messages of the resolve command. A message is put together from fixed words, numbers, and names and
values in their quoted form, so it stands on one line whatever it is about.
-/
namespace RouteParams

open Text

namespace Raw

variable {parts : List String}

theorem isVisible_enclosed {front back : String} (opening : IsVisible front) (closing : IsVisible back)
    (each : ∀ part ∈ parts, IsVisible part) : IsVisible (front ++ commaSeparated parts ++ back) :=
  (opening.append (isVisible_commaSeparated each)).append closing

theorem isVisible_bracketed (each : ∀ part ∈ parts, IsVisible part) : IsVisible (bracketed parts) :=
  isVisible_enclosed (by decide) (by decide) each

theorem isVisible_braced (each : ∀ part ∈ parts, IsVisible part) : IsVisible (braced parts) :=
  isVisible_enclosed (by decide) (by decide) each

theorem isVisible_parenthesized (each : ∀ part ∈ parts, IsVisible part) :
    IsVisible (parenthesized parts) := by
  fun_cases parenthesized parts with
  | case1 part =>
    have only := each part (List.mem_singleton.2 rfl)
    exact (IsVisible.append (by decide) only).append (by decide)
  | case2 => exact isVisible_enclosed (by decide) (by decide) each

/-- A slot of a tree and an entry of a mapping are shown in this form. -/
theorem isVisible_labelled {label content : String} (name : IsVisible label) (value : IsVisible content) :
    IsVisible (label ++ ": " ++ content) :=
  (name.append (by decide)).append value

mutual

theorem isVisible_shownTree : (tree : LayoutTree) → IsVisible (shownTree tree)
  | .node segment slots => by
    have opened : IsVisible ("LoaderTree(segment=" ++ quoted segment) :=
      .append (by decide) (isVisible_quoted segment)
    have within : IsVisible (braced (shownSlots slots)) := isVisible_braced (isVisible_shownSlots slots)
    exact ((opened.append (by decide)).append within).append (by decide)

theorem isVisible_shownSlots :
    (slots : List (String × LayoutTree)) → ∀ part ∈ shownSlots slots, IsVisible part
  | [] => fun _ inside => absurd inside List.not_mem_nil
  | (name, child) :: rest => List.forall_mem_cons.2
    ⟨isVisible_labelled (isVisible_quoted name) (isVisible_shownTree child), isVisible_shownSlots rest⟩

end

mutual

theorem isVisible_shown : (value : Raw) → IsVisible (shown value)
  | .null => by decide
  | .bool true => by decide
  | .bool false => by decide
  | .integer value => isVisible_int value
  | .real value => isVisible_real value
  | .text value => isVisible_quoted value
  | .octets value => isVisible_quotedOctets value
  | .buffer value => (IsVisible.append (by decide) (isVisible_quotedBuffer value)).append (by decide)
  | .list items => isVisible_bracketed (isVisible_shownItems items)
  | .tuple items => isVisible_parenthesized (isVisible_shownItems items)
  | .mapping entries => isVisible_braced (isVisible_shownEntries entries)
  | .tree value => isVisible_shownTree value

theorem isVisible_shownItems : (items : List Raw) → ∀ part ∈ shownItems items, IsVisible part
  | [] => fun _ inside => absurd inside List.not_mem_nil
  | item :: rest => List.forall_mem_cons.2 ⟨isVisible_shown item, isVisible_shownItems rest⟩

theorem isVisible_shownEntries :
    (entries : List (Raw × Raw)) → ∀ part ∈ shownEntries entries, IsVisible part
  | [] => fun _ inside => absurd inside List.not_mem_nil
  | (key, value) :: rest => List.forall_mem_cons.2
    ⟨isVisible_labelled (isVisible_shown key) (isVisible_shown value), isVisible_shownEntries rest⟩

end

theorem isVisible_typeName (value : Raw) : IsVisible value.typeName := by
  unfold typeName
  split <;> decide

end Raw

theorem Text.Utf8.Fault.isVisible_message (fault : Utf8.Fault) : IsVisible fault.message := by
  have reason : IsVisible fault.reason.text := by
    cases fault.reason <;> decide
  have place : IsVisible (if fault.count = 1 then
      "byte 0x" ++ String.ofList (hexDigits 2 fault.first.toNat) ++ " in position " ++ toString fault.position
      else "bytes in position " ++ toString fault.position ++ "-"
        ++ toString (fault.position + fault.count - 1)) := by
    split
    · have octet : IsVisible (String.ofList (hexDigits 2 fault.first.toNat)) :=
        isVisible_ofList.2 fun c inside =>
          isPrintable_of_isVisibleAscii (isVisibleAscii_of_mem_hexDigits c inside)
      exact ((IsVisible.append (by decide) octet).append (by decide)).append (isVisible_nat _)
    · exact ((IsVisible.append (by decide) (isVisible_nat _)).append (by decide)).append (isVisible_nat _)
  exact ((IsVisible.append (by decide) place).append (by decide)).append reason

theorem Text.isVisible_tooManyDigits (digits : Nat) : IsVisible (tooManyDigits digits) :=
  (IsVisible.append (by decide) (isVisible_nat digits)).append (by decide)

theorem Json.Problem.isVisible_text (problem : Json.Problem) : IsVisible problem.text := by
  cases problem with
  | integerTooLong digits =>
    have front := (isVisible_tooManyDigits integerDigits).append (by decide : IsVisible ": value has ")
    exact ((front.append (isVisible_nat digits)).append (by decide)).append (by decide)
  | _ => decide

theorem Json.Fault.isVisible_message (fault : Json.Fault) (text : List Char) :
    IsVisible (fault.message text) := by
  have problem := fault.problem.isVisible_text
  unfold Json.Fault.message
  dsimp only
  split
  · refine .append (.append (.append ?_ (by decide)) (isVisible_nat _)) (by decide)
    refine .append (.append ?_ (by decide)) (isVisible_nat _)
    exact (problem.append (by decide)).append (isVisible_nat _)
  · exact problem

theorem UnknownKind.isVisible_message (error : UnknownKind) : IsVisible error.message := by
  unfold message
  split
  · exact error.value.isVisible_shown.append (by decide)
  · exact (isVisible_tooManyDigits integerDigits).append (by decide)

theorem SeedError.isVisible_message (error : SeedError) : IsVisible error.message := by
  cases error with
  | paramForm item => exact .append (by decide) (isVisible_quoted item)
  | fallbackForm item => exact .append (by decide) (isVisible_quoted item)
  | kind error => exact error.isVisible_message

theorem TreeError.isVisible_message (error : TreeError) : IsVisible error.message := by
  cases error with
  | segmentMissing value => exact .append (by decide) value.isVisible_shown
  | tooShort value => exact .append (by decide) value.isVisible_shown
  | notANode value => exact .append (by decide) value.isVisible_typeName
  | segmentNotText segment => exact .append (by decide) segment.isVisible_shown
  | slotsNotMapping segment => exact (IsVisible.append (by decide) (isVisible_quoted segment)).append (by decide)
  | integerTooLong digits => exact (isVisible_tooManyDigits digits).append (by decide)

theorem TokenKind.isVisible_label (kind : TokenKind) : IsVisible kind.label := by
  unfold TokenKind.label
  split <;> decide

theorem RouteError.isVisible_message (error : RouteError) : IsVisible error.message := by
  cases error with
  | notInPath pathname token =>
    have front := ((isVisible_quoted pathname).append
      (by decide : IsVisible " is being parsed as a normalized route, but it has a ")).append
        token.kind.isVisible_label
    exact ((front.append (by decide)).append (isVisible_quoted token.text)).append (by decide)
  | markerRepeated pathname => exact .append (by decide) (isVisible_quoted pathname)

theorem Exhaustion.isVisible_message (exhaustion : Exhaustion) : IsVisible exhaustion.message := by
  have route : IsVisible ("Unexpected empty path segments match for route " ++ quoted exhaustion.pathname) :=
    .append (by decide) (isVisible_quoted _)
  have param := (route.append (by decide : IsVisible " with catch-all param ")).append
    (isVisible_quoted exhaustion.name)
  exact (param.append (by decide)).append (isVisible_int exhaustion.depth)

namespace CommandLine

theorem FileError.isVisible_message (error : FileError) : IsVisible error.message := by
  cases error with
  | missing path => exact .append (by decide) (isVisible_quoted path)
  | denied path => exact .append (by decide) (isVisible_quoted path)
  | notDirectory path => exact .append (by decide) (isVisible_quoted path)
  | isDirectory path => exact .append (by decide) (isVisible_quoted path)
  | nameTooLong path => exact .append (by decide) (isVisible_quoted path)
  | nullCharacter => decide

theorem ResolveError.isVisible_message (error : ResolveError) : IsVisible error.message := by
  cases error with
  | file error => exact error.isVisible_message
  | encoding fault => exact fault.isVisible_message
  | json text fault => exact fault.isVisible_message text
  | seeds error => exact error.isVisible_message
  | tree error => exact error.isVisible_message
  | route error => exact error.isVisible_message
  | exhausted exhaustion => exact exhaustion.isVisible_message

end CommandLine
end RouteParams
