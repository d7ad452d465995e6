import RouteParams.CommandLine.Program
import RouteParams.Proofs.Json.RoundTrip
import RouteParams.Proofs.Resolution.Growth
import RouteParams.Proofs.Resolution.Recursion

/-!
What the line of a successful resolution says. The line is one object, which holds the parameters under
their names and the fallbacks in their order, and a store can be read back from it. No name is printed
twice: the names of the parameters are distinct when the command has taken its words, and they stay so.
-/
namespace RouteParams

namespace Json

def text? : Json → Option String
  | .text value => some value
  | _ => none

end Json

namespace CommandLine

/-- A parameter is printed as a text or as an array of texts. -/
def boundValue? : Json → Option BoundValue
  | .text value => some (.one value)
  | .array items => (items.mapM Json.text?).map .many
  | _ => none

def fallback? : Json → Option Fallback
  | .object [("paramName", .text name), ("paramType", .text kind)] =>
    (ParamKind.ofText? kind).map fun kind => ⟨name, kind⟩
  | _ => none

/-- The store that a value reports: bound parameters in the order of its members, then fallbacks. -/
def store? : Json → Option Store
  | .object [("params", .object members), ("fallbacks", .array items)] => do
    let params ← members.mapM fun member => (boundValue? member.2).map fun value => (member.1, value)
    let fallbacks ← items.mapM fallback?
    pure ⟨params, fallbacks⟩
  | _ => none

/-- The store that a line of output reports. -/
def lineStore? (line : String) : Option Store :=
  (Json.read line.toList).toOption.bind store?

/-- Values that are written one by one are read back one by one. -/
theorem mapM_map_of_inverse {α β : Type} {write : α → β} {read : β → Option α}
    (inverse : ∀ item, read (write item) = some item) (items : List α) :
    (items.map write).mapM read = some items := by
  have composed : read ∘ write = fun item => pure item := funext inverse
  rw [List.mapM_map, composed, List.mapM_pure, List.map_id']
  rfl

theorem boundValue?_valueJson (value : BoundValue) : boundValue? (valueJson value) = some value := by
  cases value with
  | one text => rfl
  | many texts =>
    have read (text : String) : Json.text? (.text text) = some text := rfl
    rw [valueJson, boundValue?, mapM_map_of_inverse read]
    rfl

theorem fallback?_fallbackJson (fallback : Fallback) :
    fallback? (fallbackJson fallback) = some fallback := by
  rw [fallbackJson, fallback?, ParamKind.ofText?_text]
  rfl

theorem store?_storeJson (store : Store) : store? (storeJson store) = some store := by
  have entries (entry : String × BoundValue) :
      (boundValue? (valueJson entry.2)).map (fun value => (entry.1, value)) = some entry := by
    rw [boundValue?_valueJson]
    rfl
  rw [storeJson, store?, mapM_map_of_inverse fallback?_fallbackJson, mapM_map_of_inverse entries]
  rfl

theorem isPlain_valueJson (value : BoundValue) : (valueJson value).IsPlain := by
  cases value with
  | one text => exact .text text
  | many texts => exact .array (List.forall_mem_map.2 fun text _ => .text text)

theorem isPlain_fallbackJson (fallback : Fallback) : (fallbackJson fallback).IsPlain := by
  refine .object (by simp [NameTable.names]) ?_
  exact List.forall_mem_cons.2 ⟨.text _, List.forall_mem_singleton.2 (.text _)⟩

theorem isPlain_storeJson {store : Store} (distinct : store.params.names.Nodup) :
    (storeJson store).IsPlain := by
  refine .object (by simp [NameTable.names]) (List.forall_mem_cons.2 ⟨?_, List.forall_mem_singleton.2 ?_⟩)
  · refine .object ?_ (List.forall_mem_map.2 fun entry _ => isPlain_valueJson entry.2)
    rw [NameTable.names, List.map_map]
    exact distinct
  · exact .array (List.forall_mem_map.2 fun fallback _ => isPlain_fallbackJson fallback)

/-- The line of a store whose parameters have distinct names reports the store. -/
theorem lineStore?_print {store : Store} (distinct : store.params.names.Nodup) :
    lineStore? (storeJson store).print = some store := by
  have read : Json.read (storeJson store).print.toList = .ok (storeJson store) := by
    rw [Json.print, String.toList_ofList]
    exact Json.read_chars (isPlain_storeJson distinct)
  rw [lineStore?, read]
  exact store?_storeJson store

theorem isVisibleAscii_print {store : Store} (distinct : store.params.names.Nodup) :
    ∀ c ∈ (storeJson store).print.toList, Text.isVisibleAscii c = true := by
  rw [Json.print, String.toList_ofList]
  exact (isPlain_storeJson distinct).isVisibleAscii

end CommandLine

/-! ## The names of the parameters -/

theorem Seeds.nodup_names_addParam {params : NameTable BoundValue} (distinct : params.names.Nodup)
    (name text : String) : (addParam params name text).names.Nodup := by
  unfold addParam
  split
  · exact NameTable.nodup_names_put distinct
  · exact NameTable.nodup_names_put distinct

/-- What every step keeps holds after a run that ends. -/
theorem holds_of_foldlM {State Item Error : Type} {step : State → Item → Except Error State}
    (holds : State → Prop) (kept : ∀ state item next, step state item = .ok next → holds state → holds next)
    {items : List Item} {before after : State} (ended : items.foldlM step before = .ok after)
    (start : holds before) : holds after := by
  induction items generalizing before with
  | nil =>
    cases ended
    exact start
  | cons item items ih =>
    rw [List.foldlM_cons] at ended
    cases first : step before item with
    | error failure =>
      rw [first] at ended
      cases ended
    | ok next =>
      rw [first] at ended
      exact ih ended (kept before item next first start)

theorem Seeds.nodup_names_params {items : List String} {taken : NameTable BoundValue}
    (read : params items = .ok taken) : taken.names.Nodup := by
  refine holds_of_foldlM (fun params => (NameTable.names params).Nodup) ?_ read List.nodup_nil
  intro before item next added distinct
  split at added
  · cases added
  · cases added
    exact nodup_names_addParam distinct _ _

theorem Store.nodup_names_of_declares {options : Options} {route : Route} {store next : Store}
    {declaration : Declaration} (declares : Declares options route store declaration next)
    (distinct : store.params.names.Nodup) : next.params.names.Nodup := by
  cases declares with
  | known _ => exact distinct
  | left _ _ _ => exact distinct
  | recorded _ _ => exact distinct
  | bound _ _ _ => exact NameTable.nodup_names_put distinct

theorem LayoutTree.nodup_names_resolve {options : Options} {route : Route} {tree : LayoutTree}
    {store : Store} {progress : Progress} (resolved : tree.resolve options route store = .ok progress)
    (distinct : store.params.names.Nodup) : progress.store.params.names.Nodup := by
  have ending : (store.follow options route tree.declarations).store = progress.store := by
    rw [← ending_resolve, resolved, Ending.of]
  rw [← ending]
  exact Store.follow_preserves (fun reached => reached.params.names.Nodup) tree.declarations
    (fun _ _ _ _ declares => Store.nodup_names_of_declares declares) store distinct

end RouteParams
