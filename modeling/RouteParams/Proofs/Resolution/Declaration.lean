import RouteParams.Proofs.Tree.Preorder
import RouteParams.Resolution.Ruling

/-!
What the path says about a declared parameter, position by position. A dynamic parameter takes the
position at which it stands and a catch-all takes all positions from there to the end; the rule that
follows from these positions is the ruling of the route.
-/
namespace RouteParams

namespace Route

def length (route : Route) : Nat :=
  route.pathTexts.length

theorem length_path (route : Route) : route.path.length = route.length :=
  (List.length_map PathToken.text).symm

theorem isPlaceholder_natCast (route : Route) (index : Nat) :
    route.isPlaceholder index = route.path[index]?.any PathToken.isPlaceholder :=
  rfl

end Route

/-- The kind with which a parameter is recorded. Catch-alls of both kinds are recorded alike. -/
def ParamKind.recorded : ParamKind → ParamKind
  | .dynamic => .dynamic
  | .catchAll => .catchAll
  | .optionalCatchAll => .catchAll

structure Declaration where
  kind : ParamKind
  name : String
  position : Nat
  deriving DecidableEq

def Visit.declaration? (visit : Visit) : Option Declaration :=
  match visit.form with
  | .param kind name => some ⟨kind, name, visit.depth⟩
  | _ => none

theorem Visit.declaration?_of_not_isParam {visit : Visit} (silent : visit.form.isParam = false) :
    visit.declaration? = none := by
  obtain ⟨form, depth⟩ := visit
  cases form with
  | param kind name => cases silent
  | root => rfl
  | group name => rfl
  | interception marker name => rfl
  | literal text => rfl

theorem Visit.eq_of_declaration? {visit : Visit} {declaration : Declaration}
    (declares : visit.declaration? = some declaration) :
    visit = ⟨.param declaration.kind declaration.name, declaration.position⟩ := by
  obtain ⟨form, depth⟩ := visit
  cases form with
  | param kind name => cases declares; rfl
  | root => cases declares
  | group name => cases declares
  | interception marker name => cases declares
  | literal text => cases declares

def Place.declaration? (place : Place) : Option Declaration :=
  place.visit.declaration?

theorem filterMap_cons_toList {α β : Type} (f : α → Option β) (first : α) (rest : List α) :
    (first :: rest).filterMap f = (f first).toList ++ rest.filterMap f := by
  cases called : f first with
  | none => rw [List.filterMap_cons_none called]; rfl
  | some item => rw [List.filterMap_cons_some called]; rfl

def declared (places : List Place) : List Declaration :=
  places.filterMap Place.declaration?

theorem declared_cons_of_none {place : Place} (none : place.declaration? = none)
    (rest : List Place) : declared (place :: rest) = declared rest :=
  List.filterMap_cons_none none

theorem declared_cons_of_some {place : Place} {declaration : Declaration}
    (some : place.declaration? = some declaration) (rest : List Place) :
    declared (place :: rest) = declaration :: declared rest :=
  List.filterMap_cons_some some

def LayoutTree.declarations (tree : LayoutTree) : List Declaration :=
  declared tree.places

theorem LayoutTree.declarations_eq_visits (tree : LayoutTree) :
    tree.declarations = (visits 0 tree).filterMap Visit.declaration? := by
  rw [visits_eq_places, List.filterMap_map]
  rfl

namespace Declaration

/-- The positions of the path that the parameter takes. -/
def range (route : Route) (declaration : Declaration) : List Nat :=
  match declaration.kind with
  | .dynamic => [declaration.position]
  | _ => List.range' declaration.position (route.length - declaration.position)

def isPast (route : Route) (declaration : Declaration) : Bool :=
  decide (route.length ≤ declaration.position)

def isBlocked (route : Route) (declaration : Declaration) : Bool :=
  (declaration.range route).any fun index => route.isPlaceholder index

/-- What a parameter that stands inside the path takes from it. -/
def value (route : Route) (declaration : Declaration) : BoundValue :=
  match declaration.kind with
  | .dynamic => .one (route.pathTexts.getD declaration.position "")
  | _ => .many (route.pathTexts.drop declaration.position)

/-- What becomes of a parameter that is not known when its node is met. -/
def rule (route : Route) (declaration : Declaration) : Ruling :=
  if declaration.isPast route then
    match declaration.kind with
    | .dynamic => .record .dynamic
    | .catchAll => .exhausted
    | .optionalCatchAll => .leave
  else if declaration.isBlocked route then .record declaration.kind.recorded
  else .bind (declaration.value route)

variable {route : Route} {declaration : Declaration}

theorem isPast_iff : declaration.isPast route = true ↔ route.length ≤ declaration.position :=
  decide_eq_true_iff

theorem not_isPast_of_isBlocked (blocked : declaration.isBlocked route = true) :
    declaration.isPast route = false := by
  apply Bool.eq_false_iff.2
  intro past
  have bound := isPast_iff.1 past
  have absent : route.path[declaration.position]? = none :=
    List.getElem?_eq_none (by rw [Route.length_path]; exact bound)
  have empty : route.length - declaration.position = 0 := Nat.sub_eq_zero_of_le bound
  rw [isBlocked, range] at blocked
  split at blocked
  · simp [Route.isPlaceholder_natCast, absent] at blocked
  · simp [empty] at blocked

end Declaration

private theorem any_range_eq_any_drop {α : Type} (items : List α) (start : Nat) (p : α → Bool) :
    (List.range' start (items.length - start)).any (fun index => items[index]?.any p) =
      (items.drop start).any p := by
  apply Bool.eq_iff_iff.2
  simp only [List.any_eq_true, List.mem_range'_1, Option.any_eq_true, List.mem_drop_iff_getElem]
  constructor
  · rintro ⟨index, ⟨from_start, _⟩, item, found, holds⟩
    obtain ⟨bound, rfl⟩ := List.getElem?_eq_some_iff.1 found
    exact ⟨items[index], ⟨index - start, by omega, by simp [Nat.add_sub_cancel' from_start]⟩, holds⟩
  · rintro ⟨item, ⟨offset, bound, rfl⟩, holds⟩
    exact ⟨start + offset, by omega, _, List.getElem?_eq_getElem (by omega), holds⟩

namespace Declaration

theorem isBlocked_dynamic {route : Route} {name : String} {position : Nat} {token : PathToken}
    {rest : List PathToken} (here : route.path.drop position = token :: rest) :
    isBlocked route ⟨.dynamic, name, position⟩ = token.isPlaceholder := by
  have found : route.path[position]? = some token := by
    rw [← List.head?_drop, here, List.head?_cons]
  simp [isBlocked, range, Route.isPlaceholder_natCast, found]

theorem isBlocked_rest {route : Route} {declaration : Declaration}
    (many : declaration.kind ≠ .dynamic) :
    declaration.isBlocked route =
      (route.path.drop declaration.position).any PathToken.isPlaceholder := by
  rw [← any_range_eq_any_drop, Route.length_path, isBlocked, range]
  split
  · exact absurd ‹_› many
  · rfl

end Declaration

theorem Route.ruling_eq_rule (route : Route) (declaration : Declaration) :
    route.ruling declaration.kind declaration.position = declaration.rule route := by
  obtain ⟨kind, name, position⟩ := declaration
  have texts : route.pathTexts.drop position = (route.path.drop position).map PathToken.text :=
    List.map_drop.symm
  cases here : route.path.drop position with
  | nil =>
    have past : Declaration.isPast route ⟨kind, name, position⟩ = true :=
      Declaration.isPast_iff.2 (by rw [← Route.length_path]; exact List.drop_eq_nil_iff.1 here)
    rw [Route.ruling, Declaration.rule, here, if_pos past]
    cases kind <;> rfl
  | cons token rest =>
    have inside : ¬Declaration.isPast route ⟨kind, name, position⟩ = true := by
      intro past
      have bound := Declaration.isPast_iff.1 past
      rw [← Route.length_path] at bound
      rw [List.drop_eq_nil_iff.2 bound] at here
      cases here
    rw [Route.ruling, Declaration.rule, here, if_neg inside]
    cases kind with
    | dynamic =>
      have first : route.pathTexts.getD position "" = token.text := by
        rw [List.getD_eq_getElem?_getD, ← List.head?_drop, texts, here]
        rfl
      rw [Declaration.isBlocked_dynamic here, Declaration.value, first]
      rfl
    | catchAll =>
      rw [Declaration.isBlocked_rest (by simp), Declaration.value, texts, here]
      rfl
    | optionalCatchAll =>
      rw [Declaration.isBlocked_rest (by simp), Declaration.value, texts, here]
      rfl

end RouteParams
