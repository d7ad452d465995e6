import RouteParams.Proofs.Resolution.Lowering
import RouteParams.Proofs.Route.Aside

/-!
What resolution does not see of a pathname. The tokens that stand aside and the slashes around them leave a
route readable and its path as it was, and a resolution reads nothing else of the route: it leaves the same
store, and only the pathname of an exhaustion tells the two routes apart.
-/
namespace RouteParams.Resolution

open Pathname (Thins filled pieces)

variable {pathname other : String} {route route' : Route}

theorem lowers_of_path (options : Options) (path : route'.path = route.path) (raw : Raw)
    (store : Store) :
    Lowers route'.pathname 0 (ofRaw options route raw store) (ofRaw options route' raw store) := by
  cases read : LayoutTree.ofRaw raw with
  | error error =>
    rw [ofRaw_of_error read, ofRaw_of_error read]
    exact ⟨rfl, rfl⟩
  | ok tree =>
    have same : tree.declarations = tree.declarations.map (Declaration.lowered 0) :=
      (Declaration.lowered_zero tree.declarations).symm
    have behind : route'.path.drop 0 = route.path := path
    exact lowers_of_declarations behind read read same store

/-- Tokens that stand aside may be put into a pathname, and slashes around any token: the pathname is read
as before, its route shows the same, and every resolution does the same to the store and fails alike. -/
theorem unchanged_by_aside (read : Route.read false pathname = .ok route)
    (thins : Thins (filled (pieces other.toList)) (filled (pieces pathname.toList))) :
    ∃ route', Route.read false other = .ok route' ∧ Route.ShowsAlike route route' ∧
      ∀ (options : Options) (raw : Raw) (store : Store),
        Lowers other 0 (ofRaw options route raw store) (ofRaw options route' raw store) := by
  have same := (Pathname.essential_of_thins thins).symm
  obtain ⟨route', read'⟩ := Route.readable_of_essential same ⟨route, read⟩
  have path := Route.path_eq_of_essential same read read'
  have named : route'.pathname = other := by
    rw [Route.pathname_of_readChars read', String.ofList_toList]
  refine ⟨route', read', Route.showsAlike_of_essential same read read', ?_⟩
  intro options raw store
  have lowers := lowers_of_path options path raw store
  rw [named] at lowers
  exact lowers

/-- The route is halved at `(.)` and its second half at the `(..)` behind it. Two groups, a parallel route
and the slashes around them move neither the values nor the exhaustion. -/
theorem unchanged_by_three_aside :
    let pathname := "/x(..)/(.)(..)a/[id]"
    let other := "/(wide)/x(..)//@modal/(.)(..)a/[id]/(dim)/"
    let tree : LayoutTree := .node ""
      [("children", .node "[area]" [("children", .node "[part]" [("children", .node "[id]"
        [("children", .node "[...rest]" [])])])])]
    let half := "(..)a/[id]"
    let route : Route := .interception pathname false (PathToken.split pathname.toList) .sameLevel
      (.plain "/x(..)/" false (PathToken.split "/x(..)/".toList))
      (.interception half false (PathToken.split half.toList) .oneUp (.plain "" false [])
        (.plain "a/[id]" false (PathToken.split "a/[id]".toList)))
    Route.read false pathname = .ok route ∧
      Thins (filled (pieces other.toList)) (filled (pieces pathname.toList)) ∧
      ∃ route', Route.read false other = .ok route' ∧ Route.ShowsAlike route route' ∧
        (ofRaw {} route' (.tree tree) .empty).store =
          ⟨[("area", .one "x(..)"), ("part", .one "(.)(..)a")], [⟨"id", .dynamic⟩]⟩ ∧
        (ofRaw {} route' (.tree tree) .empty).failure?.map Failure.message =
          some ("Unexpected empty path segments match for route '/(wide)/x(..)//@modal/" ++
            "(.)(..)a/[id]/(dim)/' with catch-all param 'rest' at depth 3") := by
  intro pathname other tree half route
  have tokens : filled (pieces pathname.toList) =
      ["x(..)".toList, "(.)(..)a".toList, "[id]".toList] := by decide +kernel
  have others : filled (pieces other.toList) = ["(wide)".toList, "x(..)".toList,
      "@modal".toList, "(.)(..)a".toList, "[id]".toList, "(dim)".toList] := by decide +kernel
  have wide : IsAside "(wide)".toList := by decide +kernel
  have modal : IsAside "@modal".toList := by decide +kernel
  have dim : IsAside "(dim)".toList := by decide +kernel
  have thins : Thins (filled (pieces other.toList)) (filled (pieces pathname.toList)) := by
    rw [tokens, others]
    exact .deleted wide (.kept _ (.deleted modal (.kept _ (.kept _ (.deleted dim .nil)))))
  have read : Route.read false pathname = .ok route := by decide +kernel
  obtain ⟨route', read', alike, lowers⟩ := unchanged_by_aside read thins
  have lowered := lowers {} (.tree tree) .empty
  refine ⟨read, thins, route', read', alike, ?_, ?_⟩
  · rw [lowered.store]
    decide +kernel
  · rw [lowered.failure]
    decide +kernel

end RouteParams.Resolution
