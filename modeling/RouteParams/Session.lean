import RouteParams.Fallback.Kind
import RouteParams.Fallback.Page

/-!
Sessions. A session keeps a store, a route, options and a supply of ids; a request that fails leaves
what it had already changed.
-/
namespace RouteParams

structure Session where
  store : Store := .empty
  route? : Option Route := none
  options : Options := {}
  supply : IdSupply := .fresh

namespace Session

inductive Request where
  | route (normalized : Bool) (pathname : String)
  | configure (options : Options)
  | bind (name : String) (value : BoundValue)
  | unbind (name : String)
  | seed (name kind : String)
  | clearFallbacks
  | resolve (tree : Raw)
  | searchKeys
  | page (pathname : String) (tree : Raw)
  | placeholder (index : Int)

inductive Reply where
  | done
  | path (texts : List String)
  | keys (keys? : Option (NameTable SearchKey))
  | answer (value : Bool)
  | failed (failure : Failure)
  | unknownKind (error : UnknownKind)

/-- Answers one request. Without a route there is nothing to resolve against and no placeholder. -/
def handle (session : Session) : Request → Reply × Session
  | .route normalized pathname =>
    match Route.read normalized pathname with
    | .error error => (.failed (.route error), session)
    | .ok route => (.path route.pathTexts, { session with route? := some route })
  | .configure options => (.done, { session with options := options })
  | .bind name value => (.done, { session with store := session.store.bind name value })
  | .unbind name =>
    let params := session.store.params.erase name
    (.done, { session with store := { session.store with params := params } })
  | .seed name kind =>
    match ParamKind.read kind with
    | .error error => (.unknownKind error, session)
    | .ok kind => (.done, { session with store := session.store.record name kind })
  | .clearFallbacks =>
    (.done, { session with store := { session.store with fallbacks := [] } })
  | .resolve tree =>
    match session.route? with
    | none => (.done, session)
    | some route =>
      let resolution := Resolution.ofRaw session.options route tree session.store
      (resolution.failure?.elim .done .failed, { session with store := resolution.store })
  | .searchKeys =>
    let (keys?, supply) := SearchKey.assign session.store.fallbacks session.supply
    (.keys keys?, { session with supply := supply })
  | .page pathname tree =>
    match Page.searchKeys session.options pathname tree session.supply with
    | (.error failure, supply) => (.failed failure, { session with supply := supply })
    | (.ok keys?, supply) => (.keys keys?, { session with supply := supply })
  | .placeholder index =>
    (.answer (session.route?.any fun route => route.isPlaceholder index), session)

/-- Answers requests one after the other: each reply, with the session that it leaves to the next request. -/
def run (session : Session) : List Request → List (Reply × Session)
  | [] => []
  | request :: later =>
    let answer := session.handle request
    answer :: answer.2.run later

end Session
end RouteParams
