import RouteParams.Resolution.Journal
import RouteParams.Resolution.Ruling
import RouteParams.Route.Reader
import RouteParams.Tree.Reader
import RouteParams.Tree.Walk

/-!
Resolution of a layout tree against a route. Every node that declares a parameter not yet known is
settled by the ruling of the route at its depth. A run that stops keeps what it had done before.
-/
namespace RouteParams

structure Progress where
  store : Store
  journal : List Event
  deriving DecidableEq

/-- A run that met an exhausted catch-all, with the progress up to it. -/
structure Stopped where
  cause : Exhaustion
  progress : Progress
  deriving DecidableEq

namespace Progress

def start (store : Store) : Progress := ⟨store, []⟩

def note (progress : Progress) (event : Event) : Progress :=
  { progress with journal := progress.journal ++ [event] }

def bind (progress : Progress) (name : String) (value : BoundValue) (depth : Nat) : Progress :=
  note { progress with store := progress.store.bind name value } (.bound name value depth)

def record (progress : Progress) (name : String) (kind : ParamKind) (depth : Nat) : Progress :=
  note { progress with store := progress.store.record name kind } (.recorded name kind depth)

def settle (route : Route) (kind : ParamKind) (name : String) (depth : Nat)
    (progress : Progress) : Except Stopped Progress :=
  match route.ruling kind depth with
  | .bind value => .ok (progress.bind name value depth)
  | .record kind => .ok (progress.record name kind depth)
  | .leave => .ok progress
  | .exhausted =>
    .error ⟨⟨name, route.pathname, depth⟩, progress.note (.exhausted name depth route.pathname)⟩

def step (options : Options) (route : Route) (progress : Progress) (visit : Visit) :
    Except Stopped Progress :=
  match visit.form with
  | .param kind name =>
    if progress.store.knows options name then .ok progress
    else settle route kind name visit.depth progress
  | _ => .ok progress

end Progress

def LayoutTree.resolveFrom (options : Options) (route : Route) (depth : Nat) (tree : LayoutTree)
    (store : Store) : Except Stopped Progress :=
  LayoutTree.walk (Progress.step options route) [(tree, depth)] (.start store)

def LayoutTree.resolve (options : Options) (route : Route) (tree : LayoutTree) (store : Store) :
    Except Stopped Progress :=
  tree.resolveFrom options route 0 store

inductive Failure where
  | route (error : RouteError)
  | tree (error : TreeError)
  | exhausted (exhaustion : Exhaustion)

def Failure.message : Failure → String
  | .route error => error.message
  | .tree error => error.message
  | .exhausted exhaustion => exhaustion.message

structure Resolution where
  progress : Progress
  failure? : Option Failure

namespace Resolution

def store (resolution : Resolution) : Store :=
  resolution.progress.store

/-- Resolves against a route what the reading of a tree has given. A tree that cannot be read leaves the
store as it was. -/
def ofReading (options : Options) (route : Route) (reading : Except TreeError LayoutTree)
    (store : Store) : Resolution :=
  match reading with
  | .error error => ⟨.start store, some (.tree error)⟩
  | .ok tree =>
    match tree.resolve options route store with
    | .error stopped => ⟨stopped.progress, some (.exhausted stopped.cause)⟩
    | .ok progress => ⟨progress, none⟩

def ofRaw (options : Options) (route : Route) (raw : Raw) (store : Store) : Resolution :=
  ofReading options route (LayoutTree.ofRaw raw) store

def ofPathname (options : Options) (normalized : Bool) (pathname : String) (raw : Raw)
    (store : Store) : Resolution :=
  match Route.read normalized pathname with
  | .error error => ⟨.start store, some (.route error)⟩
  | .ok route => ofRaw options route raw store

end Resolution
end RouteParams
