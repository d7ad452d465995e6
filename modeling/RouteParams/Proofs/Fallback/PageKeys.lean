import RouteParams.Fallback.Kind
import RouteParams.Fallback.Page
import RouteParams.Proofs.Fallback.Keys
import RouteParams.Proofs.Resolution.Growth
import RouteParams.Proofs.Route.Placeholder
import RouteParams.Proofs.Tree.Faults

/-!
The keys of a page. A page that cannot be read fails before its tree is looked at; otherwise the tree is
walked with the placeholders of the page recorded beforehand. Keys go to the placeholders first, with the
kinds they declare, and then to the other names that the walk records; whether recorded names count as
known makes no difference to them.
-/
namespace RouteParams.Page

/-- The walk of a page's tree: no params are bound and the placeholders are recorded. -/
def walk (options : Options) (route : Route) (reading : Except TreeError LayoutTree) : Resolution :=
  Resolution.ofReading options route reading ⟨[], declared route⟩

/-- The first placeholder of each name, and then the first record of each name that no placeholder
has. -/
def keyed (route : Route) (recorded : List Fallback) : List Fallback :=
  Fallback.firsts (declared route) ++ Fallback.firsts (recorded.filter fun fallback =>
    !(declared route).any fun placeholder => placeholder.name == fallback.name)

/-- What a page answers when the walk of its tree records some fallbacks and leaves a store. -/
structure Answers (route : Route) (tree : LayoutTree) (left : Store) (recorded : List Fallback)
    (keys? : Option (NameTable SearchKey)) : Prop where
  fallbacks : left.fallbacks = declared route ++ recorded
  keys : keys?.map SearchKey.codes =
    if keyed route recorded = [] then none else some ((keyed route recorded).map Fallback.coded)
  codes : ∀ fallback ∈ recorded, fallback.kind.letters = "d" ∨ fallback.kind.letters = "c"
  silent : ∀ declaration ∈ tree.declarations, left.mentions declaration.name = false →
    declaration.kind = .optionalCatchAll ∧ route.length ≤ declaration.position

variable {options : Options} {page : String} {reading : Except TreeError LayoutTree} {route : Route}
  {tree : LayoutTree}

theorem declared_eq {normalized : Bool} (read : Route.read normalized page = .ok route) :
    declared route = route.placeholders.map fun placeholder => ⟨placeholder.1, placeholder.2⟩ := by
  have named : ∀ placeholder ∈ route.placeholders, (placeholder.1 != "") = true := by
    intro placeholder member
    exact bne_iff_ne.2 (Route.placeholder_named read member)
  rw [declared, List.filter_eq_self.2 named]

theorem letters_recorded (kind : ParamKind) :
    kind.recorded.letters = "d" ∨ kind.recorded.letters = "c" := by
  cases kind with
  | dynamic => exact .inl rfl
  | catchAll => exact .inr rfl
  | optionalCatchAll => exact .inr rfl

theorem keysOfReading_of_error {error : RouteError}
    (fails : Route.read options.normalizedPages page = .error error) (supply : IdSupply) :
    (keysOfReading options page reading supply).1 = .error (.route error) := by
  rw [keysOfReading, fallbacks, fails]

theorem keysOfReading_of_read (read : Route.read options.normalizedPages page = .ok route)
    (supply : IdSupply) :
    (keysOfReading options page reading supply).1 =
      match (walk options route reading).failure? with
      | some failure => .error failure
      | none => .ok (SearchKey.assign (walk options route reading).store.fallbacks supply).1 := by
  rw [keysOfReading, fallbacks, read]
  dsimp only [walk]
  cases (Resolution.ofReading options route reading ⟨[], declared route⟩).failure? <;> rfl

theorem follow_of_keysOfReading {supply : IdSupply} {keys? : Option (NameTable SearchKey)}
    (ok : (keysOfReading options page reading supply).1 = .ok keys?) :
    ∃ route tree, Route.read options.normalizedPages page = .ok route ∧ reading = .ok tree ∧
      (Store.follow options route tree.declarations ⟨[], declared route⟩).exhaustion? = none ∧
      keys? = (SearchKey.assign (Store.follow options route tree.declarations
        ⟨[], declared route⟩).store.fallbacks supply).1 := by
  cases read : Route.read options.normalizedPages page with
  | error error => cases (keysOfReading_of_error read supply).symm.trans ok
  | ok route =>
    rw [keysOfReading_of_read read, walk] at ok
    cases reading with
    | error error => cases ok
    | ok tree =>
      rw [Resolution.failure_ofReading_ok, Resolution.store_ofReading_ok] at ok
      cases ended : (Store.follow options route tree.declarations
          ⟨[], declared route⟩).exhaustion? with
      | some exhaustion =>
        rw [ended] at ok
        cases ok
      | none =>
        rw [ended] at ok
        exact ⟨route, tree, rfl, rfl, ended, (Except.ok.inj ok).symm⟩

theorem answers_of_returns (returns : (walk options route (.ok tree)).failure? = none) (supply : IdSupply) :
    ∃ recorded, Answers route tree (walk options route (.ok tree)).store recorded
      (SearchKey.assign (walk options route (.ok tree)).store.fallbacks supply).1 := by
  rw [walk, Resolution.failure_ofReading_ok, Option.map_eq_none_iff] at returns
  rw [walk, Resolution.store_ofReading_ok]
  obtain ⟨recorded, whole, origins⟩ :=
    Store.fallbacks_follow options route tree.declarations ⟨[], declared route⟩
  refine ⟨recorded, whole, ?_, ?_, ?_⟩
  · rw [SearchKey.codes_assign, whole, Fallback.firsts_append_list]
    rfl
  · intro fallback member
    obtain ⟨declaration, _, rfl⟩ := origins fallback member
    exact letters_recorded declaration.kind
  · intro declaration member unmentioned
    have past := Store.past_of_not_mentions tree.declarations _ returns declaration member
      unmentioned
    exact ⟨past.1, Declaration.isPast_iff.1 past.2⟩

/-- What a page answers. It fails with the error of the page if it cannot be read, then with the error of
the tree if that cannot be read, then with the exhaustion of the walk if the walk is stopped, and with
nothing else: every placeholder has a name, and a kind whose text is valid. The error of the tree is about
its shape unless an integer in it is too long to be written. When the walk returns, the page answers with
keys, which are the same in both modes if it answers in both. -/
theorem searchKeys_answers (options : Options) (page : String) (limit : DigitLimit) (raw : Raw) :
    let reading := LayoutTree.readRaw limit raw
    (∀ error supply, Route.read options.normalizedPages page = .error error →
      (keysOfReading options page reading supply).1 = .error (.route error)) ∧
    (∀ route supply, Route.read options.normalizedPages page = .ok route →
      (declared route = route.placeholders.map fun placeholder => ⟨placeholder.1, placeholder.2⟩) ∧
      (∀ placeholder ∈ route.placeholders,
        ParamKind.read placeholder.2.text = .ok placeholder.2) ∧
      (∀ error, reading = .error error →
        (keysOfReading options page reading supply).1 = .error (.tree error) ∧
          (error.isInvalid = true ↔ ¬raw.MeetsTooLong limit)) ∧
      ∀ tree, reading = .ok tree →
        match (walk options route reading).failure? with
        | some failure => (∃ exhaustion, failure = .exhausted exhaustion) ∧
            (keysOfReading options page reading supply).1 = .error failure
        | none => ∃ keys? recorded, (keysOfReading options page reading supply).1 = .ok keys? ∧
            Answers route tree (walk options route reading).store recorded keys?) ∧
    ∀ supply other kept skipped,
      (keysOfReading { options with recordedAreKnown := false } page reading supply).1 = .ok kept →
      (keysOfReading { options with recordedAreKnown := true } page reading other).1 = .ok skipped →
        kept.map SearchKey.codes = skipped.map SearchKey.codes := by
  intro reading
  refine ⟨fun error supply fails => keysOfReading_of_error fails supply, ?_, ?_⟩
  · intro route supply read
    refine ⟨declared_eq read, ?_, ?_, ?_⟩
    · intro placeholder _
      rw [ParamKind.read, ParamKind.ofRaw, ParamKind.ofText?_text]
      rfl
    · intro error unread
      refine ⟨?_, LayoutTree.isInvalid_iff_of_readRaw unread⟩
      rw [keysOfReading_of_read read, unread]
      rfl
    · intro tree parsed
      rw [keysOfReading_of_read read, parsed]
      cases ended : (walk options route (.ok tree)).failure? with
      | some failure =>
        rw [walk, Resolution.failure_ofReading_ok] at ended
        obtain ⟨exhaustion, _, same⟩ := Option.map_eq_some_iff.1 ended
        exact ⟨⟨exhaustion, same.symm⟩, rfl⟩
      | none =>
        obtain ⟨recorded, answers⟩ := answers_of_returns ended supply
        exact ⟨_, recorded, rfl, answers⟩
  · intro supply other kept skipped keptOk skippedOk
    obtain ⟨route, tree, read, parsed, keptReturns, rfl⟩ := follow_of_keysOfReading keptOk
    obtain ⟨route', tree', read', parsed', _, rfl⟩ := follow_of_keysOfReading skippedOk
    cases read.symm.trans read'
    cases parsed.symm.trans parsed'
    have keeps : { options with recordedAreKnown := false }.recordedAreKnown = false := rfl
    have skips : { options with recordedAreKnown := true }.recordedAreKnown = true := rfl
    have runs := (Agrees.refl ⟨[], declared route⟩).follow keeps skips route tree.declarations
    rw [keptReturns] at runs
    rw [SearchKey.codes_assign, SearchKey.codes_assign, runs.2.firsts]

/-- The tree records the names of the page again, under other kinds and at other depths, and beside them
one name of its own; the optional catch-all past the end of the path gets no key. -/
theorem searchKeys_answers_of_repeated_names :
    let options : Options := { recordedAreKnown := false }
    let page := "/docs/[...path]/[id]/[path]"
    let route : Route := .plain page true (PathToken.split page.toList)
    let tree : LayoutTree := .node "docs"
      [("side", .node "[lang]" [("children", .node "[...id]" [])]),
        ("modal", .node "[path]" [("children", .node "x"
          [("children", .node "y" [("children", .node "[[...extra]]" [])])])])]
    Route.read options.normalizedPages page = .ok route ∧
      ∃ keys? recorded, (searchKeys options page (.tree tree) .fresh).1 = .ok keys? ∧
        Answers route tree (walk options route (.ok tree)).store recorded keys? ∧
        keys?.map SearchKey.codes = some [("path", "c"), ("id", "d"), ("lang", "d")] := by
  intro options page route tree
  have read : Route.read options.normalizedPages page = .ok route := by decide +kernel
  have returns : (walk options route (.ok tree)).failure? = none := by
    rw [← Option.isNone_iff_eq_none]
    decide +kernel
  have parsed : LayoutTree.readRaw .standard (.tree tree) = .ok tree := LayoutTree.ofRaw_tree tree
  have answer :=
    ((searchKeys_answers options page .standard (.tree tree)).2.1 route .fresh read).2.2.2 tree parsed
  rw [parsed, returns] at answer
  obtain ⟨keys?, recorded, ok, answers⟩ := answer
  have given : (searchKeys options page (.tree tree) .fresh).1 = .ok keys? := by
    rw [searchKeys, LayoutTree.ofRaw_tree, ok]
  refine ⟨read, keys?, recorded, given, answers, ?_⟩
  rw [keysOfReading_of_read read, returns] at ok
  cases ok
  decide +kernel

end RouteParams.Page
