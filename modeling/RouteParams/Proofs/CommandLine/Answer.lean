import RouteParams.Proofs.CommandLine.Messages
import RouteParams.Proofs.CommandLine.Report

/-!
The answer of the resolve command. The command takes eight steps, each of which the library offers by
itself, and gives all of what they come to or nothing: one line with the whole result if every step
succeeds, and otherwise one line with the complaint of the first step that does not.
-/
namespace RouteParams.CommandLine

open Text

/-- What a command line says to the resolve command. -/
structure Settings where
  file : String
  pathname : String
  params : List String
  fallbacks : List String
  keepDuplicates : Bool
  allowGroups : Bool
  deriving DecidableEq

namespace Settings

def ofReading (reading : Reading) : Settings where
  file := (reading.texts "tree").headD ""
  pathname := (reading.texts "pathname").headD ""
  params := reading.texts "--param"
  fallbacks := reading.texts "--fallback"
  keepDuplicates := reading.mentions "--keep-duplicates"
  allowGroups := reading.mentions "--allow-groups"

/-- Recorded parameters are known unless duplicates are kept, and pathnames are read as normalized ones
unless groups are allowed. -/
def options (settings : Settings) : Options :=
  ⟨!settings.keepDuplicates, !settings.allowGroups⟩

def request (settings : Settings) : ResolveRequest :=
  ⟨settings.file, settings.pathname, settings.params, settings.fallbacks, settings.options⟩

end Settings

/-- The command line asks for a resolution and says the settings. -/
def Asks (arguments : List String) (settings : Settings) : Prop :=
  ∃ (top reading : Reading) (words : List String),
    topGrammar.read arguments = .ok top ∧ top.texts "command" = "resolve" :: words ∧
      resolveGrammar.read words = .ok reading ∧ top.leftovers ++ reading.leftovers = [] ∧
      settings = .ofReading reading

/-! ## The steps -/

/-- The text of a file, with its ends of lines brought to one form. -/
def HasText (content : Except FileError (List UInt8)) (text : List Char) : Prop :=
  ∃ octets chars, content = .ok octets ∧ Utf8.decode octets = .ok chars ∧ unifyNewlines chars = text

def HasDocument (content : Except FileError (List UInt8)) (document : Json) : Prop :=
  ∃ text, HasText content text ∧ Json.read text = .ok document

/-- Every text in the file is a sequence of characters: half of a surrogate pair stands alone in none of them.
What the command comes to on any other file is left open here. -/
def HoldsCharacters (content : Except FileError (List UInt8)) : Prop :=
  ∀ text fault, HasText content text → Json.read text = .error fault → fault.problem ≠ .halfAlone

/-- The tree, the route and the store with which the resolution begins. -/
structure Prepares (settings : Settings) (content : Except FileError (List UInt8)) (tree : LayoutTree)
    (route : Route) (store : Store) : Prop where
  tree : ∃ document, HasDocument content document ∧ LayoutTree.ofRaw (.ofJson document) = .ok tree
  route : Route.read (!settings.allowGroups) settings.pathname = .ok route
  params : Seeds.params settings.params = .ok store.params
  fallbacks : Seeds.fallbacks settings.fallbacks = .ok store.fallbacks

/-- The store is what the resolution comes to. -/
def Resolves (settings : Settings) (content : Except FileError (List UInt8)) (store : Store) : Prop :=
  ∃ tree route given progress, Prepares settings content tree route given ∧
    tree.resolve settings.options route given = .ok progress ∧ progress.store = store

/-- The steps in the order in which they are taken. -/
inductive Stage where
  | file
  | encoding
  | json
  | params
  | fallbacks
  | tree
  | route
  | resolution
  deriving DecidableEq

def Stage.place : Stage → Nat
  | .file => 0
  | .encoding => 1
  | .json => 2
  | .params => 3
  | .fallbacks => 4
  | .tree => 5
  | .route => 6
  | .resolution => 7

/-- The message of a failure. -/
def complaint? {Error Value : Type} (message : Error → String) : Except Error Value → Option String
  | .ok _ => none
  | .error error => some (message error)

/-- How a step ends, on what the steps that it needs have given: with a complaint or without one. -/
def Ends (settings : Settings) (content : Except FileError (List UInt8)) : Stage → Option String → Prop
  | .file, end? => complaint? FileError.message content = end?
  | .encoding, end? =>
    ∃ octets, content = .ok octets ∧ complaint? Utf8.Fault.message (Utf8.decode octets) = end?
  | .json, end? =>
    ∃ text, HasText content text ∧ complaint? (Json.Fault.message text) (Json.read text) = end?
  | .params, end? => complaint? SeedError.message (Seeds.params settings.params) = end?
  | .fallbacks, end? => complaint? SeedError.message (Seeds.fallbacks settings.fallbacks) = end?
  | .tree, end? =>
    ∃ document, HasDocument content document ∧
      complaint? TreeError.message (LayoutTree.ofRaw (.ofJson document)) = end?
  | .route, end? =>
    complaint? RouteError.message (Route.read (!settings.allowGroups) settings.pathname) = end?
  | .resolution, end? =>
    ∃ tree route store, Prepares settings content tree route store ∧
      complaint? (fun stopped => stopped.cause.message) (tree.resolve settings.options route store) = end?

/-- The message is the complaint of the first step that fails. -/
def FailsFirst (settings : Settings) (content : Except FileError (List UInt8)) (message : String) : Prop :=
  ∃ stage : Stage, (∀ earlier : Stage, earlier.place < stage.place → Ends settings content earlier none) ∧
    Ends settings content stage (some message)

/-- One line on the output and no error. The line is visible ASCII and the store can be read from it. -/
def Reports (outcome : Outcome) (store : Store) : Prop :=
  ∃ line, outcome = ⟨0, line ++ "\n", ""⟩ ∧ (∀ c ∈ line.toList, isVisibleAscii c = true) ∧
    lineStore? line = some store

/-- One line of error and nothing on the output. -/
def Complains (outcome : Outcome) (message : String) : Prop :=
  outcome = ⟨1, "", "Error: " ++ message ++ "\n"⟩ ∧ '\n' ∉ message.toList

/-- The outcome is all of what the steps come to, or nothing but the first complaint. -/
structure Agrees (settings : Settings) (content : Except FileError (List UInt8)) (outcome : Outcome) :
    Prop where
  succeeds : (∀ stage, Ends settings content stage none) →
    ∃ store, Resolves settings content store ∧ Reports outcome store
  fails : ∀ message, FailsFirst settings content message → Complains outcome message
  decided : (∀ stage, Ends settings content stage none) ∨ ∃ message, FailsFirst settings content message

variable {settings : Settings} {content : Except FileError (List UInt8)}

theorem complaint?_eq_none_iff {Error Value : Type} {message : Error → String}
    {result : Except Error Value} : complaint? message result = none ↔ ∃ value, result = .ok value := by
  cases result with
  | ok value => exact ⟨fun _ => ⟨value, rfl⟩, fun _ => rfl⟩
  | error error => exact ⟨nofun, nofun⟩

theorem complaint?_eq_some_iff {Error Value : Type} {message : Error → String}
    {result : Except Error Value} {text : String} :
    complaint? message result = some text ↔ ∃ error, result = .error error ∧ message error = text := by
  cases result with
  | ok value => exact ⟨nofun, nofun⟩
  | error error => simp [complaint?]

theorem bind_of_ok {Error Value Next : Type} {result : Except Error Value} {value : Value}
    (ok : result = .ok value) (next : Value → Except Error Next) : (result >>= next) = next value := by
  rw [ok]
  rfl

theorem mapError_of_ok {Error Other Value : Type} {result : Except Error Value} {value : Value}
    (ok : result = .ok value) (wrap : Error → Other) : result.mapError wrap = .ok value := by
  rw [ok]
  rfl

/-- A step that fails ends the steps with its failure. -/
theorem mapError_bind_of_error {Error Other Value Next : Type} {result : Except Error Value} {error : Error}
    (failed : result = .error error) (wrap : Error → Other) (next : Value → Except Other Next) :
    (result.mapError wrap >>= next) = .error (wrap error) := by
  rw [failed]
  rfl

theorem mapError_bind_of_ok {Error Other Value Next : Type} {result : Except Error Value} {value : Value}
    (ok : result = .ok value) (wrap : Error → Other) (next : Value → Except Other Next) :
    (result.mapError wrap >>= next) = next value :=
  bind_of_ok (mapError_of_ok ok wrap) next

/-- The steps after the document has been read, on what the settings say. -/
theorem run_of_document {document : Json} (holds : HasDocument content document) :
    settings.request.run content = (do
      let params ← (Seeds.params settings.params).mapError .seeds
      let fallbacks ← (Seeds.fallbacks settings.fallbacks).mapError .seeds
      let tree ← (LayoutTree.ofRaw (.ofJson document)).mapError .tree
      let route ← (Route.read (!settings.allowGroups) settings.pathname).mapError .route
      match tree.resolve settings.options route ⟨params, fallbacks⟩ with
      | .error stopped => .error (.exhausted stopped.cause)
      | .ok progress => .ok progress.store) := by
  obtain ⟨text, ⟨octets, chars, rfl, decoded, rfl⟩, read⟩ := holds
  have known : readDocument octets = .ok document := by
    rw [readDocument, mapError_bind_of_ok decoded]
    exact mapError_of_ok read _
  rw [ResolveRequest.run, mapError_bind_of_ok rfl, bind_of_ok known]
  rfl

theorem run_of_resolves {store : Store} (resolves : Resolves settings content store) :
    settings.request.run content = .ok store := by
  obtain ⟨tree, route, given, progress, prepares, resolved, rfl⟩ := resolves
  obtain ⟨document, holds, planted⟩ := prepares.tree
  rw [run_of_document holds, mapError_bind_of_ok prepares.params, mapError_bind_of_ok prepares.fallbacks]
  rw [mapError_bind_of_ok planted, mapError_bind_of_ok prepares.route, resolved]

theorem exists_document (ends : Ends settings content .json none) :
    ∃ document, HasDocument content document := by
  obtain ⟨text, opened, ends⟩ := ends
  obtain ⟨document, read⟩ := complaint?_eq_none_iff.1 ends
  exact ⟨document, text, opened, read⟩

/-- The first step that fails is the one at which the run ends. -/
theorem run_of_fails {message : String} (fails : FailsFirst settings content message) :
    ∃ error : ResolveError, settings.request.run content = .error error ∧ error.message = message := by
  obtain ⟨stage, before, ends⟩ := fails
  cases stage with
  | file =>
    obtain ⟨error, rfl, rfl⟩ := complaint?_eq_some_iff.1 ends
    exact ⟨.file error, rfl, rfl⟩
  | encoding =>
    obtain ⟨octets, rfl, ends⟩ := ends
    obtain ⟨fault, failed, rfl⟩ := complaint?_eq_some_iff.1 ends
    refine ⟨.encoding fault, ?_, rfl⟩
    rw [ResolveRequest.run, mapError_bind_of_ok rfl, readDocument, mapError_bind_of_error failed]
    rfl
  | json =>
    obtain ⟨text, ⟨octets, chars, rfl, decoded, rfl⟩, ends⟩ := ends
    obtain ⟨fault, failed, rfl⟩ := complaint?_eq_some_iff.1 ends
    refine ⟨.json (unifyNewlines chars) fault, ?_, rfl⟩
    rw [ResolveRequest.run, mapError_bind_of_ok rfl, readDocument, mapError_bind_of_ok decoded]
    exact mapError_bind_of_error failed _ _
  -- from here on the document is known and only the steps after it are left
  | params =>
    obtain ⟨document, holds⟩ := exists_document (before .json (by decide))
    obtain ⟨error, failed, rfl⟩ := complaint?_eq_some_iff.1 ends
    refine ⟨.seeds error, ?_, rfl⟩
    rw [run_of_document holds, mapError_bind_of_error failed]
  | fallbacks =>
    obtain ⟨document, holds⟩ := exists_document (before .json (by decide))
    obtain ⟨params, bound⟩ := complaint?_eq_none_iff.1 (before .params (by decide))
    obtain ⟨error, failed, rfl⟩ := complaint?_eq_some_iff.1 ends
    refine ⟨.seeds error, ?_, rfl⟩
    rw [run_of_document holds, mapError_bind_of_ok bound, mapError_bind_of_error failed]
  | tree =>
    obtain ⟨params, bound⟩ := complaint?_eq_none_iff.1 (before .params (by decide))
    obtain ⟨fallbacks, recorded⟩ := complaint?_eq_none_iff.1 (before .fallbacks (by decide))
    obtain ⟨document, holds, ends⟩ := ends
    obtain ⟨error, failed, rfl⟩ := complaint?_eq_some_iff.1 ends
    refine ⟨.tree error, ?_, rfl⟩
    rw [run_of_document holds, mapError_bind_of_ok bound, mapError_bind_of_ok recorded]
    exact mapError_bind_of_error failed _ _
  | route =>
    obtain ⟨params, bound⟩ := complaint?_eq_none_iff.1 (before .params (by decide))
    obtain ⟨fallbacks, recorded⟩ := complaint?_eq_none_iff.1 (before .fallbacks (by decide))
    obtain ⟨document, holds, planted⟩ := before .tree (by decide)
    obtain ⟨tree, planted⟩ := complaint?_eq_none_iff.1 planted
    obtain ⟨error, failed, rfl⟩ := complaint?_eq_some_iff.1 ends
    refine ⟨.route error, ?_, rfl⟩
    rw [run_of_document holds, mapError_bind_of_ok bound, mapError_bind_of_ok recorded]
    rw [mapError_bind_of_ok planted, mapError_bind_of_error failed]
  | resolution =>
    obtain ⟨tree, route, store, prepares, ends⟩ := ends
    obtain ⟨document, holds, planted⟩ := prepares.tree
    obtain ⟨stopped, failed, rfl⟩ := complaint?_eq_some_iff.1 ends
    refine ⟨.exhausted stopped.cause, ?_, rfl⟩
    rw [run_of_document holds, mapError_bind_of_ok prepares.params, mapError_bind_of_ok prepares.fallbacks]
    rw [mapError_bind_of_ok planted, mapError_bind_of_ok prepares.route, failed]

/-- A step ends in one way or the other once the steps before it have succeeded. -/
theorem exists_ends (stage : Stage)
    (before : ∀ earlier : Stage, earlier.place < stage.place → Ends settings content earlier none) :
    ∃ end?, Ends settings content stage end? := by
  cases stage with
  | file => exact ⟨_, rfl⟩
  | encoding =>
    obtain ⟨octets, opened⟩ := complaint?_eq_none_iff.1 (before .file (by decide))
    exact ⟨_, octets, opened, rfl⟩
  | json =>
    obtain ⟨octets, opened, ends⟩ := before .encoding (by decide)
    obtain ⟨chars, decoded⟩ := complaint?_eq_none_iff.1 ends
    exact ⟨_, _, ⟨octets, chars, opened, decoded, rfl⟩, rfl⟩
  | params => exact ⟨_, rfl⟩
  | fallbacks => exact ⟨_, rfl⟩
  | tree =>
    obtain ⟨document, holds⟩ := exists_document (before .json (by decide))
    exact ⟨_, document, holds, rfl⟩
  | route => exact ⟨_, rfl⟩
  | resolution =>
    obtain ⟨params, bound⟩ := complaint?_eq_none_iff.1 (before .params (by decide))
    obtain ⟨fallbacks, recorded⟩ := complaint?_eq_none_iff.1 (before .fallbacks (by decide))
    obtain ⟨document, holds, ends⟩ := before .tree (by decide)
    obtain ⟨tree, planted⟩ := complaint?_eq_none_iff.1 ends
    obtain ⟨route, read⟩ := complaint?_eq_none_iff.1 (before .route (by decide))
    exact ⟨_, tree, route, ⟨params, fallbacks⟩, ⟨⟨document, holds, planted⟩, read, bound, recorded⟩, rfl⟩

theorem succeed_or_fail (settings : Settings) (content : Except FileError (List UInt8)) :
    (∀ stage, Ends settings content stage none) ∨ ∃ message, FailsFirst settings content message := by
  by_cases failing : ∃ message, FailsFirst settings content message
  · exact .inr failing
  · refine .inl fun stage => ?_
    -- by the place of the step, as every step before it has succeeded
    induction placed : stage.place using Nat.strongRecOn generalizing stage with
    | ind place ih =>
      subst placed
      have before := fun (earlier : Stage) (comes : earlier.place < stage.place) => ih _ comes earlier rfl
      obtain ⟨end?, ends⟩ := exists_ends stage before
      cases end? with
      | none => exact ends
      | some message => exact absurd ⟨message, stage, before, ends⟩ failing

theorem resolves_of_ends (ends : Ends settings content .resolution none) :
    ∃ store, Resolves settings content store := by
  obtain ⟨tree, route, given, prepares, ends⟩ := ends
  obtain ⟨progress, resolved⟩ := complaint?_eq_none_iff.1 ends
  exact ⟨progress.store, tree, route, given, progress, prepares, resolved, rfl⟩

theorem nodup_names_of_resolves {store : Store} (resolves : Resolves settings content store) :
    store.params.names.Nodup := by
  obtain ⟨tree, route, given, progress, prepares, resolved, rfl⟩ := resolves
  exact LayoutTree.nodup_names_resolve resolved (Seeds.nodup_names_params prepares.params)

theorem reports_of_resolves {store : Store} (resolves : Resolves settings content store) :
    Reports (settings.request.outcome content) store := by
  have distinct := nodup_names_of_resolves resolves
  refine ⟨(storeJson store).print, ?_, isVisibleAscii_print distinct, lineStore?_print distinct⟩
  rw [ResolveRequest.outcome, run_of_resolves resolves]
  rfl

theorem complains_of_fails {message : String} (fails : FailsFirst settings content message) :
    Complains (settings.request.outcome content) message := by
  obtain ⟨error, ended, rfl⟩ := run_of_fails fails
  refine ⟨?_, error.isVisible_message.newline_not_mem⟩
  rw [ResolveRequest.outcome, ended]
  rfl

/-- The answer to a request agrees with the library. -/
theorem agrees_outcome (settings : Settings) (content : Except FileError (List UInt8)) :
    Agrees settings content (settings.request.outcome content) where
  succeeds ends := by
    obtain ⟨store, resolves⟩ := resolves_of_ends (ends .resolution)
    exact ⟨store, resolves, reports_of_resolves resolves⟩
  fails _ := complains_of_fails
  decided := succeed_or_fail settings content

/-! ## The command line -/

theorem exists_of_mapError_bind {Error Other Value Next : Type} {result : Except Error Value}
    {wrap : Error → Other} {next : Value → Except Other Next} {last : Next}
    (ok : (result.mapError wrap >>= next) = .ok last) :
    ∃ value, result = .ok value ∧ next value = .ok last := by
  cases result with
  | error error => cases ok
  | ok value => exact ⟨value, rfl, ok⟩

theorem checkLeftovers_bind {Value : Type} {leftovers : List String} {next : Except Outcome Value}
    {value : Value} (ok : (Command.checkLeftovers leftovers >>= fun _ => next) = .ok value) :
    leftovers = [] ∧ next = .ok value := by
  cases leftovers with
  | nil => exact ⟨rfl, ok⟩
  | cons word words => cases ok

theorem eq_of_ofReading {name : String} {reading : Reading} {request : ResolveRequest}
    (same : Command.ofReading name reading = .resolve request) :
    name = "resolve" ∧ (Settings.ofReading reading).request = request := by
  unfold Command.ofReading at same
  split at same
  next named => exact ⟨named, Command.resolve.inj same⟩
  next => cases same

/-- A command line that comes to the resolve command asks for it. -/
theorem asks_of_arguments {arguments : List String} {request : ResolveRequest}
    (asked : Command.ofArguments arguments = .ok (.resolve request)) :
    ∃ settings, Asks arguments settings ∧ settings.request = request := by
  obtain ⟨top, first, more⟩ := exists_of_mapError_bind asked
  split at more
  next => cases (checkLeftovers_bind more).2
  next name words chosen =>
    split at more
    next => cases more
    next grammar found =>
      obtain ⟨reading, second, more⟩ := exists_of_mapError_bind more
      obtain ⟨complete, read⟩ := checkLeftovers_bind more
      obtain ⟨rfl, same⟩ := eq_of_ofReading (Except.ok.inj read)
      cases found
      exact ⟨.ofReading reading, ⟨top, reading, words, first, chosen, second, complete, rfl⟩, same⟩

/-- The resolve command agrees with the library, all or nothing: on whatever it is asked, and at whatever
command line asks for it, if the texts in the file are sequences of characters. -/
theorem command_agrees_with_library :
    (∀ settings content, HoldsCharacters content →
      Agrees settings content (settings.request.outcome content)) ∧
      ∀ readFile arguments request, Command.ofArguments arguments = .ok (.resolve request) →
        ∃ settings, Asks arguments settings ∧ (HoldsCharacters (readFile settings.file) →
          Agrees settings (readFile settings.file) (run readFile arguments)) := by
  refine ⟨fun settings content _ => agrees_outcome settings content, fun readFile arguments request asked => ?_⟩
  obtain ⟨settings, asks, rfl⟩ := asks_of_arguments asked
  refine ⟨settings, asks, fun _ => ?_⟩
  rw [run, asked]
  exact agrees_outcome settings (readFile settings.file)

theorem eq_ok_of_toOption {Error Value : Type} {result : Except Error Value} {value : Value}
    (told : result.toOption = some value) : result = .ok value := by
  cases result with
  | error error => cases told
  | ok other => exact congrArg Except.ok (Option.some.inj told)

theorem HasText.unique {content : Except FileError (List UInt8)} {text other : List Char}
    (first : HasText content text) (second : HasText content other) : text = other := by
  obtain ⟨octets, chars, opened, decoded, rfl⟩ := first
  obtain ⟨octets', chars', opened', decoded', rfl⟩ := second
  cases opened.symm.trans opened'
  cases decoded.symm.trans decoded'
  rfl

theorem hasDocument_of_readDocument {octets : List UInt8} {document : Json}
    (read : readDocument octets = .ok document) : HasDocument (.ok octets) document := by
  obtain ⟨chars, decoded, read⟩ := exists_of_mapError_bind read
  dsimp only at read
  cases result : Json.read (unifyNewlines chars) with
  | error fault =>
    rw [result] at read
    cases read
  | ok value =>
    rw [result] at read
    cases read
    exact ⟨_, ⟨octets, chars, rfl, decoded, rfl⟩, result⟩

/-- A file from which a document can be read holds characters. -/
theorem HasDocument.holdsCharacters {content : Except FileError (List UInt8)} {document : Json}
    (holds : HasDocument content document) : HoldsCharacters content := by
  intro text fault written faulty
  obtain ⟨other, given, read⟩ := holds
  rw [written.unique given, read] at faulty
  cases faulty

/-- A directory with the layout of a blog, in which a post takes the rest of the path. -/
def blogFiles (path : String) : Except FileError (List UInt8) :=
  if path = "tree.json" then
    let layout := "[\"\", \x7b\"children\": [\"blog\", \x7b\"children\": [\"[...post]\", \x7b\x7d]\x7d]\x7d]"
    .ok (layout.toList.map fun c => UInt8.ofNat c.toNat)
  else .error (.missing path)

def postWords : List String :=
  ["resolve", "tree.json", "/blog/2023/caf\u00e9", "--param", "lang=en", "--fallback", "tag:dynamic"]

theorem holdsCharacters_blogFiles (path : String) : HoldsCharacters (blogFiles path) := by
  by_cases named : path = "tree.json"
  · have readable : ((blogFiles path).toOption.bind fun octets => (readDocument octets).toOption).isSome = true := by
      rw [named]
      decide +kernel
    obtain ⟨document, known⟩ := Option.isSome_iff_exists.1 readable
    obtain ⟨octets, opened, read⟩ := Option.bind_eq_some_iff.1 known
    rw [eq_ok_of_toOption opened]
    exact (hasDocument_of_readDocument (eq_ok_of_toOption read)).holdsCharacters
  · rintro text fault ⟨octets, chars, opened, _⟩
    rw [blogFiles, if_neg named] at opened
    cases opened

theorem command_agrees_on_a_post :
    (∃ settings, Asks postWords settings ∧ HoldsCharacters (blogFiles settings.file) ∧
      Agrees settings (blogFiles settings.file) (run blogFiles postWords)) ∧
    run blogFiles postWords =
      ⟨0, "\x7b\"params\": \x7b\"lang\": \"en\", \"post\": [\"2023\", \"caf\\u00e9\"]\x7d, "
        ++ "\"fallbacks\": [\x7b\"paramName\": \"tag\", \"paramType\": \"dynamic\"\x7d]\x7d\n", ""⟩ ∧
    run blogFiles ["resolve", "tree.json", "/blog", "--param", "lang=en"] =
      ⟨1, "", "Error: Unexpected empty path segments match for route '/blog' "
        ++ "with catch-all param 'post' at depth 1\n"⟩ := by
  have told : (Command.ofArguments postWords).toOption = some (.resolve
      ⟨"tree.json", "/blog/2023/caf\u00e9", ["lang=en"], ["tag:dynamic"], ⟨true, true⟩⟩) := by
    decide +kernel
  obtain ⟨settings, asks, agrees⟩ :=
    command_agrees_with_library.2 blogFiles postWords _ (eq_ok_of_toOption told)
  have holds := holdsCharacters_blogFiles settings.file
  refine ⟨⟨settings, asks, holds, agrees holds⟩, ?_, ?_⟩
  · decide +kernel
  · decide +kernel

end RouteParams.CommandLine
