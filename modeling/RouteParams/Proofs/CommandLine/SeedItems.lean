import Mathlib.Data.List.Forall2
import Mathlib.Data.List.Induction
import RouteParams.CommandLine.Seeds
import RouteParams.Proofs.Resolution.Calls
import RouteParams.Proofs.Text.Occurrence
import RouteParams.Proofs.Tree.SlotTable

/-!
Seeds as they are written on the command line. An item is divided at its first sign, and the first item that
does not fit is the one that is refused. The texts that are given to a name are gathered under it however the
names interleave, and what has been written item by item is read back.
-/
namespace RouteParams

theorem Text.breakOn?_singleton (sign : Char) (text : List Char) :
    breakOn? [sign] text =
      if sign ∈ text then
        some (text.takeWhile fun c => c != sign, (text.dropWhile fun c => c != sign).tail)
      else none := by
  induction text with
  | nil => rfl
  | cons c rest ih =>
    by_cases here : c = sign
    · subst here
      have found := breakOn?_of_prefix [c] rest
      rw [List.singleton_append] at found
      simp [found]
    · have absent : ¬[sign] <+: c :: rest := by
        rw [List.singleton_prefix_cons_iff]
        exact Ne.symm here
      rw [breakOn?_cons absent, ih]
      by_cases later : sign ∈ rest
      · simp [later, here]
      · simp [later, Ne.symm here]

/-! ## Reading item by item -/

section Reading

variable {State Item Entry Error : Type} {read : Item → Except Error Entry} {items : List Item}

theorem mapM_cons_of_error {item : Item} {error : Error} (refused : read item = .error error) :
    (item :: items).mapM read = .error error := by
  rw [List.mapM_cons, refused]
  rfl

theorem mapM_cons_of_ok {item : Item} {entry : Entry} (taken : read item = .ok entry) :
    (item :: items).mapM read = (items.mapM read).map (entry :: ·) := by
  rw [List.mapM_cons, taken]
  cases items.mapM read <;> rfl

def refusal? : Except Error Entry → Option Error
  | .ok _ => none
  | .error error => some error

theorem refusal?_eq_some_iff {result : Except Error Entry} {error : Error} :
    refusal? result = some error ↔ result = .error error := by
  cases result <;> simp [refusal?]

theorem refusal?_eq_none_iff {result : Except Error Entry} :
    refusal? result = none ↔ ∃ entry, result = .ok entry := by
  cases result <;> simp [refusal?]

theorem refusal?_mapM : refusal? (items.mapM read) = items.findSome? fun item => refusal? (read item) := by
  induction items with
  | nil => rfl
  | cons first rest ih =>
    rw [List.findSome?_cons, ← ih]
    cases taken : read first with
    | error error =>
      rw [mapM_cons_of_error taken]
      rfl
    | ok entry =>
      rw [mapM_cons_of_ok taken]
      cases rest.mapM read <;> rfl

/-- The reading of all items fails with the first item that cannot be read. -/
theorem mapM_eq_error_iff {error : Error} :
    items.mapM read = .error error ↔
      ∃ earlier item later, items = earlier ++ item :: later ∧ read item = .error error ∧
        ∀ before ∈ earlier, ∃ entry, read before = .ok entry := by
  rw [← refusal?_eq_some_iff, refusal?_mapM, List.findSome?_eq_some_iff]
  simp only [refusal?_eq_some_iff, refusal?_eq_none_iff]

theorem mapM_eq_ok_iff {entries : List Entry} :
    items.mapM read = .ok entries ↔ List.Forall₂ (fun item entry => read item = .ok entry) items entries := by
  induction items generalizing entries with
  | nil =>
    rw [List.forall₂_nil_left_iff]
    constructor <;> rintro ⟨⟩ <;> rfl
  | cons first rest ih =>
    cases taken : read first with
    | error refusal =>
      rw [mapM_cons_of_error taken]
      constructor
      · rintro ⟨⟩
      · rintro ⟨⟩
        rename_i ok _
        cases taken.symm.trans ok
    | ok entry =>
      rw [mapM_cons_of_ok taken]
      constructor
      · intro ok
        cases others : rest.mapM read with
        | error refusal =>
          rw [others] at ok
          cases ok
        | ok entries =>
          rw [others] at ok
          cases ok
          exact .cons taken (ih.1 others)
      · rintro ⟨⟩
        rename_i ok others
        rw [ih.2 others]
        cases taken.symm.trans ok
        rfl

/-- Items that are added one at a time may as well be read first and then added. -/
theorem foldlM_eq_map_mapM (add : State → Entry → State) (start : State) :
    items.foldlM (fun state item => (read item).map (add state)) start =
      (items.mapM read).map fun entries => entries.foldl add start := by
  induction items generalizing start with
  | nil => rfl
  | cons first rest ih =>
    rw [List.foldlM_cons]
    cases taken : read first with
    | error refusal =>
      rw [mapM_cons_of_error taken]
      rfl
    | ok entry =>
      rw [mapM_cons_of_ok taken]
      change rest.foldlM _ (add start entry) = _
      rw [ih]
      cases rest.mapM read <;> rfl

end Reading

/-! ## Values and their texts -/

namespace BoundValue

/-- A single text is a value by itself, and more texts are one value together. -/
def ofTexts? : List String → Option BoundValue
  | [] => none
  | [text] => some (.one text)
  | texts => some (.many texts)

/-- A list of texts cannot be told from a single text, or from nothing, if it has fewer than two. -/
def IsGiven : BoundValue → Prop
  | .one _ => True
  | .many texts => 2 ≤ texts.length

instance : (value : BoundValue) → Decidable value.IsGiven
  | .one _ => inferInstanceAs (Decidable True)
  | .many texts => inferInstanceAs (Decidable (2 ≤ texts.length))

theorem ofTexts?_texts {value : BoundValue} (given : value.IsGiven) : ofTexts? value.texts = some value := by
  match value, given with
  | .one _, _ => rfl
  | .many (_ :: _ :: _), _ => rfl

theorem ofTexts?_eq_none_iff {texts : List String} : ofTexts? texts = none ↔ texts = [] := by
  match texts with
  | [] => simp [ofTexts?]
  | [_] => simp [ofTexts?]
  | _ :: _ :: _ => simp [ofTexts?]

theorem ofTexts?_concat (texts : List String) (text : String) :
    ofTexts? (texts ++ [text]) =
      some ((ofTexts? texts).elim (.one text) fun value => Seeds.extend value text) := by
  match texts with
  | [] => rfl
  | [_] => rfl
  | _ :: _ :: _ => rfl

end BoundValue

namespace Seeds

variable {sign : Char} {item name text : String} {params : NameTable BoundValue}

/-! ## One item -/

/-- The text before the first sign. -/
def nameOf (sign : Char) (item : String) : String :=
  String.ofList (item.toList.takeWhile fun c => c != sign)

/-- The text behind the first sign, with the signs that come later. -/
def textOf (sign : Char) (item : String) : String :=
  String.ofList (item.toList.dropWhile fun c => c != sign).tail

/-- The item has no sign, or nothing before its first sign. -/
def IsMalformed (sign : Char) (item : String) : Prop :=
  sign ∉ item.toList ∨ nameOf sign item = ""

instance (sign : Char) (item : String) : Decidable (IsMalformed sign item) :=
  inferInstanceAs (Decidable (_ ∨ _))

def write (sign : Char) (name text : String) : String :=
  name ++ String.singleton sign ++ text

structure CanName (sign : Char) (name : String) : Prop where
  nonempty : name ≠ ""
  unsigned : sign ∉ name.toList

instance (sign : Char) (name : String) : Decidable (CanName sign name) :=
  decidable_of_iff (name ≠ "" ∧ sign ∉ name.toList)
    ⟨fun can => ⟨can.1, can.2⟩, fun can => ⟨can.nonempty, can.unsigned⟩⟩

theorem divide?_of_malformed (malformed : IsMalformed sign item) : divide? sign item = none := by
  rw [divide?, Text.breakOn?_singleton]
  by_cases signed : sign ∈ item.toList
  · have empty := malformed.resolve_left (not_not_intro signed)
    rw [nameOf, String.ofList_eq_empty_iff] at empty
    rw [if_pos signed, empty]
    rfl
  · rw [if_neg signed]

theorem divide?_of_formed (formed : ¬IsMalformed sign item) :
    divide? sign item = some (nameOf sign item, textOf sign item) := by
  obtain ⟨signed, named⟩ := not_or.1 formed
  rw [nameOf, String.ofList_eq_empty_iff] at named
  rw [divide?, Text.breakOn?_singleton, if_pos (not_not.1 signed)]
  dsimp only
  rw [if_neg (by rwa [List.isEmpty_iff])]
  rfl

theorem toList_write (sign : Char) (name text : String) :
    (write sign name text).toList = name.toList ++ sign :: text.toList := by
  rw [write, String.toList_append, String.toList_append, String.toList_singleton, List.append_assoc]
  rfl

theorem CanName.forall_ne (can : CanName sign name) : ∀ c ∈ name.toList, (c != sign) = true := by
  intro c inside
  exact bne_iff_ne.2 fun same => can.unsigned (same ▸ inside)

theorem nameOf_write (can : CanName sign name) (text : String) : nameOf sign (write sign name text) = name := by
  rw [nameOf, toList_write, List.takeWhile_append_of_pos can.forall_ne,
    List.takeWhile_cons_of_neg (by simp), List.append_nil, String.ofList_toList]

theorem textOf_write (can : CanName sign name) (text : String) : textOf sign (write sign name text) = text := by
  rw [textOf, toList_write, List.dropWhile_append_of_pos can.forall_ne,
    List.dropWhile_cons_of_neg (by simp), List.tail_cons, String.ofList_toList]

theorem formed_write (can : CanName sign name) (text : String) :
    ¬IsMalformed sign (write sign name text) := by
  rintro (unsigned | empty)
  · rw [toList_write] at unsigned
    exact unsigned (List.mem_append_right _ List.mem_cons_self)
  · rw [nameOf_write can] at empty
    exact can.nonempty empty

/-! ## Parameters -/

def divided (sign : Char) (item : String) : String × String :=
  (nameOf sign item, textOf sign item)

def readParam (item : String) : Except SeedError (String × String) :=
  match divide? '=' item with
  | none => .error (.paramForm item)
  | some entry => .ok entry

/-- What is given to names one after another, gathered under the names. -/
def gather (entries : List (String × String)) : NameTable BoundValue :=
  entries.foldl (fun params entry => addParam params entry.1 entry.2) []

def textsOf (name : String) (entries : List (String × String)) : List String :=
  (entries.filter fun entry => entry.1 == name).map Prod.snd

/-- The names that are given something, in the order in which they first come, each with all its texts. -/
structure Collects (entries : List (String × String)) (params : NameTable BoundValue) : Prop where
  names : params.names = (NameTable.names entries).eraseDups
  values : ∀ name, params.lookup name = BoundValue.ofTexts? (textsOf name entries)

theorem params_eq (items : List String) : Seeds.params items = (items.mapM readParam).map gather := by
  unfold gather
  rw [Seeds.params, ← foldlM_eq_map_mapM]
  congr 1
  funext params item
  rw [readParam]
  cases divide? '=' item <;> rfl

theorem readParam_of_formed (formed : ¬IsMalformed '=' item) : readParam item = .ok (divided '=' item) := by
  rw [readParam, divide?_of_formed formed]
  rfl

theorem readParam_eq_error_iff {error : SeedError} :
    readParam item = .error error ↔ IsMalformed '=' item ∧ error = .paramForm item := by
  by_cases malformed : IsMalformed '=' item
  · rw [readParam, divide?_of_malformed malformed]
    simp [malformed, eq_comm]
  · rw [readParam_of_formed malformed]
    simp [malformed]

theorem readParam_eq_ok_iff {entry : String × String} :
    readParam item = .ok entry ↔ ¬IsMalformed '=' item ∧ entry = divided '=' item := by
  by_cases malformed : IsMalformed '=' item
  · rw [readParam_eq_error_iff.2 ⟨malformed, rfl⟩]
    simp [malformed]
  · rw [readParam_of_formed malformed]
    simp [malformed, eq_comm]

theorem addParam_eq_put (params : NameTable BoundValue) (name text : String) :
    addParam params name text =
      params.put name ((params.lookup name).elim (.one text) fun value => extend value text) := by
  rw [addParam]
  cases params.lookup name <;> rfl

theorem gather_concat (entries : List (String × String)) (entry : String × String) :
    gather (entries ++ [entry]) = addParam (gather entries) entry.1 entry.2 := by
  rw [gather, List.foldl_append]
  rfl

theorem textsOf_concat (name : String) (entries : List (String × String)) (entry : String × String) :
    textsOf name (entries ++ [entry]) =
      if name = entry.1 then textsOf name entries ++ [entry.2] else textsOf name entries := by
  rw [textsOf, List.filter_append, List.map_append]
  split
  · rename_i same
    rw [List.filter_cons_of_pos (by simp [same])]
    rfl
  · rename_i other
    rw [List.filter_cons_of_neg (by simpa using Ne.symm other), List.filter_nil, List.map_nil, List.append_nil]
    rfl

theorem collects_gather (entries : List (String × String)) : Collects entries (gather entries) := by
  induction entries using List.reverseRecOn with
  | nil => exact ⟨rfl, fun _ => rfl⟩
  | append_singleton entries entry ih =>
    constructor
    · rw [gather_concat, addParam_eq_put, NameTable.names_put, ih.names, NameTable.names_concat,
        NameTable.eraseDups_concat]
    · intro name
      rw [gather_concat, addParam_eq_put, NameTable.lookup_put, textsOf_concat]
      split
      · rename_i same
        rw [BoundValue.ofTexts?_concat, ← same, ih.values]
      · exact ih.values name

theorem nodup_names_gather (entries : List (String × String)) : (gather entries).names.Nodup := by
  rw [(collects_gather entries).names]
  exact NameTable.nodup_eraseDups _

theorem Collects.eq_gather {entries : List (String × String)} (collects : Collects entries params) :
    params = gather entries := by
  have gathered := collects_gather entries
  have order := gathered.names.trans collects.names.symm
  refine (NameTable.eq_of_lookup_eq (nodup_names_gather entries) order fun name => ?_).symm
  rw [gathered.values, collects.values]

theorem params_eq_error_iff {items : List String} {error : SeedError} :
    Seeds.params items = .error error ↔
      ∃ earlier item later, items = earlier ++ item :: later ∧
        (IsMalformed '=' item ∧ error = .paramForm item) ∧ ∀ before ∈ earlier, ¬IsMalformed '=' before := by
  have same : Seeds.params items = .error error ↔ items.mapM readParam = .error error := by
    rw [params_eq]
    cases items.mapM readParam <;> simp [Except.map]
  rw [same, mapM_eq_error_iff]
  simp only [readParam_eq_error_iff, readParam_eq_ok_iff, exists_and_left, exists_eq, and_true]

theorem mapM_readParam_eq_ok_iff {items : List String} {entries : List (String × String)} :
    items.mapM readParam = .ok entries ↔
      (∀ item ∈ items, ¬IsMalformed '=' item) ∧ items.map (divided '=') = entries := by
  rw [mapM_eq_ok_iff]
  simp only [readParam_eq_ok_iff, List.forall₂_and_left]
  rw [← List.forall₂_eq_eq_eq, List.forall₂_map_left_iff]
  simp only [eq_comm]

theorem params_eq_ok_iff {items : List String} {taken : NameTable BoundValue} :
    Seeds.params items = .ok taken ↔
      (∀ item ∈ items, ¬IsMalformed '=' item) ∧ Collects (items.map (divided '=')) taken := by
  rw [params_eq]
  constructor
  · intro ok
    cases read : items.mapM readParam with
    | error error =>
      rw [read] at ok
      cases ok
    | ok entries =>
      rw [read] at ok
      cases ok
      obtain ⟨formed, rfl⟩ := mapM_readParam_eq_ok_iff.1 read
      exact ⟨formed, collects_gather _⟩
  · rintro ⟨formed, collects⟩
    rw [mapM_readParam_eq_ok_iff.2 ⟨formed, rfl⟩, collects.eq_gather]
    rfl

/-- The items that give a table of parameters, one for each text. -/
def entriesOf (given : NameTable BoundValue) : List (String × String) :=
  given.flatMap fun entry => entry.2.texts.map fun text => (entry.1, text)

def writeParams (given : NameTable BoundValue) : List String :=
  (entriesOf given).map fun entry => write '=' entry.1 entry.2

theorem foldl_addParam_texts (fresh : name ∉ params.names) {texts : List String} {value : BoundValue}
    (made : BoundValue.ofTexts? texts = some value) :
    texts.foldl (fun params text => addParam params name text) params = params ++ [(name, value)] := by
  -- from the right, since the last text meets the value that the texts before it have come to
  induction texts using List.reverseRecOn generalizing value with
  | nil => cases made
  | append_singleton texts last ih =>
    rw [BoundValue.ofTexts?_concat] at made
    obtain rfl := Option.some.inj made
    have absent : params.lookup name = none := NameTable.lookup_of_not_mem fresh
    rw [List.foldl_append, List.foldl_cons, List.foldl_nil]
    cases before : BoundValue.ofTexts? texts with
    | none =>
      rw [BoundValue.ofTexts?_eq_none_iff.1 before, List.foldl_nil, addParam_eq_put, absent,
        NameTable.put_of_not_mem fresh]
    | some earlier =>
      have found : (params ++ [(name, earlier)]).lookup name = some earlier := by
        rw [List.lookup_append, absent, NameTable.lookup_entry, if_pos rfl]
        rfl
      rw [ih before, addParam_eq_put, found, NameTable.put_of_split fresh]

theorem gather_entriesOf {given : NameTable BoundValue} (distinct : given.names.Nodup)
    (whole : ∀ entry ∈ given, entry.2.IsGiven) : gather (entriesOf given) = given := by
  induction given using List.reverseRecOn with
  | nil => rfl
  | append_singleton given last ih =>
    obtain ⟨before, fresh⟩ := NameTable.fresh_of_nodup_concat distinct
    obtain ⟨others, lastWhole⟩ := List.forall_mem_append.1 whole
    have made := BoundValue.ofTexts?_texts (lastWhole last (List.mem_singleton_self last))
    have items : entriesOf (given ++ [last]) =
        entriesOf given ++ last.2.texts.map fun text => (last.1, text) := by
      rw [entriesOf, List.flatMap_append, List.flatMap_singleton]
      rfl
    rw [items, gather, List.foldl_append, List.foldl_map]
    change last.2.texts.foldl _ (gather (entriesOf given)) = _
    rw [ih before others]
    exact foldl_addParam_texts fresh made

theorem params_writeParams {given : NameTable BoundValue} (distinct : given.names.Nodup)
    (writable : ∀ entry ∈ given, CanName '=' entry.1 ∧ entry.2.IsGiven) :
    Seeds.params (writeParams given) = .ok given := by
  have named : ∀ entry ∈ entriesOf given, CanName '=' entry.1 := by
    intro entry inside
    obtain ⟨source, among, inside⟩ := List.mem_flatMap.1 inside
    obtain ⟨text, _, rfl⟩ := List.mem_map.1 inside
    exact (writable source among).1
  have read : (writeParams given).mapM readParam = .ok (entriesOf given) := by
    rw [mapM_readParam_eq_ok_iff, writeParams]
    constructor
    · exact List.forall_mem_map.2 fun entry inside => formed_write (named entry inside) entry.2
    · rw [List.map_map, List.map_congr_left, List.map_id]
      intro entry inside
      exact Prod.ext (nameOf_write (named entry inside) _) (textOf_write (named entry inside) _)
  rw [params_eq, read]
  exact congrArg Except.ok (gather_entriesOf distinct fun entry inside => (writable entry inside).2)

/-! ## Fallbacks -/

/-- What is wrong with an item that gives no fallback. -/
inductive Refuses (item : String) : SeedError → Prop
  | form (malformed : IsMalformed ':' item) : Refuses item (.fallbackForm item)
  | kind (formed : ¬IsMalformed ':' item) (unknown : ∀ kind : ParamKind, kind.text ≠ textOf ':' item) :
      Refuses item (.kind ⟨.text (textOf ':' item)⟩)

/-- The item gives the fallback: its name stands before the first sign and its kind behind it. -/
structure Gives (item : String) (fallback : Fallback) : Prop where
  formed : ¬IsMalformed ':' item
  named : fallback.name = nameOf ':' item
  kind : fallback.kind.text = textOf ':' item

def writeFallback (fallback : Fallback) : String :=
  write ':' fallback.name fallback.kind.text

theorem ParamKind.ofText?_eq_some_iff {text : String} {kind : ParamKind} :
    ParamKind.ofText? text = some kind ↔ kind.text = text := by
  constructor
  · intro found
    simpa using List.find?_some found
  · rintro rfl
    exact ParamKind.ofText?_text kind

theorem fallback_of_malformed (malformed : IsMalformed ':' item) :
    Seeds.fallback item = .error (.fallbackForm item) := by
  rw [Seeds.fallback, divide?_of_malformed malformed]

theorem fallback_of_formed (formed : ¬IsMalformed ':' item) :
    Seeds.fallback item = (ParamKind.ofText? (textOf ':' item)).elim
      (.error (.kind ⟨.text (textOf ':' item)⟩)) fun kind => .ok ⟨nameOf ':' item, kind⟩ := by
  rw [Seeds.fallback, divide?_of_formed formed]
  dsimp only [ParamKind.read, ParamKind.ofRaw]
  cases ParamKind.ofText? (textOf ':' item) <;> rfl

theorem fallback_eq_ok_iff {fallback : Fallback} :
    Seeds.fallback item = .ok fallback ↔ Gives item fallback := by
  constructor
  · intro ok
    by_cases malformed : IsMalformed ':' item
    · rw [fallback_of_malformed malformed] at ok
      cases ok
    · rw [fallback_of_formed malformed] at ok
      cases known : ParamKind.ofText? (textOf ':' item) with
      | none =>
        rw [known] at ok
        cases ok
      | some kind =>
        rw [known] at ok
        cases ok
        exact ⟨malformed, rfl, ParamKind.ofText?_eq_some_iff.1 known⟩
  · rintro ⟨formed, named, kind⟩
    rw [fallback_of_formed formed, ParamKind.ofText?_eq_some_iff.2 kind, ← named]
    rfl

theorem fallback_eq_error_iff {error : SeedError} :
    Seeds.fallback item = .error error ↔ Refuses item error := by
  constructor
  · intro fails
    by_cases malformed : IsMalformed ':' item
    · rw [fallback_of_malformed malformed] at fails
      cases fails
      exact .form malformed
    · rw [fallback_of_formed malformed] at fails
      cases known : ParamKind.ofText? (textOf ':' item) with
      | none =>
        rw [known] at fails
        cases fails
        refine .kind malformed fun kind same => ?_
        cases known.symm.trans (ParamKind.ofText?_eq_some_iff.2 same)
      | some kind =>
        rw [known] at fails
        cases fails
  · rintro (malformed | ⟨formed, unknown⟩)
    · exact fallback_of_malformed malformed
    · have unread : ParamKind.ofText? (textOf ':' item) = none :=
        Option.eq_none_iff_forall_ne_some.2 fun kind found =>
          unknown kind (ParamKind.ofText?_eq_some_iff.1 found)
      rw [fallback_of_formed formed, unread]
      rfl

/-- Command-line seeds are decoded exactly. A list of parameters is refused with the first item that has no sign
or no name before it, and taken otherwise with all that it gives; a list of fallbacks is refused with the first
item that gives none. What is written item by item is read back. -/
theorem seeds_decode (items : List String) :
    (∀ error, Seeds.params items = .error error ↔
      ∃ earlier item later, items = earlier ++ item :: later ∧
        (IsMalformed '=' item ∧ error = .paramForm item) ∧ ∀ before ∈ earlier, ¬IsMalformed '=' before) ∧
    (∀ item, (SeedError.paramForm item).message = "Expected NAME=VALUE, got " ++ Text.quoted item) ∧
    (∀ taken, Seeds.params items = .ok taken ↔
      (∀ item ∈ items, ¬IsMalformed '=' item) ∧ Collects (items.map (divided '=')) taken) ∧
    (∀ given : NameTable BoundValue, given.names.Nodup →
      (∀ entry ∈ given, CanName '=' entry.1 ∧ entry.2.IsGiven) →
        Seeds.params (writeParams given) = .ok given) ∧
    (∀ error, Seeds.fallbacks items = .error error ↔
      ∃ earlier item later, items = earlier ++ item :: later ∧ Refuses item error ∧
        ∀ before ∈ earlier, ∃ fallback, Gives before fallback) ∧
    (∀ recorded, Seeds.fallbacks items = .ok recorded ↔ List.Forall₂ Gives items recorded) ∧
    ∀ recorded : List Fallback, (∀ fallback ∈ recorded, CanName ':' fallback.name) →
      Seeds.fallbacks (recorded.map writeFallback) = .ok recorded := by
  refine ⟨fun error => params_eq_error_iff, fun item => rfl, fun taken => params_eq_ok_iff,
    fun given => params_writeParams, fun error => ?_, fun recorded => ?_, fun recorded named => ?_⟩
  · rw [Seeds.fallbacks, mapM_eq_error_iff]
    simp only [fallback_eq_error_iff, fallback_eq_ok_iff]
  · rw [Seeds.fallbacks, mapM_eq_ok_iff]
    simp only [fallback_eq_ok_iff]
  · rw [Seeds.fallbacks, mapM_eq_ok_iff, List.forall₂_map_left_iff, List.forall₂_same]
    intro fallback inside
    have can := named fallback inside
    exact fallback_eq_ok_iff.2 ⟨formed_write can _, (nameOf_write can _).symm, (textOf_write can _).symm⟩

/-- Two names take turns and a text holds the sign or is empty; of two items that do not fit, the first is the
one that is refused, and it is not the kind of the second that counts. -/
theorem seeds_decode_of_names_in_turn :
    let items := ["a=1", "b=x=y", "a=", "c=:", "b==", "a=2"]
    let taken : NameTable BoundValue :=
      [("a", .many ["1", "", "2"]), ("b", .many ["x=y", "="]), ("c", .one ":")]
    let given : NameTable BoundValue := [("b:", .many ["=", "="]), ("a", .one "")]
    let recorded : List Fallback := [⟨"x", .catchAll⟩, ⟨"=", .dynamic⟩, ⟨"x", .optionalCatchAll⟩]
    Seeds.params items = .ok taken ∧ Collects (items.map (divided '=')) taken ∧
      given.names.Nodup ∧ (∀ entry ∈ given, CanName '=' entry.1 ∧ entry.2.IsGiven) ∧
      Seeds.params (writeParams given) = .ok given ∧
      Seeds.params ["a=1", "=b", "a"] = .error (.paramForm "=b") ∧
      (∀ fallback ∈ recorded, CanName ':' fallback.name) ∧
      Seeds.fallbacks (recorded.map writeFallback) = .ok recorded ∧
      Seeds.fallbacks ["x:catchall", "y", "z:all"] = .error (.fallbackForm "y") := by
  intro items taken given recorded
  have formed : ∀ item ∈ items, ¬IsMalformed '=' item := by decide +kernel
  have gathered : gather (items.map (divided '=')) = taken := by decide +kernel
  have collects : Collects (items.map (divided '=')) taken := gathered ▸ collects_gather _
  have distinct : given.names.Nodup := by decide
  have writable : ∀ entry ∈ given, CanName '=' entry.1 ∧ entry.2.IsGiven := by decide +kernel
  have named : ∀ fallback ∈ recorded, CanName ':' fallback.name := by decide +kernel
  have first : Gives "x:catchall" ⟨"x", .catchAll⟩ := ⟨by decide +kernel, by decide +kernel, by decide +kernel⟩
  obtain ⟨_, _, decodes, writes, _, _, records⟩ := seeds_decode items
  have refused := (seeds_decode ["a=1", "=b", "a"]).1 (.paramForm "=b")
  have unrecorded := (seeds_decode ["x:catchall", "y", "z:all"]).2.2.2.2.1 (.fallbackForm "y")
  refine ⟨(decodes taken).2 ⟨formed, collects⟩, collects, distinct, writable, writes given distinct writable, ?_, named,
    records recorded named, ?_⟩
  · exact refused.2 ⟨["a=1"], "=b", ["a"], rfl, ⟨by decide +kernel, rfl⟩, by decide +kernel⟩
  · exact unrecorded.2 ⟨["x:catchall"], "y", ["z:all"], rfl, .form (by decide +kernel),
      List.forall_mem_singleton.2 ⟨_, first⟩⟩

end Seeds
end RouteParams
