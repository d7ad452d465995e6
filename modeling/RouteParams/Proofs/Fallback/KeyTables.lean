import RouteParams.Fallback.Page
import RouteParams.Proofs.Fallback.KeyText
import RouteParams.Proofs.Tree.SlotTable

/-!
Tables of search keys. A table has one key for each name, which the first record of the name decides, so further
records of a name change nothing. Of calls one after another each that returns a table draws an id for it, and
while no id is drawn twice no key comes twice, in one table or in two.
-/
namespace RouteParams

/-- The fallbacks with further records among them, each of a name that is recorded before it. -/
inductive Fallback.AddsRepeats (fallbacks : List Fallback) : List Fallback → Prop
  | same : AddsRepeats fallbacks fallbacks
  | again {before after : List Fallback} {later : Fallback}
      (adds : AddsRepeats fallbacks (before ++ after)) (recorded : later.name ∈ before.map Fallback.name) :
      AddsRepeats fallbacks (before ++ later :: after)

namespace SearchKey

variable {id : String} {fallbacks : List Fallback}

/-! ## One table -/

/-- The names in the order in which they are first recorded, each with its key under the id and the letters of
its first record. -/
structure Keys (id : String) (fallbacks : List Fallback) (keys : NameTable SearchKey) : Prop where
  names : keys.names = (fallbacks.map Fallback.name).eraseDups
  values : ∀ name, keys.lookup name =
    (fallbacks.find? fun fallback => fallback.name == name).map fun first =>
      ⟨"%%drp:" ++ name ++ ":" ++ id ++ "%%", first.kind.letters⟩

theorem names_add (keys : NameTable SearchKey) (fallback : Fallback) : (add id keys fallback).names =
    if fallback.name ∈ keys.names then keys.names else keys.names ++ [fallback.name] := by
  rw [add]
  split
  · rename_i known
    rw [if_pos (NameTable.has_iff.1 known)]
  · rename_i new
    rw [if_neg (mt NameTable.has_iff.2 new), NameTable.names_concat]

theorem lookup_add (keys : NameTable SearchKey) (fallback : Fallback) (name : String) :
    (add id keys fallback).lookup name =
      (keys.lookup name).or (if name = fallback.name then some (ofFallback id fallback) else none) := by
  rw [add]
  split
  · rename_i known
    split
    · rename_i same
      rw [NameTable.has_eq_isSome_lookup, ← same] at known
      rw [Option.or_of_isSome known]
    · rw [Option.or_none]
  · rw [List.lookup_append, NameTable.lookup_entry]
    rfl

theorem keys_table (id : String) (fallbacks : List Fallback) : Keys id fallbacks (table id fallbacks) := by
  -- from the right, where the record that comes last meets the names before it
  induction fallbacks using List.reverseRecOn with
  | nil => exact ⟨rfl, fun _ => rfl⟩
  | append_singleton fallbacks last ih =>
    constructor
    · rw [table_append, names_add, ih.names, List.map_append, List.map_singleton, NameTable.eraseDups_concat]
    · intro name
      rw [table_append, lookup_add, ih.values, List.find?_append, List.find?_singleton, Option.map_or]
      by_cases same : name = last.name
      · rw [if_pos same, if_pos (beq_iff_eq.2 same.symm), same, ofFallback, ParamKind.code_eq_letters]
        rfl
      · rw [if_neg same, if_neg (mt beq_iff_eq.1 (Ne.symm same))]
        rfl

theorem table_again {before after : List Fallback} {later : Fallback}
    (recorded : later.name ∈ before.map Fallback.name) :
    table id (before ++ later :: after) = table id (before ++ after) := by
  have known : (table id before).has later.name = true := by
    rw [NameTable.has_iff, (keys_table id before).names, List.mem_eraseDups]
    exact recorded
  have kept : add id (table id before) later = table id before := if_pos known
  rw [table] at kept
  rw [table, table, List.foldl_append, List.foldl_append, List.foldl_cons, kept]

theorem assign_of_addsRepeats {longer : List Fallback} (adds : Fallback.AddsRepeats fallbacks longer)
    (supply : IdSupply) : assign longer supply = assign fallbacks supply := by
  induction adds with
  | same => rfl
  | @again before after later adds recorded ih =>
    have nonempty : before ≠ [] := by
      rintro rfl
      cases recorded
    rw [← ih, assign_eq_of_ne_nil (List.append_ne_nil_of_left_ne_nil nonempty _),
      assign_eq_of_ne_nil (List.append_ne_nil_of_left_ne_nil nonempty _), table_again recorded]

theorem assign_eq_none_iff {supply : IdSupply} : assign fallbacks supply = (none, supply) ↔ fallbacks = [] := by
  constructor
  · intro none
    by_contra nonempty
    rw [assign_eq_of_ne_nil nonempty] at none
    cases none
  · rintro rfl
    rfl

/-- The keys are those of some fallbacks under the id. -/
def StandsUnder (keys : NameTable SearchKey) (id : String) : Prop :=
  ∃ fallbacks, keys = table id fallbacks

def texts (keys : NameTable SearchKey) : List String :=
  keys.map fun entry => entry.2.text

theorem texts_table (id : String) (fallbacks : List Fallback) :
    texts (table id fallbacks) = (table id fallbacks).names.map (keyText id) := by
  rw [texts, NameTable.names, List.map_map]
  refine List.map_congr_left fun entry inside => ?_
  obtain ⟨fallback, _, rfl⟩ := mem_table inside
  rfl

theorem nodup_texts_table (hex : IsId id) (fallbacks : List Fallback) : (texts (table id fallbacks)).Nodup := by
  rw [texts_table, (keys_table id fallbacks).names]
  exact (NameTable.nodup_eraseDups _).map fun _ _ same => (keyText_inj hex hex same).1

end SearchKey

/-! ## Calls one after another -/

/-- A call that asks for keys: of fallbacks that are at hand, or of the fallbacks of a page. -/
inductive KeyCall
  | ofFallbacks (fallbacks : List Fallback)
  | ofPage (options : Options) (page : String) (raw : Raw)

namespace IdSupply

variable {start last : IdSupply}

def between (start last : IdSupply) : List String :=
  (List.range' start.drawn (last.drawn - start.drawn)).map start.ids

theorem between_self (start : IdSupply) : start.between start = [] := by
  rw [between, Nat.sub_self]
  rfl

theorem between_draw (later : start.draw.2.drawn ≤ last.drawn) :
    start.between last = start.draw.1 :: start.draw.2.between last := by
  have count : last.drawn - start.drawn = last.drawn - start.draw.2.drawn + 1 := by
    rw [draw] at later ⊢
    dsimp only at later ⊢
    omega
  rw [between, count, List.range'_succ]
  rfl

end IdSupply

namespace KeyCall

open SearchKey

def answer : KeyCall → IdSupply → Except Failure (Option (NameTable SearchKey)) × IdSupply
  | .ofFallbacks fallbacks, supply => (assign fallbacks supply).map Except.ok id
  | .ofPage options page raw, supply => Page.searchKeys options page raw supply

def returned : Except Failure (Option (NameTable SearchKey)) → List (NameTable SearchKey)
  | .ok (some keys) => [keys]
  | _ => []

/-- The tables that are returned by calls one after another, and the supply that they leave. A call that fails
does not stop those after it. -/
def run : List KeyCall → IdSupply → List (NameTable SearchKey) × IdSupply
  | [], supply => ([], supply)
  | call :: later, supply =>
    let (answer, rest) := call.answer supply
    let (tables, last) := run later rest
    (returned answer ++ tables, last)

theorem answer_eq (call : KeyCall) (supply : IdSupply) :
    (∃ failure, call.answer supply = (.error failure, supply)) ∨
      ∃ fallbacks, call.answer supply = (assign fallbacks supply).map Except.ok id := by
  cases call with
  | ofFallbacks fallbacks => exact .inr ⟨fallbacks, rfl⟩
  | ofPage options page raw =>
    rw [answer, Page.searchKeys, Page.keysOfReading]
    cases Page.fallbacks options page (LayoutTree.ofRaw raw) with
    | error failure => exact .inl ⟨failure, rfl⟩
    | ok fallbacks => exact .inr ⟨fallbacks, rfl⟩

/-- A call returns nothing and draws nothing, or it returns a table under the one id that it draws. -/
theorem answer_cases (call : KeyCall) (supply : IdSupply) :
    (returned (call.answer supply).1 = [] ∧ (call.answer supply).2 = supply) ∨
      ∃ fallbacks, returned (call.answer supply).1 = [table supply.draw.1 fallbacks] ∧
        (call.answer supply).2 = supply.draw.2 := by
  rcases answer_eq call supply with ⟨failure, same⟩ | ⟨fallbacks, same⟩
  · rw [same]
    exact .inl ⟨rfl, rfl⟩
  · rw [same]
    by_cases empty : fallbacks = []
    · rw [empty]
      exact .inl ⟨rfl, rfl⟩
    · rw [assign_eq_of_ne_nil empty]
      exact .inr ⟨fallbacks, rfl, rfl⟩

/-- Every table that is returned stands under an id of its own, in the order in which the ids are drawn. -/
theorem tables_run (calls : List KeyCall) (supply : IdSupply) :
    supply.drawn ≤ (run calls supply).2.drawn ∧
      List.Forall₂ StandsUnder (run calls supply).1 (supply.between (run calls supply).2) := by
  induction calls generalizing supply with
  | nil =>
    rw [run, IdSupply.between_self]
    exact ⟨Nat.le_refl _, .nil⟩
  | cons call later ih =>
    rw [run]
    obtain ⟨grows, made⟩ := ih (call.answer supply).2
    rcases answer_cases call supply with ⟨nothing, kept⟩ | ⟨fallbacks, table, left⟩
    · rw [kept] at grows made
      dsimp only
      rw [nothing, kept]
      exact ⟨grows, made⟩
    · rw [left] at grows made
      dsimp only
      rw [table, left, IdSupply.between_draw grows]
      exact ⟨Nat.le_of_succ_le grows, .cons ⟨fallbacks, rfl⟩ made⟩

section Tables

variable {tables : List (NameTable SearchKey)} {ids : List String}

theorem keyText_of_mem (made : List.Forall₂ StandsUnder tables ids) {text : String}
    (inside : text ∈ tables.flatMap texts) : ∃ id ∈ ids, ∃ name, keyText id name = text := by
  induction made with
  | nil => cases inside
  | @cons keys id tables ids first later ih =>
    obtain ⟨fallbacks, rfl⟩ := first
    rw [List.flatMap_cons, List.mem_append, texts_table] at inside
    rcases inside with here | there
    · obtain ⟨name, _, same⟩ := List.mem_map.1 here
      exact ⟨id, List.mem_cons_self, name, same⟩
    · obtain ⟨id', among, found⟩ := ih there
      exact ⟨id', List.mem_cons_of_mem id among, found⟩

theorem nodup_texts (made : List.Forall₂ StandsUnder tables ids) (hex : ∀ id ∈ ids, IsId id)
    (distinct : ids.Nodup) : (tables.flatMap texts).Nodup := by
  induction made with
  | nil => exact List.nodup_nil
  | @cons keys id tables ids first later ih =>
    obtain ⟨fallbacks, rfl⟩ := first
    obtain ⟨fresh, distinct⟩ := List.nodup_cons.1 distinct
    obtain ⟨firstHex, laterHex⟩ := List.forall_mem_cons.1 hex
    rw [List.flatMap_cons, List.nodup_append]
    refine ⟨nodup_texts_table firstHex fallbacks, ih laterHex distinct, ?_⟩
    -- a text in two tables would be a key under two ids
    rintro text here _ there rfl
    obtain ⟨id', among, name', same'⟩ := keyText_of_mem later there
    rw [texts_table] at here
    obtain ⟨name, _, same⟩ := List.mem_map.1 here
    obtain ⟨_, rfl⟩ := keyText_inj firstHex (laterHex id' among) (same.trans same'.symm)
    exact fresh among

end Tables

/-- Keys are assigned exactly if there are fallbacks: one id is drawn for a table that holds every name once,
whatever records of a name follow its first. Over calls one after another, failing calls among them, no key
comes twice while the ids that are drawn are hexadecimal and different. -/
theorem keys_distinct (fallbacks : List Fallback) (calls : List KeyCall) (supply : IdSupply) :
    (assign fallbacks supply = (none, supply) ↔ fallbacks = []) ∧
    (fallbacks ≠ [] → ∃ keys, assign fallbacks supply = (some keys, supply.draw.2) ∧
      Keys supply.draw.1 fallbacks keys) ∧
    (∀ longer, Fallback.AddsRepeats fallbacks longer → assign longer supply = assign fallbacks supply) ∧
    ((∀ id ∈ supply.between (run calls supply).2, IsId id) → (supply.between (run calls supply).2).Nodup →
      ((run calls supply).1.flatMap texts).Nodup) := by
  refine ⟨assign_eq_none_iff, fun nonempty => ?_, fun longer adds => assign_of_addsRepeats adds supply, ?_⟩
  · exact ⟨_, assign_eq_of_ne_nil nonempty supply, keys_table _ fallbacks⟩
  · exact nodup_texts (tables_run calls supply).2

/-- A name is recorded again under another kind, one call fails and one has no fallbacks. The names hold the signs
of the keys. -/
theorem keys_distinct_of_failing_calls :
    let first : List Fallback := [⟨"a:b", .catchAll⟩, ⟨"%%drp:a", .dynamic⟩, ⟨"%:", .optionalCatchAll⟩]
    let fallbacks : List Fallback := first ++ [⟨"a:b", .dynamic⟩]
    let calls : List KeyCall := [.ofFallbacks fallbacks, .ofPage {} "/[a]" .null, .ofFallbacks [],
      .ofPage {} "/[a:b]" (.tree (.node "" [])), .ofFallbacks first]
    let ids := IdSupply.fresh.between (run calls .fresh).2
    let keys := table "0000000000000000" first
    first ≠ [] ∧ Keys "0000000000000000" first keys ∧
      keys.map (fun entry => (entry.2.text, entry.2.code)) =
        [("%%drp:a:b:0000000000000000%%", "c"), ("%%drp:%%drp:a:0000000000000000%%", "d"),
          ("%%drp:%::0000000000000000%%", "oc")] ∧
      Fallback.AddsRepeats first fallbacks ∧ (assign fallbacks .fresh).1 = some keys ∧
      ids = ["0000000000000000", "0000000000000001", "0000000000000002"] ∧
      (∀ id ∈ ids, IsId id) ∧ ids.Nodup ∧
      ((run calls .fresh).1.flatMap texts).length = 7 ∧ ((run calls .fresh).1.flatMap texts).Nodup := by
  intro first fallbacks calls ids keys
  have nonempty : first ≠ [] := by decide
  have itself : Fallback.AddsRepeats first (first ++ []) := by
    rw [List.append_nil]
    exact .same
  have adds : Fallback.AddsRepeats first fallbacks := .again itself (by decide)
  have drawn : ids = ["0000000000000000", "0000000000000001", "0000000000000002"] := by decide +kernel
  have hex : ∀ id ∈ ids, IsId id := by
    rw [drawn]
    decide +kernel
  have distinct : ids.Nodup := by
    rw [drawn]
    decide +kernel
  obtain ⟨_, returns, repeats, apart⟩ := keys_distinct first calls .fresh
  obtain ⟨made, assigned, holds⟩ := returns nonempty
  have same : made = keys := by
    cases (assign_eq_of_ne_nil nonempty .fresh).symm.trans assigned
    rfl
  rw [same] at assigned holds
  refine ⟨nonempty, holds, by decide, adds, ?_, drawn, hex, distinct, by decide +kernel, apart hex distinct⟩
  rw [repeats fallbacks adds, assigned]

end KeyCall
end RouteParams
