import RouteParams.Resolution.Store

/-!
What a store holds and knows after one more parameter is bound or recorded. A name that is not bound
yet goes to the end of the params, so that both parts of a store only ever grow at their ends.
-/
namespace RouteParams.Store

def mentions (store : Store) (name : String) : Bool :=
  store.params.has name || store.records name

theorem knows_eq_mentions {options : Options} (skips : options.recordedAreKnown = true)
    (store : Store) (name : String) : store.knows options name = store.mentions name := by
  rw [knows, mentions, skips, Bool.true_and]

theorem knows_eq_has {options : Options} (keeps : options.recordedAreKnown = false)
    (store : Store) (name : String) : store.knows options name = store.params.has name := by
  rw [knows, keeps, Bool.false_and, Bool.or_false]

theorem has_of_not_knows {options : Options} {store : Store} {name : String}
    (unknown : store.knows options name = false) : store.params.has name = false :=
  (Bool.or_eq_false_iff.1 unknown).1

theorem has_bind (store : Store) (name : String) (value : BoundValue) (other : String) :
    (store.bind name value).params.has other = (store.params.has other || name == other) := by
  apply Bool.eq_iff_iff.2
  rw [Bool.or_eq_true, NameTable.has_iff, NameTable.has_iff, beq_iff_eq]
  refine NameTable.mem_names_put.trans ?_
  rw [or_comm, eq_comm]

theorem records_record (store : Store) (name : String) (kind : ParamKind) (other : String) :
    (store.record name kind).records other = (store.records other || name == other) := by
  rw [records, record, List.any_append, List.any_cons, List.any_nil, Bool.or_false]
  rfl

theorem params_bind {store : Store} {name : String} (unbound : store.params.has name = false)
    (value : BoundValue) : (store.bind name value).params = store.params ++ [(name, value)] := by
  apply NameTable.put_of_not_mem
  intro inside
  rw [NameTable.has_iff.2 inside] at unbound
  cases unbound

theorem knows_bind (options : Options) (store : Store) (name : String) (value : BoundValue)
    (other : String) :
    (store.bind name value).knows options other =
      (store.knows options other || name == other) := by
  rw [knows, has_bind, Bool.or_right_comm]
  rfl

theorem knows_record (options : Options) (store : Store) (name : String) (kind : ParamKind)
    (other : String) :
    (store.record name kind).knows options other =
      (store.knows options other || (options.recordedAreKnown && name == other)) := by
  rw [knows, records_record, Bool.and_or_distrib_left, ← Bool.or_assoc]
  rfl

theorem mentions_bind (store : Store) (name : String) (value : BoundValue) (other : String) :
    (store.bind name value).mentions other = (store.mentions other || name == other) :=
  knows_bind {} store name value other

theorem mentions_record (store : Store) (name : String) (kind : ParamKind) (other : String) :
    (store.record name kind).mentions other = (store.mentions other || name == other) :=
  knows_record {} store name kind other

end RouteParams.Store
