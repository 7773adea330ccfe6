import EncodingPlan.Proofs.Listing
import EncodingPlan.Proofs.Parameter.Sources

/-! A store of parameters as one map from keys to values. The store keeps global values apart from
those of scopes, and each scope in a dictionary of its own. After any writes, by names or by keys,
it answers as the flat map would that the last write to every key makes, with what was written
replaced once. -/

namespace EncodingPlan

namespace KeyedValues

theorem keys_toList (values : KeyedValues) : values.toList.map Prod.fst =
    values.globals.keys.map ParameterKey.global ++
      (values.scopes.nested.map Prod.fst).map fun (scope, name) => .inScope scope name := by
  simp [toList, Dict.nested, Dict.keys, List.map_flatMap, Function.comp_def]

theorem lists_toList (values : KeyedValues) : Lists values.toList values.get? where
  nodup := by
    rw [keys_toList, List.nodup_append']
    refine ⟨values.globals.distinct.map ?_, values.scopes.nodup_nested.map ?_, ?_⟩
    · exact fun _ _ h => (ParameterKey.mk.inj h).2
    · rintro ⟨scope, name⟩ ⟨scope', name'⟩ h
      obtain ⟨hscope, rfl⟩ := ParameterKey.mk.inj h
      rw [Option.some.inj hscope]
    · intro key hglobal hscoped
      obtain ⟨name, -, rfl⟩ := List.mem_map.mp hglobal
      obtain ⟨⟨scope, name'⟩, -, h⟩ := List.mem_map.mp hscoped
      cases (ParameterKey.mk.inj h).1
  mem_iff := by
    rintro ⟨scope | scope, name⟩ value
    · simp [toList, get?, ParameterKey.global, ParameterKey.inScope, Dict.mem_entries]
    · simp only [toList, get?, getScoped?, ParameterKey.global, ParameterKey.inScope,
        List.mem_append, List.mem_map, List.mem_flatMap, Prod.exists, Prod.mk.injEq,
        ParameterKey.mk.injEq, Option.some.injEq, reduceCtorEq, false_and, and_false, exists_false,
        false_or, Option.bind_eq_some_iff, ← Dict.mem_entries]
      constructor
      · rintro ⟨_, held, hheld, _, _, hvalue, ⟨rfl, rfl⟩, rfl⟩
        exact ⟨held, hheld, hvalue⟩
      · rintro ⟨held, hheld, hvalue⟩
        exact ⟨scope, held, hheld, name, value, hvalue, ⟨rfl, rfl⟩, rfl⟩

theorem length_toList (values : KeyedValues) : values.toList.length = values.size := by
  simp [toList, size, Dict.size, Dict.values, List.length_flatMap, foldr_add_eq_sum,
    Function.comp_def]

end KeyedValues

namespace ParameterStore

variable {store : ParameterStore}

/-! ## Histories -/

/-- The ways to write to a store. -/
inductive Operation where
  | setGlobal (name value : String)
  | setScoped (scope name value : String)
  | set (key : ParameterKey) (value : String)

namespace Operation

/-- The store after the operation, and what the operation answers. -/
def run (store : ParameterStore) : Operation → ParameterStore × Option String
  | setGlobal name value => store.setGlobal name value
  | setScoped scope name value => store.setScoped scope name value
  | set key value => store.set key value

/-- The key that is written, and the value that is given for it. -/
def write : Operation → ParameterKey × String
  | setGlobal name value => (.global name, value)
  | setScoped scope name value => (.inScope scope name, value)
  | set key value => (key, value)

theorem run_eq (op : Operation) (store : ParameterStore) :
    op.run store = store.set op.write.1 op.write.2 := by
  cases op <;> rfl

end Operation

/-- The store that a history leads to. -/
def after (replacements : Replacements) (ops : List Operation) : ParameterStore :=
  ops.foldl (fun store op => (op.run store).1) { replacements }

/-- What a history leaves under a key: the last value written there, replaced once if it is a
token. -/
def heldAfter (replacements : Replacements) (ops : List Operation) (key : ParameterKey) :
    Option String :=
  (valuesFor key (ops.map Operation.write)).getLast?.map fun value =>
    (replacements.get? value).getD value

theorem after_eq (replacements : Replacements) (ops : List Operation) :
    after replacements ops = setAll { replacements } (ops.map Operation.write) := by
  rw [after, setAll, List.foldl_map]
  congr 1
  funext store op
  rw [op.run_eq]

theorem value?_after (replacements : Replacements) (ops : List Operation) (key : ParameterKey) :
    ParameterSource.value? (after replacements ops) key = heldAfter replacements ops key := by
  rw [after_eq, value?_setAll, value?_unwritten, heldAfter]
  cases (valuesFor key (ops.map Operation.write)).getLast? <;> rfl

/-! ## The flat map -/

theorem snd_set (store : ParameterStore) (key : ParameterKey) (value : String) :
    (store.set key value).2 = ParameterSource.value? store key := by
  obtain ⟨scope | scope, name⟩ := key
  · rfl
  · exact store.values.snd_putScoped scope name (store.replacements.apply value)

theorem noneEmpty_set (h : store.values.scopes.NoneEmpty) (key : ParameterKey) (value : String) :
    (store.set key value).1.values.scopes.NoneEmpty := by
  obtain ⟨scope | scope, name⟩ := key
  · exact h
  · exact h.write scope _ name _

theorem noneEmpty_after (replacements : Replacements) (ops : List Operation) :
    (after replacements ops).values.scopes.NoneEmpty := by
  induction ops using List.reverseRecOn with
  | nil => exact .empty
  | append_singleton ops op ih =>
    rw [after, List.foldl_concat, op.run_eq]
    exact noneEmpty_set ih _ _

/-- The store answers as the map does, keys of scopes and global ones apart, and replaces what is
written to it by the table. -/
structure IsFlat (store : ParameterStore) (replacements : Replacements)
    (held : ParameterKey → Option String) : Prop where
  get? : ∀ name, ParameterSource.get? store name = held (.global name)
  getScoped? : ∀ scope name,
    ParameterSource.getScoped? store scope name = held (.inScope scope name)
  value? : ∀ key, ParameterSource.value? store key = held key
  /-- A write answers what was there. -/
  answer : ∀ op : Operation, (op.run store).2 = held op.write.1
  /-- What a write stores is not looked at again, and no other key changes. -/
  stored : ∀ (op : Operation) (key : ParameterKey),
    ParameterSource.value? (op.run store).1 key =
      if key = op.write.1 then some ((replacements.get? op.write.2).getD op.write.2)
      else held key
  size : store.size = (heldKeys held).ncard
  isEmpty : store.isEmpty = true ↔ ∀ key, held key = none
  toList : Lists store.values.toList held
  toSortedList : Lists store.toSortedList held
  scopes : ∀ scope, scope ∈ store.scopes ↔ ∃ name, (held (.inScope scope name)).isSome = true
  ascending_scopes : store.scopes.Pairwise (· < ·)
  namesMatching : ∀ scope pattern compiled, Pattern.whole pattern = .ok compiled →
    ∃ names, ParameterSource.namesMatching store scope pattern = .ok names ∧
      names.Pairwise (· < ·) ∧ ∀ name, name ∈ names ↔
        (held (.inScope scope name)).isSome = true ∧ compiled.isMatch name = true

/-- After every history a store is the flat map of what the last write to each key left. -/
theorem flat_after_writes (replacements : Replacements) (ops : List Operation) :
    (after replacements ops).IsFlat replacements (heldAfter replacements ops) := by
  have hvalue : ParameterSource.value? (after replacements ops) = heldAfter replacements ops :=
    funext (value?_after replacements ops)
  have hlists : Lists (after replacements ops).values.toList (heldAfter replacements ops) := by
    rw [← hvalue]
    exact (after replacements ops).values.lists_toList
  have hsize : (after replacements ops).size = (heldKeys (heldAfter replacements ops)).ncard := by
    rw [size, ← KeyedValues.length_toList, hlists.length_eq]
  have hreplacements : (after replacements ops).replacements = replacements := by
    rw [after_eq, replacements_setAll]
  refine {
    get? := fun name => value?_after replacements ops (.global name)
    getScoped? := fun scope name => value?_after replacements ops (.inScope scope name)
    value? := value?_after replacements ops
    answer := fun op => by rw [op.run_eq, snd_set, hvalue]
    stored := fun op key => by rw [op.run_eq, value?_set, hreplacements, hvalue]; rfl
    size := hsize
    isEmpty := ?_
    toList := hlists
    toSortedList := hlists.perm (List.mergeSort_perm _ _)
    scopes := fun scope => ?_
    ascending_scopes := Text.pairwise_sorted _
    namesMatching := fun scope pattern compiled hpattern => ?_ }
  · rw [isEmpty, beq_iff_eq, hsize, Set.ncard_eq_zero hlists.finite,
      Set.eq_empty_iff_forall_notMem]
    simp [heldKeys]
  · rw [ParameterStore.scopes, Text.mem_sorted, ← Dict.contains_iff,
      (noneEmpty_after replacements ops).contains_iff, ← hvalue]
    rfl
  · obtain ⟨names, hnames, hascending, hmem⟩ :=
      ParameterSource.namesMatching_eq_ok (after replacements ops) scope hpattern
    refine ⟨names, hnames, hascending, fun name => ?_⟩
    rw [hmem, ParameterSource.getScoped?, hvalue]

end ParameterStore

end EncodingPlan
