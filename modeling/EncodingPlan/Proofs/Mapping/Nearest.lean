import EncodingPlan.Mapping.Table
import EncodingPlan.Proofs.RuleSet.History

/-! What lookups in a mapping table find. After any writes and removals a key holds what the last of
them on this key left there, and a lookup finds what the first ancestor that holds anything holds.
Once that record is removed, the same lookup goes on from there. -/

namespace EncodingPlan.MappingTable

variable {table : MappingTable} {registry : Registry}

/-! ## Histories -/

/-- What is done to a table from outside. -/
inductive Operation where
  | put (key : MappingKey) (record : MappingRecord)
  | take (key : MappingKey)

namespace Operation

def apply (table : MappingTable) : Operation → MappingTable
  | put key record => (table.put key record).1
  | take key => (table.take key).1

def key : Operation → MappingKey
  | put key _ => key
  | take key => key

/-- What the operation leaves under its key. -/
def left? : Operation → Option MappingRecord
  | put _ record => some record
  | take _ => none

theorem get?_apply (op : Operation) (k : MappingKey) :
    (op.apply table).get? k = if k = op.key then op.left? else table.get? k := by
  cases op with
  | put key record => exact table.get?_put key record k
  | take key => exact table.get?_take key k

end Operation

/-- The table that a history leads to. -/
def after (ops : List Operation) : MappingTable := ops.foldl Operation.apply ∅

/-- What a history leaves under a key: the last operation on the key decides. -/
def heldAfter (ops : List Operation) (key : MappingKey) : Option MappingRecord :=
  (ops.reverse.find? fun op => op.key = key).bind Operation.left?

/-- A history leaves under every key what its last operation there left. -/
theorem get?_after (ops : List Operation) (key : MappingKey) :
    (after ops).get? key = heldAfter ops key := by
  induction ops using List.reverseRecOn with
  | nil => rfl
  | append_singleton ops op ih =>
    rw [after, List.foldl_concat, ← after, op.get?_apply, ih, heldAfter, heldAfter,
      List.reverse_concat, List.find?_cons]
    by_cases hkey : key = op.key
    · simp [hkey]
    · simp [hkey, Ne.symm hkey]

/-! ## Lookups -/

/-- The first set of the line that holds a record, and the record. -/
def Nearest (held : RuleSetName → Option MappingRecord) (line : List RuleSetName)
    (origin : RuleSetName) (record : MappingRecord) : Prop :=
  ∃ nearer farther, line = nearer ++ origin :: farther ∧ held origin = some record ∧
    ∀ a ∈ nearer, held a = none

/-- Both lookups of a key find the nearest record on the line, and nothing only if there is none. -/
structure FindsNearest (table : MappingTable) (registry : Registry) (key : MappingKey)
    (held : RuleSetName → Option MappingRecord) (line : List RuleSetName) : Prop where
  record : ∀ record, table.lookup registry key = some record ↔
    ∃ origin, Nearest held line origin record
  noRecord : table.lookup registry key = none ↔ ∀ a ∈ line, held a = none
  origin : ∀ origin record, table.lookupWithOrigin registry key = some (origin, record) ↔
    Nearest held line origin record
  noOrigin : table.lookupWithOrigin registry key = none ↔ ∀ a ∈ line, held a = none

/-- Going along a line, stopping at the first record. -/
theorem findsNearest_of_findSome? {key : MappingKey}
    {held : RuleSetName → Option MappingRecord} {line : List RuleSetName}
    (hlookup : table.lookup registry key = line.findSome? held)
    (horigin : table.lookupWithOrigin registry key =
      line.findSome? fun a => (held a).map fun record => (a, record)) :
    table.FindsNearest registry key held line where
  record record := by
    rw [hlookup, List.findSome?_eq_some_iff]
    exact exists_comm
  noRecord := by rw [hlookup, List.findSome?_eq_none_iff]
  origin origin record := by
    rw [horigin, List.findSome?_eq_some_iff]
    simp only [Option.map_eq_some_iff, Option.map_eq_none_iff, Prod.mk.injEq]
    constructor
    · rintro ⟨nearer, a, farther, hline, ⟨r, hr, rfl, rfl⟩, hnone⟩
      exact ⟨nearer, farther, hline, hr, hnone⟩
    · rintro ⟨nearer, farther, hline, hr, hnone⟩
      exact ⟨nearer, origin, farther, hline, ⟨record, hr, rfl, rfl⟩, hnone⟩
  noOrigin := by simp [horigin]

/-- A lookup that asks for the subject once asks for every key. -/
theorem lookup_eq (key : MappingKey) : table.lookup registry key =
    (registry.ancestors key.ruleSet).findSome? fun a => table.get? ⟨key.subject, a⟩ := by
  cases hheld : table.subjects.get? key.subject with
  | none =>
    rw [lookup, hheld, Option.bind_none]
    exact (List.findSome?_eq_none_iff.mpr fun a _ => by rw [get?, hheld, Option.bind_none]).symm
  | some held => simp [lookup, get?, hheld]

theorem lookupWithOrigin_eq (key : MappingKey) : table.lookupWithOrigin registry key =
    (registry.ancestors key.ruleSet).findSome? fun a =>
      (table.get? ⟨key.subject, a⟩).map fun record => (a, record) := by
  cases hheld : table.subjects.get? key.subject with
  | none =>
    rw [lookupWithOrigin, hheld, Option.bind_none]
    exact (List.findSome?_eq_none_iff.mpr fun a _ => by
      rw [get?, hheld, Option.bind_none, Option.map_none]).symm
  | some held => simp [lookupWithOrigin, get?, hheld]

theorem findsNearest (table : MappingTable) (registry : Registry) (key : MappingKey) :
    table.FindsNearest registry key (fun a => table.get? ⟨key.subject, a⟩)
      (registry.ancestors key.ruleSet) :=
  findsNearest_of_findSome? (lookup_eq key) (lookupWithOrigin_eq key)

private theorem findSome?_congr {α β : Type} {l : List α} {f g : α → Option β}
    (h : ∀ a ∈ l, f a = g a) : l.findSome? f = l.findSome? g := by
  induction l with
  | nil => rfl
  | cons a l ih =>
    obtain ⟨ha, hl⟩ := List.forall_mem_cons.mp h
    rw [List.findSome?_cons, List.findSome?_cons, ha, ih hl]

/-- Where nothing is found up to a place, the search is one from behind it. -/
private theorem findSome?_skip {α β : Type} {nearer farther : List α} {origin : α}
    {f g : α → Option β} (hnearer : ∀ a ∈ nearer, f a = none) (horigin : f origin = none)
    (hfarther : ∀ a ∈ farther, f a = g a) :
    (nearer ++ origin :: farther).findSome? f = farther.findSome? g := by
  rw [List.findSome?_append, List.findSome?_eq_none_iff.mpr hnearer, Option.none_or,
    List.findSome?_cons, horigin]
  exact findSome?_congr hfarther

/-- Without the nearest record, lookups find what is nearest behind it. -/
theorem findsNearest_take {key : MappingKey} {origin : RuleSetName}
    {nearer farther : List RuleSetName}
    (hline : registry.ancestors key.ruleSet = nearer ++ origin :: farther)
    (hnodup : (registry.ancestors key.ruleSet).Nodup)
    (hnearer : ∀ a ∈ nearer, table.get? ⟨key.subject, a⟩ = none) :
    (table.take ⟨key.subject, origin⟩).1.FindsNearest registry key
      (fun a => table.get? ⟨key.subject, a⟩) farther := by
  have hnot : origin ∉ farther := by
    rw [hline] at hnodup
    exact (List.nodup_cons.mp (List.nodup_append.mp hnodup).2.1).1
  have hleft (a : RuleSetName) : (table.take ⟨key.subject, origin⟩).1.get? ⟨key.subject, a⟩ =
      if a = origin then none else table.get? ⟨key.subject, a⟩ := by
    simp [get?_take]
  have hnearerLeft : ∀ a ∈ nearer,
      (table.take ⟨key.subject, origin⟩).1.get? ⟨key.subject, a⟩ = none := by
    intro a ha
    rw [hleft, hnearer a ha, ite_self]
  have hfarther : ∀ a ∈ farther, (table.take ⟨key.subject, origin⟩).1.get? ⟨key.subject, a⟩ =
      table.get? ⟨key.subject, a⟩ := by
    intro a ha
    rw [hleft, if_neg]
    rintro rfl
    exact hnot ha
  refine findsNearest_of_findSome? ?_ ?_
  · rw [lookup_eq, hline]
    exact findSome?_skip hnearerLeft (by rw [hleft, if_pos rfl]) hfarther
  · rw [lookupWithOrigin_eq, hline]
    refine findSome?_skip (fun a ha => ?_) ?_ (fun a ha => ?_)
    · rw [hnearerLeft a ha, Option.map_none]
    · rw [hleft, if_pos rfl, Option.map_none]
    · rw [hfarther a ha]

/-- After every history of the table and of the registry, a lookup finds what its history left under
the nearest ancestor that holds anything. The set looked up is under the origin, and when the record
of the origin is removed, the lookup finds the nearest one among the ancestors behind it. -/
theorem after_findsNearest (h : registry.Reachable) (ops : List Operation) (key : MappingKey) :
    (∀ k, (after ops).get? k = heldAfter ops k) ∧
      (after ops).FindsNearest registry key (fun a => heldAfter ops ⟨key.subject, a⟩)
        (registry.ancestors key.ruleSet) ∧
      ∀ origin record,
        (after ops).lookupWithOrigin registry key = some (origin, record) →
          registry.isUnder key.ruleSet origin = true ∧
          ∃ nearer farther, registry.ancestors key.ruleSet = nearer ++ origin :: farther ∧
            ((after ops).take ⟨key.subject, origin⟩).1.FindsNearest registry key
              (fun a => heldAfter ops ⟨key.subject, a⟩) farther := by
  have hfinds := (after ops).findsNearest registry key
  simp only [get?_after] at hfinds
  refine ⟨get?_after ops, hfinds, fun origin record hfound => ?_⟩
  obtain ⟨nearer, farther, hline, -, hnearer⟩ := (hfinds.origin origin record).mp hfound
  refine ⟨?_, nearer, farther, hline, ?_⟩
  · rw [Registry.isUnder, hline]
    simp
  · have hnodup := (h.coherent.isLine_ancestors key.ruleSet).nodup
    simp only [← get?_after] at hnearer ⊢
    exact findsNearest_take hline hnodup hnearer

/-- Two sets on a loop hold records of one subject. The nearer one was overwritten, and hides the
other until it is removed. -/
theorem after_findsNearest_of_loop :
    let a : RuleSetName := .ofText "a"
    let b : RuleSetName := .ofText "b"
    let registry := [.declareRuleSet a (some b) [], .declareRuleSet b (some a) []].foldl
      Registry.Operation.apply Registry.bare
    let table := after [.put ⟨"T", a⟩ (.single "1"), .put ⟨"T", b⟩ (.single "2"),
      .put ⟨"T", a⟩ (.single "3"), .take ⟨"U", a⟩]
    registry.Reachable ∧ table.lookup registry ⟨"T", a⟩ = some (.single "3") ∧
      (table.take ⟨"T", a⟩).1.lookup registry ⟨"T", a⟩ = some (.single "2") := by
  intro a b registry table
  have hreach : registry.Reachable := Registry.Reachable.bare.run _
  obtain ⟨_, hfinds, hnext⟩ := after_findsNearest hreach [.put ⟨"T", a⟩ (.single "1"),
    .put ⟨"T", b⟩ (.single "2"), .put ⟨"T", a⟩ (.single "3"), .take ⟨"U", a⟩] ⟨"T", a⟩
  have hab : registry.ancestors a = [a, b] := by rfl
  have hnearest : Nearest (fun c => heldAfter [.put ⟨"T", a⟩ (.single "1"),
      .put ⟨"T", b⟩ (.single "2"), .put ⟨"T", a⟩ (.single "3"), .take ⟨"U", a⟩] ⟨"T", c⟩)
        (registry.ancestors a) a (.single "3") :=
    ⟨[], [b], hab, by decide, by simp⟩
  obtain ⟨_, nearer, farther, hline, hleft⟩ := hnext a _ ((hfinds.origin _ _).mpr hnearest)
  refine ⟨hreach, (hfinds.record _).mpr ⟨a, hnearest⟩, (hleft.record _).mpr ⟨b, ?_⟩⟩
  obtain ⟨rfl, rfl⟩ : nearer = [] ∧ farther = [b] := by
    rw [hab] at hline
    have hba : b ≠ a := by decide
    rcases nearer with _ | ⟨c, _ | ⟨d, nearer⟩⟩
    · exact ⟨rfl, (List.cons.inj hline).2.symm⟩
    · exact absurd (List.cons.inj (List.cons.inj hline).2).1 hba
    · simp at hline
  exact ⟨[], [], rfl, by decide, by simp⟩

end EncodingPlan.MappingTable
