/-
Module: MethodForge.SortedMap
Purpose: Finite maps from texts, kept as a list of entries in strictly ascending order of their keys.
  The order is part of the type, so that two maps with the same entries are equal and a walk over a
  map meets the keys in order.
Main exports: SortedMap, SortedMap.find?, SortedMap.insert, SortedMap.ofList, SortedMap.keys
-/

namespace MethodForge

/-- Entries whose keys ascend strictly. -/
def Ascending {α : Type} (entries : List (String × α)) : Prop :=
  entries.Pairwise fun earlier later => earlier.1 < later.1

/-- A finite map from texts. -/
structure SortedMap (α : Type) where
  entries : List (String × α)
  ascending : Ascending entries

namespace SortedMap

variable {α : Type}

theorem ext {first second : SortedMap α} (same : first.entries = second.entries) :
    first = second := by
  cases first; cases second; cases same; rfl

instance [DecidableEq α] : DecidableEq (SortedMap α) := fun first second =>
  if same : first.entries = second.entries then isTrue (ext same)
  else isFalse fun equal => same (equal ▸ rfl)

instance [Repr α] : Repr (SortedMap α) := ⟨fun map => reprPrec map.entries⟩

/-- The map without entries. -/
def empty : SortedMap α := ⟨[], List.Pairwise.nil⟩

instance : Inhabited (SortedMap α) := ⟨empty⟩

/-- Puts an entry in its place; an entry that is there under the same key gives way. -/
def insertEntry (key : String) (value : α) : List (String × α) → List (String × α)
  | [] => [(key, value)]
  | entry :: rest =>
      if key < entry.1 then (key, value) :: entry :: rest
      else if key = entry.1 then (key, value) :: rest
      else entry :: insertEntry key value rest

theorem mem_insertEntry {key : String} {value : α} {entry : String × α}
    {entries : List (String × α)} (member : entry ∈ insertEntry key value entries) :
    entry = (key, value) ∨ entry ∈ entries := by
  induction entries with
  | nil => exact Or.inl (by simpa [insertEntry] using member)
  | cons head tail ih =>
      unfold insertEntry at member
      split at member
      · simpa using member
      · split at member
        · rcases List.mem_cons.1 member with same | inTail
          · exact Or.inl same
          · exact Or.inr (List.mem_cons_of_mem _ inTail)
        · rcases List.mem_cons.1 member with same | inTail
          · exact Or.inr (same ▸ List.mem_cons_self ..)
          · exact (ih inTail).imp id (List.mem_cons_of_mem _)

theorem ascending_insertEntry {key : String} {value : α} {entries : List (String × α)}
    (ascending : Ascending entries) : Ascending (insertEntry key value entries) := by
  induction entries with
  | nil => exact List.pairwise_singleton ..
  | cons head tail ih =>
      obtain ⟨below, ascendingTail⟩ := List.pairwise_cons.1 ascending
      unfold insertEntry
      split
      · rename_i less
        refine List.pairwise_cons.2 ⟨fun entry member => ?_, ascending⟩
        rcases List.mem_cons.1 member with same | inTail
        · exact same ▸ less
        · exact String.lt_trans less (below entry inTail)
      · split
        · rename_i same
          exact List.pairwise_cons.2 ⟨fun entry member => same ▸ below entry member, ascendingTail⟩
        · rename_i notLess different
          refine List.pairwise_cons.2 ⟨fun entry member => ?_, ih ascendingTail⟩
          rcases mem_insertEntry member with same | inTail
          · subst same
            exact Classical.byContradiction fun notGreater =>
              different (String.le_antisymm (String.not_lt.1 notGreater) (String.not_lt.1 notLess))
          · exact below entry inTail

/-- The map with one entry put in or replaced. -/
def insert (map : SortedMap α) (key : String) (value : α) : SortedMap α :=
  ⟨insertEntry key value map.entries, ascending_insertEntry map.ascending⟩

/-- The value under a key. -/
def find? (map : SortedMap α) (key : String) : Option α :=
  map.entries.lookup key

theorem lookup_insertEntry_self (key : String) (value : α) (entries : List (String × α)) :
    (insertEntry key value entries).lookup key = some value := by
  induction entries with
  | nil => simp [insertEntry]
  | cons head tail ih =>
      obtain ⟨first, held⟩ := head
      unfold insertEntry
      split
      · simp
      · split
        · simp
        · rename_i different
          simp [List.lookup_cons, beq_false_of_ne different, ih]

theorem lookup_insertEntry_other {key other : String} (different : other ≠ key) (value : α)
    (entries : List (String × α)) :
    (insertEntry key value entries).lookup other = entries.lookup other := by
  induction entries with
  | nil => simp [insertEntry, List.lookup_cons, beq_false_of_ne different]
  | cons head tail ih =>
      obtain ⟨first, held⟩ := head
      unfold insertEntry
      split
      · simp [List.lookup_cons, beq_false_of_ne different]
      · split
        · rename_i same
          simp [List.lookup_cons, same ▸ beq_false_of_ne different, beq_false_of_ne different]
        · simp [List.lookup_cons, ih]

/-- The entry that was put in is found under its key. -/
@[simp] theorem find?_insert_self (map : SortedMap α) (key : String) (value : α) :
    (map.insert key value).find? key = some value :=
  lookup_insertEntry_self key value map.entries

/-- Putting an entry in changes nothing under any other key. -/
theorem find?_insert_other (map : SortedMap α) {key other : String} (different : other ≠ key)
    (value : α) : (map.insert key value).find? other = map.find? other :=
  lookup_insertEntry_other different value map.entries

/-- Whether there is an entry under a key. -/
def contains (map : SortedMap α) (key : String) : Bool :=
  (map.find? key).isSome

/-- The keys, in ascending order. -/
def keys (map : SortedMap α) : List String :=
  map.entries.map (·.1)

/-- The keys ascend strictly. -/
theorem keys_pairwise (map : SortedMap α) : map.keys.Pairwise (· < ·) :=
  List.pairwise_map.2 map.ascending

/-- The keys are those under which there is a value. -/
theorem mem_keys {map : SortedMap α} {key : String} : key ∈ map.keys ↔ (map.find? key).isSome := by
  rw [keys, find?, List.lookup_isSome_iff, List.mem_map]
  constructor
  · rintro ⟨entry, member, rfl⟩
    exact ⟨entry, member, beq_self_eq_true _⟩
  · rintro ⟨entry, member, same⟩
    exact ⟨entry, member, (beq_iff_eq.1 same).symm⟩

/-- The number of entries. -/
def size (map : SortedMap α) : Nat :=
  map.entries.length

/-- Whether there is no entry. -/
def isEmpty (map : SortedMap α) : Bool :=
  map.entries.isEmpty

/-- The map with the given entries; of two under the same key the later one counts. -/
def ofList (entries : List (String × α)) : SortedMap α :=
  entries.foldl (fun map entry => map.insert entry.1 entry.2) empty

/-- An entry whose key is above all others comes last. -/
theorem insertEntry_of_above {key : String} (value : α) {entries : List (String × α)}
    (above : ∀ entry ∈ entries, entry.1 < key) :
    insertEntry key value entries = entries ++ [(key, value)] := by
  induction entries with
  | nil => rfl
  | cons head tail ih =>
      have less := above head List.mem_cons_self
      have notBelow : ¬ key < head.1 := fun greater =>
        String.lt_irrefl key (String.lt_trans greater less)
      have different : ¬ key = head.1 := fun same => String.lt_irrefl key (same ▸ less)
      rw [insertEntry, if_neg notBelow, if_neg different,
        ih fun entry member => above entry (List.mem_cons_of_mem _ member), List.cons_append]

theorem entries_foldl_insert {map : SortedMap α} {entries : List (String × α)}
    (ascending : Ascending (map.entries ++ entries)) :
    (entries.foldl (fun map entry => map.insert entry.1 entry.2) map).entries =
      map.entries ++ entries := by
  induction entries generalizing map with
  | nil => exact (List.append_nil _).symm
  | cons entry rest ih =>
      have above : ∀ before ∈ map.entries, before.1 < entry.1 := fun before member =>
        (List.pairwise_append.1 ascending).2.2 before member entry List.mem_cons_self
      have inserted : (map.insert entry.1 entry.2).entries = map.entries ++ [entry] :=
        insertEntry_of_above entry.2 above
      rw [List.append_cons, ← inserted] at ascending
      rw [List.foldl_cons, ih ascending, inserted, ← List.append_cons]

/-- A map is made up of its entries. -/
theorem ofList_entries (map : SortedMap α) : ofList map.entries = map := by
  have ascending : Ascending ((empty : SortedMap α).entries ++ map.entries) := map.ascending
  exact ext (entries_foldl_insert ascending)

/-- One more entry is put in after the others. -/
theorem ofList_concat (entries : List (String × α)) (entry : String × α) :
    ofList (entries ++ [entry]) = (ofList entries).insert entry.1 entry.2 := by
  rw [ofList, List.foldl_append]
  rfl

end SortedMap

end MethodForge
