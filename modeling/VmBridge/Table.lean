/-!
# Tables

A table assigns values to finitely many keys.  It is kept as a list of pairs
in which no key occurs twice; the order of the pairs means nothing.  `get?` is
the view through which the operations are described.
-/

namespace VmBridge

/-- Values under distinct keys. -/
structure Table (κ ν : Type) where
  entries : List (κ × ν)
  nodup_keys : (entries.map Prod.fst).Nodup

namespace Table

variable {κ ν : Type}

/-- The table without entries. -/
def empty : Table κ ν := ⟨[], List.nodup_nil⟩

instance : Inhabited (Table κ ν) := ⟨empty⟩

/-- The keys. -/
def keys (table : Table κ ν) : List κ := table.entries.map Prod.fst

/-- The number of keys. -/
def size (table : Table κ ν) : Nat := table.entries.length

/-- Put a value under a key that is new, which needs no search. -/
def add (table : Table κ ν) (key : κ) (value : ν) (absent : key ∉ table.keys) : Table κ ν :=
  ⟨(key, value) :: table.entries, List.nodup_cons.mpr ⟨absent, table.nodup_keys⟩⟩

theorem mem_keys_add {table : Table κ ν} {key query : κ} {value : ν}
    {absent : key ∉ table.keys} :
    query ∈ (table.add key value absent).keys ↔ query = key ∨ query ∈ table.keys :=
  List.mem_cons

variable [DecidableEq κ]

/-- The value paired with a key in a list of pairs. -/
def lookup (key : κ) : List (κ × ν) → Option ν
  | [] => none
  | (other, value) :: rest => if other = key then some value else lookup key rest

/-- Put a value under a key in a list of pairs, at the end if the key is
new. -/
def put (key : κ) (value : ν) : List (κ × ν) → List (κ × ν)
  | [] => [(key, value)]
  | (other, old) :: rest =>
      if other = key then (key, value) :: rest else (other, old) :: put key value rest

/-- Take the first pair with a key out of a list of pairs. -/
def takeOut (key : κ) : List (κ × ν) → List (κ × ν)
  | [] => []
  | (other, value) :: rest =>
      if other = key then rest else (other, value) :: takeOut key rest

theorem map_fst_put (key : κ) (value : ν) (entries : List (κ × ν)) :
    (put key value entries).map Prod.fst =
      if key ∈ entries.map Prod.fst then entries.map Prod.fst
      else entries.map Prod.fst ++ [key] := by
  induction entries with
  | nil => simp [put]
  | cons entry rest ih =>
      obtain ⟨other, old⟩ := entry
      by_cases same : other = key
      · simp [put, same]
      · have other_ne : ¬ key = other := fun equal => same equal.symm
        by_cases present : key ∈ rest.map Prod.fst
        · simp only [put, same, if_false, List.map_cons, ih, present, if_true,
            List.mem_cons, or_true]
        · simp only [put, same, if_false, List.map_cons, ih, present, List.mem_cons,
            other_ne, or_self, List.cons_append]

theorem nodup_put (key : κ) (value : ν) (entries : List (κ × ν))
    (distinct : (entries.map Prod.fst).Nodup) :
    ((put key value entries).map Prod.fst).Nodup := by
  rw [map_fst_put]
  split
  · exact distinct
  · rename_i absent
    rw [List.nodup_append]
    refine ⟨distinct, by simp, ?_⟩
    intro first member second same
    rw [List.mem_singleton] at same
    subst same
    exact fun equal => absent (equal ▸ member)

theorem takeOut_sublist (key : κ) (entries : List (κ × ν)) :
    List.Sublist (takeOut key entries) entries := by
  induction entries with
  | nil => exact List.Sublist.refl []
  | cons entry rest ih =>
      obtain ⟨other, value⟩ := entry
      by_cases same : other = key
      · rw [takeOut, if_pos same]
        exact List.sublist_cons_self _ _
      · rw [takeOut, if_neg same]
        exact ih.cons_cons _

/-- The value under a key. -/
def get? (table : Table κ ν) (key : κ) : Option ν := lookup key table.entries

/-- The value under a key, or a default. -/
def getD (table : Table κ ν) (key : κ) (default : ν) : ν := (table.get? key).getD default

/-- Whether there is a value under a key. -/
def contains (table : Table κ ν) (key : κ) : Bool := (table.get? key).isSome

/-- Put a value under a key. -/
def insert (table : Table κ ν) (key : κ) (value : ν) : Table κ ν :=
  ⟨put key value table.entries, nodup_put key value table.entries table.nodup_keys⟩

/-- Remove a key and its value. -/
def erase (table : Table κ ν) (key : κ) : Table κ ν :=
  ⟨takeOut key table.entries,
    table.nodup_keys.sublist ((takeOut_sublist key table.entries).map Prod.fst)⟩

/-- The table of a list of pairs; of two pairs with one key the later
counts. -/
def ofList (pairs : List (κ × ν)) : Table κ ν :=
  pairs.foldl (fun table pair => table.insert pair.1 pair.2) empty

@[simp] theorem get?_empty (key : κ) : (empty : Table κ ν).get? key = none := rfl

theorem lookup_put (key query : κ) (value : ν) (entries : List (κ × ν)) :
    lookup query (put key value entries) =
      if key = query then some value else lookup query entries := by
  induction entries with
  | nil => simp [put, lookup]
  | cons entry rest ih =>
      obtain ⟨other, old⟩ := entry
      by_cases same : other = key
      · subst same
        by_cases found : other = query <;> simp [put, lookup, found]
      · by_cases found : other = query
        · subst found
          have other_ne : ¬ key = other := fun equal => same equal.symm
          simp [put, lookup, same, other_ne]
        · simp [put, lookup, same, found, ih]

/-- After an insertion the key has its new value and the others are as they
were. -/
theorem get?_insert (table : Table κ ν) (key query : κ) (value : ν) :
    (table.insert key value).get? query =
      if key = query then some value else table.get? query :=
  lookup_put key query value table.entries

theorem lookup_isSome_iff (key : κ) (entries : List (κ × ν)) :
    (lookup key entries).isSome = true ↔ key ∈ entries.map Prod.fst := by
  induction entries with
  | nil => simp [lookup]
  | cons entry rest ih =>
      obtain ⟨other, old⟩ := entry
      by_cases same : other = key
      · simp [lookup, same]
      · have other_ne : ¬ key = other := fun equal => same equal.symm
        simp only [lookup, same, if_false, ih, List.map_cons, List.mem_cons, other_ne,
          false_or]

theorem lookup_eq_none {key : κ} {entries : List (κ × ν)}
    (absent : key ∉ entries.map Prod.fst) : lookup key entries = none := by
  rw [← lookup_isSome_iff, Bool.not_eq_true, Option.isSome_eq_false_iff] at absent
  exact Option.isNone_iff_eq_none.mp absent

/-- After an addition the key has its value and the others are as they were. -/
theorem get?_add (table : Table κ ν) (key query : κ) (value : ν)
    (absent : key ∉ table.keys) :
    (table.add key value absent).get? query =
      if key = query then some value else table.get? query :=
  rfl

theorem lookup_takeOut (key query : κ) (entries : List (κ × ν))
    (distinct : (entries.map Prod.fst).Nodup) :
    lookup query (takeOut key entries) =
      if key = query then none else lookup query entries := by
  induction entries with
  | nil => simp [takeOut, lookup]
  | cons entry rest ih =>
      obtain ⟨other, value⟩ := entry
      rw [List.map_cons, List.nodup_cons] at distinct
      by_cases same : other = key
      · subst same
        by_cases found : other = query
        · subst found
          rw [takeOut, if_pos rfl, if_pos rfl]
          exact lookup_eq_none distinct.1
        · simp [takeOut, lookup, found]
      · by_cases found : other = query
        · subst found
          have other_ne : ¬ key = other := fun equal => same equal.symm
          simp [takeOut, lookup, same, other_ne]
        · simp [takeOut, lookup, same, found, ih distinct.2]

/-- After a removal the key has no value and the others are as they were. -/
theorem get?_erase (table : Table κ ν) (key query : κ) :
    (table.erase key).get? query = if key = query then none else table.get? query :=
  lookup_takeOut key query table.entries table.nodup_keys

/-- A key has a value exactly when it is one of the keys. -/
theorem contains_iff (table : Table κ ν) (key : κ) :
    table.contains key = true ↔ key ∈ table.keys :=
  lookup_isSome_iff key table.entries

theorem mem_keys_of_mem_keys_erase {table : Table κ ν} {key query : κ}
    (member : query ∈ (table.erase key).keys) : query ∈ table.keys :=
  ((takeOut_sublist key table.entries).map Prod.fst).subset member

theorem mem_keys_insert {table : Table κ ν} {key query : κ} {value : ν} :
    query ∈ (table.insert key value).keys ↔ query = key ∨ query ∈ table.keys := by
  rw [← contains_iff, ← contains_iff, contains, contains, get?_insert]
  by_cases same : key = query
  · simp [same]
  · have other_ne : ¬ query = key := fun equal => same equal.symm
    simp [same, other_ne]

theorem mem_keys_of_get? {table : Table κ ν} {key : κ} {value : ν}
    (found : table.get? key = some value) : key ∈ table.keys := by
  rw [← contains_iff, contains, found]
  rfl

end Table

end VmBridge
