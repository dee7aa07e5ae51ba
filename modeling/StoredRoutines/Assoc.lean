/-!
Tables that keep their entries in the order in which the keys first came. Writing to a key that is
there keeps its place.
-/

namespace StoredRoutines.Assoc

variable {α β : Type} [BEq α]

/-- The table with the value at the key replaced, or the entry added at the end. -/
def put (k : α) (v : β) : List (α × β) → List (α × β)
  | [] => [(k, v)]
  | e :: es => if e.1 == k then (e.1, v) :: es else e :: put k v es

def putAll (table assignments : List (α × β)) : List (α × β) :=
  assignments.foldl (fun t e => put e.1 e.2 t) table

def ofPairs (assignments : List (α × β)) : List (α × β) := putAll [] assignments

def remove (k : α) (table : List (α × β)) : List (α × β) := table.filter (!·.1 == k)

def keys (table : List (α × β)) : List α := table.map (·.1)

def hasKey (k : α) (table : List (α × β)) : Bool := (table.lookup k).isSome

theorem lookup_put_self [LawfulBEq α] (k : α) (v : β) (table : List (α × β)) :
    (put k v table).lookup k = some v := by
  induction table with
  | nil => simp [put]
  | cons e es ih =>
    obtain ⟨j, x⟩ := e
    by_cases h : j = k
    · simp [put, h]
    · have hkj : (k == j) = false := by simpa using Ne.symm h
      simp [put, h, List.lookup_cons, hkj, ih]

theorem lookup_put_of_ne [LawfulBEq α] {k j : α} (h : j ≠ k) (v : β) (table : List (α × β)) :
    (put k v table).lookup j = table.lookup j := by
  have hjk : (j == k) = false := by simpa using h
  induction table with
  | nil => simp [put, List.lookup_cons, hjk]
  | cons e es ih =>
    obtain ⟨i, x⟩ := e
    by_cases hi : i = k
    · simp [put, hi, List.lookup_cons, hjk]
    · simp [put, hi, List.lookup_cons, ih]

end StoredRoutines.Assoc
