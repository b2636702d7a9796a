/-!
# Switchboard.OrderedMap

Finite maps from names that remember the order in which the names came. Giving a name a new value
keeps its place (`keys_insert`, `get?_insert`).
-/

namespace Switchboard

/-- Gives `key` the value `v`: in its place if it has one, else at the end. -/
def setEntry {α : Type} (key : String) (v : α) : List (String × α) → List (String × α)
  | [] => [(key, v)]
  | (k, w) :: rest => if k = key then (k, v) :: rest else (k, w) :: setEntry key v rest

theorem map_fst_setEntry {α : Type} (key : String) (v : α) (es : List (String × α)) :
    (setEntry key v es).map (·.1) =
      if key ∈ es.map (·.1) then es.map (·.1) else es.map (·.1) ++ [key] := by
  induction es with
  | nil => simp [setEntry]
  | cons e es ih =>
    obtain ⟨k, w⟩ := e
    by_cases h : k = key
    · simp [setEntry, h]
    · simp only [setEntry, h, if_false, List.map_cons, ih, List.mem_cons, Ne.symm h, false_or]
      split <;> simp

theorem lookup_cons_eq_ite {α : Type} (k key : String) (v : α) (es : List (String × α)) :
    ((key, v) :: es).lookup k = if k = key then some v else es.lookup k := by
  by_cases h : k = key
  · simp [h]
  · simp [List.lookup_cons, beq_false_of_ne h, h]

theorem lookup_setEntry {α : Type} (key : String) (v : α) (es : List (String × α)) (k : String) :
    (setEntry key v es).lookup k = if k = key then some v else es.lookup k := by
  induction es with
  | nil => exact lookup_cons_eq_ite k key v []
  | cons e es ih =>
    obtain ⟨l, w⟩ := e
    by_cases hl : l = key
    · subst hl
      rw [setEntry, if_pos rfl, lookup_cons_eq_ite, lookup_cons_eq_ite]
      split <;> rfl
    · rw [setEntry, if_neg hl, lookup_cons_eq_ite, lookup_cons_eq_ite, ih]
      by_cases hk : k = l
      · subst hk
        rw [if_pos rfl, if_neg hl, if_pos rfl]
      · rw [if_neg hk, if_neg hk]

structure OrderedMap (α : Type) where
  entries : List (String × α)
  nodup : (entries.map (·.1)).Nodup

namespace OrderedMap

variable {α : Type}

def empty : OrderedMap α := ⟨[], List.nodup_nil⟩

def insert (m : OrderedMap α) (key : String) (v : α) : OrderedMap α where
  entries := setEntry key v m.entries
  nodup := by
    rw [map_fst_setEntry]
    split
    · exact m.nodup
    · rename_i h
      rw [List.nodup_append]
      exact ⟨m.nodup, by simp, fun a ha b hb hab => by simp_all⟩

def get? (m : OrderedMap α) (key : String) : Option α := m.entries.lookup key

def keys (m : OrderedMap α) : List String := m.entries.map (·.1)

def values (m : OrderedMap α) : List α := m.entries.map (·.2)

def contains (m : OrderedMap α) (key : String) : Bool := m.keys.contains key

def size (m : OrderedMap α) : Nat := m.entries.length

def isEmpty (m : OrderedMap α) : Bool := m.entries.isEmpty

def insertAll (m : OrderedMap α) (es : List (String × α)) : OrderedMap α :=
  es.foldl (fun m (key, v) => m.insert key v) m

def ofList (es : List (String × α)) : OrderedMap α := empty.insertAll es

theorem keys_insert (m : OrderedMap α) (key : String) (v : α) :
    (m.insert key v).keys = if key ∈ m.keys then m.keys else m.keys ++ [key] :=
  map_fst_setEntry key v m.entries

theorem get?_insert (m : OrderedMap α) (key : String) (v : α) (k : String) :
    (m.insert key v).get? k = if k = key then some v else m.get? k :=
  lookup_setEntry key v m.entries k

@[ext] theorem ext {m n : OrderedMap α} (h : m.entries = n.entries) : m = n := by
  cases m; cases n; cases h; rfl

end OrderedMap
end Switchboard
