import Mathlib.Data.List.Nodup
import Mathlib.Data.Set.Function
import Switchboard.OrderedMap

/-!
# Switchboard.Proofs.OrderedMap

Ordered maps that are built by one insertion after another. The names stand in the order in which
each first comes (`keys_ofList`), and the value of a name is the one that it was given last
(`get?_ofList`).
-/

namespace Switchboard

theorem eraseDups_of_nodup {xs : List String} (h : xs.Nodup) : xs.eraseDups = xs := by
  induction xs with
  | nil => rfl
  | cons x xs ih =>
    obtain ⟨hx, hxs⟩ := List.nodup_cons.mp h
    have hf : xs.filter (fun y => !y == x) = xs := by
      rw [List.filter_eq_self]
      intro y hy
      have hyx : y ≠ x := fun e => hx (e ▸ hy)
      simp [hyx]
    rw [List.eraseDups_cons, hf, ih hxs]

/-- A name that has come before adds nothing. -/
theorem eraseDups_append_cons_of_mem {xs : List String} {x : String} (h : x ∈ xs)
    (ys : List String) : (xs ++ x :: ys).eraseDups = (xs ++ ys).eraseDups := by
  rw [List.eraseDups_append, List.eraseDups_append, List.cons_removeAll]
  simp [h]

/-- It does not matter whether names are dropped before or after repeated ones are. -/
theorem eraseDups_filter (p : String → Bool) (xs : List String) :
    (xs.filter p).eraseDups = xs.eraseDups.filter p := by
  induction hn : xs.length using Nat.strongRecOn generalizing xs with
  | ind n ih =>
    cases xs with
    | nil => rfl
    | cons x xs =>
      have hlt : (xs.filter fun y => !y == x).length < n := by
        have := List.length_filter_le (fun y => !y == x) xs
        rw [List.length_cons] at hn
        omega
      rw [List.eraseDups_cons, List.filter_cons, List.filter_cons, ← ih _ hlt _ rfl,
        List.filter_filter]
      by_cases hx : p x = true
      · rw [if_pos hx, if_pos hx, List.eraseDups_cons, List.filter_filter]
        simp only [Bool.and_comm]
      · rw [if_neg hx, if_neg hx]
        congr 1
        apply List.filter_congr
        intro y _
        by_cases hy : y = x
        · subst hy
          simp [hx]
        · simp [hy]

/-- Where all values of a name agree, looking the name up gives that value. -/
theorem lookup_eq_some_of_forall {α : Type} {es : List (String × α)} {key : String} {v : α}
    (hmem : key ∈ es.map (·.1)) (hv : ∀ w, (key, w) ∈ es → w = v) : es.lookup key = some v := by
  cases hl : es.lookup key with
  | none =>
    obtain ⟨⟨k, w⟩, he, hk⟩ := List.mem_map.mp hmem
    have hne := List.lookup_eq_none_iff.mp hl (k, w) he
    simp at hne
    exact absurd hk.symm hne
  | some w =>
    obtain ⟨before, after, hes, -⟩ := List.lookup_eq_some_iff.mp hl
    rw [hv w (by rw [hes]; simp)]

theorem lookup_eq_none_of_not_mem {α : Type} {es : List (String × α)} {key : String}
    (h : key ∉ es.map (·.1)) : es.lookup key = none := by
  rw [List.lookup_eq_none_iff]
  intro e he
  have hne : key ≠ e.1 := fun heq => h (List.mem_map.mpr ⟨e, he, heq.symm⟩)
  simpa using hne

/-- Where each name has one value, the entries are what can be looked up. -/
theorem mem_iff_lookup {α : Type} {es : List (String × α)} (h : (es.map (·.1)).Nodup)
    {key : String} {v : α} : (key, v) ∈ es ↔ es.lookup key = some v := by
  constructor
  · intro hmem
    apply lookup_eq_some_of_forall (List.mem_map_of_mem hmem)
    intro w hw
    exact congrArg (·.2) (List.inj_on_of_nodup_map h hw hmem rfl)
  · intro hl
    obtain ⟨before, after, rfl, -⟩ := List.lookup_eq_some_iff.mp hl
    simp

theorem lookup_map_snd {α β : Type} (f : α → β) (es : List (String × α)) (key : String) :
    (es.map fun e => (e.1, f e.2)).lookup key = (es.lookup key).map f := by
  induction es with
  | nil => rfl
  | cons e es ih =>
    obtain ⟨k, v⟩ := e
    rw [List.map_cons, lookup_cons_eq_ite, lookup_cons_eq_ite, ih]
    split <;> rfl

namespace OrderedMap

variable {α : Type}

theorem nodup_keys (m : OrderedMap α) : m.keys.Nodup := m.nodup

theorem isSome_get? (m : OrderedMap α) (key : String) :
    (m.get? key).isSome = true ↔ key ∈ m.keys := by
  rw [get?, List.lookup_isSome_iff, keys, List.mem_map]
  constructor
  · rintro ⟨e, he, hk⟩
    exact ⟨e, he, (by simpa using hk : key = e.1).symm⟩
  · rintro ⟨e, he, rfl⟩
    exact ⟨e, he, by simp⟩

theorem values_eq_filterMap (m : OrderedMap α) : m.values = m.keys.filterMap m.get? := by
  rw [values, keys, List.filterMap_map, ← List.filterMap_eq_map]
  exact List.filterMap_congr fun e he => ((mem_iff_lookup m.nodup).mp he).symm

/-- After many insertions the names stand in the order in which each came first. -/
theorem keys_insertAll (m : OrderedMap α) (es : List (String × α)) :
    (m.insertAll es).keys = (m.keys ++ es.map (·.1)).eraseDups := by
  induction es generalizing m with
  | nil =>
    rw [List.map_nil, List.append_nil, eraseDups_of_nodup m.nodup_keys]
    rfl
  | cons e es ih =>
    obtain ⟨key, v⟩ := e
    have hstep : m.insertAll ((key, v) :: es) = (m.insert key v).insertAll es := rfl
    rw [hstep, ih, keys_insert, List.map_cons]
    split
    · rename_i h
      rw [eraseDups_append_cons_of_mem h]
    · rw [List.append_assoc, List.singleton_append]

/-- After many insertions a name has the value that it was given last. -/
theorem get?_insertAll (m : OrderedMap α) (es : List (String × α)) (key : String) :
    (m.insertAll es).get? key = (es.reverse.lookup key).or (m.get? key) := by
  induction es generalizing m with
  | nil => rfl
  | cons e es ih =>
    obtain ⟨k, v⟩ := e
    have hstep : m.insertAll ((k, v) :: es) = (m.insert k v).insertAll es := rfl
    rw [hstep, ih, get?_insert, List.reverse_cons, List.lookup_append, Option.or_assoc,
      lookup_cons_eq_ite]
    split <;> rfl

theorem keys_ofList (es : List (String × α)) : (ofList es).keys = (es.map (·.1)).eraseDups :=
  keys_insertAll empty es

theorem nodup_eraseDups (xs : List String) : xs.eraseDups.Nodup := by
  have h := (ofList (xs.map fun x => (x, ()))).nodup_keys
  rw [keys_ofList, List.map_map] at h
  simpa [Function.comp_def] using h

theorem get?_ofList (es : List (String × α)) (key : String) :
    (ofList es).get? key = es.reverse.lookup key := by
  rw [ofList, get?_insertAll]
  exact Option.or_none

/-- Entries that agree on the value of a name give it that value, wherever they stand. -/
theorem get?_ofList_of_forall {es : List (String × α)} {key : String} {v : α}
    (hmem : key ∈ es.map (·.1)) (hv : ∀ w, (key, w) ∈ es → w = v) :
    (ofList es).get? key = some v := by
  rw [get?_ofList]
  apply lookup_eq_some_of_forall
  · rw [List.map_reverse, List.mem_reverse]
    exact hmem
  · intro w hw
    exact hv w (List.mem_reverse.mp hw)

theorem get?_ofList_of_not_mem {es : List (String × α)} {key : String}
    (h : key ∉ es.map (·.1)) : (ofList es).get? key = none := by
  cases hg : (ofList es).get? key with
  | none => rfl
  | some v =>
    have hk : key ∈ (ofList es).keys := by
      rw [← isSome_get?, hg]
      rfl
    rw [keys_ofList, List.mem_eraseDups] at hk
    exact absurd hk h

theorem setEntry_of_not_mem {key : String} {v : α} {es : List (String × α)}
    (h : key ∉ es.map (·.1)) : setEntry key v es = es ++ [(key, v)] := by
  induction es with
  | nil => rfl
  | cons e es ih =>
    obtain ⟨k, w⟩ := e
    rw [List.map_cons, List.mem_cons, not_or] at h
    rw [setEntry, if_neg (Ne.symm h.1), ih h.2, List.cons_append]

/-- Entries of new and different names are kept as they are. -/
theorem entries_insertAll_of_nodup (m : OrderedMap α) {es : List (String × α)}
    (h : (m.keys ++ es.map (·.1)).Nodup) : (m.insertAll es).entries = m.entries ++ es := by
  induction es generalizing m with
  | nil => exact (List.append_nil _).symm
  | cons e es ih =>
    obtain ⟨key, v⟩ := e
    have hnew : key ∉ m.keys := by
      intro hk
      exact (List.nodup_append.mp h).2.2 key hk key (by simp) rfl
    have hkeys : (m.insert key v).keys = m.keys ++ [key] := by
      rw [keys_insert, if_neg hnew]
    have hentries : (m.insert key v).entries = m.entries ++ [(key, v)] :=
      setEntry_of_not_mem hnew
    have hrest : ((m.insert key v).keys ++ es.map (·.1)).Nodup := by
      rw [hkeys, List.append_assoc, List.singleton_append]
      exact h
    have hstep : m.insertAll ((key, v) :: es) = (m.insert key v).insertAll es := rfl
    rw [hstep, ih _ hrest, hentries, List.append_assoc, List.singleton_append]

theorem entries_ofList_of_nodup {es : List (String × α)} (h : (es.map (·.1)).Nodup) :
    (ofList es).entries = es :=
  entries_insertAll_of_nodup empty h

/-! ## Other names -/

section

variable {β : Type} {S : Set String} {r : String → String} (f : α → β)

theorem setEntry_map (hr : Set.InjOn r S) {key : String} (v : α) {es : List (String × α)}
    (hkey : key ∈ S) (hes : ∀ e ∈ es, e.1 ∈ S) :
    setEntry (r key) (f v) (es.map fun e => (r e.1, f e.2)) =
      (setEntry key v es).map fun e => (r e.1, f e.2) := by
  induction es with
  | nil => rfl
  | cons e es ih =>
    obtain ⟨k, w⟩ := e
    obtain ⟨hk, hes⟩ := List.forall_mem_cons.mp hes
    have heq : r k = r key ↔ k = key := hr.eq_iff hk hkey
    by_cases h : k = key
    · simp [setEntry, h]
    · simp [setEntry, heq, h, ih hes]

theorem mem_of_mem_setEntry {key : String} {v : α} {es : List (String × α)} (hkey : key ∈ S)
    (hes : ∀ e ∈ es, e.1 ∈ S) : ∀ e ∈ setEntry key v es, e.1 ∈ S := by
  intro e he
  have hfst : e.1 ∈ (setEntry key v es).map (·.1) := List.mem_map_of_mem he
  rw [map_fst_setEntry] at hfst
  have hmem : e.1 ∈ es.map (·.1) ∨ e.1 = key := by
    split at hfst
    · exact .inl hfst
    · simpa using hfst
  obtain hold | hnew := hmem
  · obtain ⟨e', he', heq⟩ := List.mem_map.mp hold
    exact heq ▸ hes e' he'
  · exact hnew ▸ hkey

theorem entries_insertAll_map (hr : Set.InjOn r S) (es : List (String × α)) :
    ∀ (m : OrderedMap α) (m' : OrderedMap β), (∀ e ∈ m.entries, e.1 ∈ S) → (∀ e ∈ es, e.1 ∈ S) →
      m'.entries = m.entries.map (fun e => (r e.1, f e.2)) →
      (m'.insertAll (es.map fun e => (r e.1, f e.2))).entries =
        (m.insertAll es).entries.map fun e => (r e.1, f e.2) := by
  induction es with
  | nil =>
    intro m m' _ _ h
    exact h
  | cons e es ih =>
    intro m m' hm hes h
    obtain ⟨hkey, hes⟩ := List.forall_mem_cons.mp hes
    apply ih (m.insert e.1 e.2) (m'.insert (r e.1) (f e.2)) _ hes
    · show setEntry (r e.1) (f e.2) m'.entries = _
      rw [h, setEntry_map f hr e.2 hkey hm]
      rfl
    · exact mem_of_mem_setEntry hkey hm

theorem entries_ofList_map (hr : Set.InjOn r S) {es : List (String × α)} (hes : ∀ e ∈ es, e.1 ∈ S) :
    (ofList (es.map fun e => (r e.1, f e.2))).entries =
      (ofList es).entries.map fun e => (r e.1, f e.2) :=
  entries_insertAll_map f hr es empty empty (fun _ he => absurd he List.not_mem_nil) hes rfl

end

end OrderedMap
end Switchboard
