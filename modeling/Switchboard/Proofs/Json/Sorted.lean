import Mathlib.Data.List.Sort
import Switchboard.Json.Printer
import Switchboard.Flow.State
import Switchboard.Proofs.OrderedMap

/-!
# Switchboard.Proofs.Json.Sorted

JSON values with sorted members. Two objects are the same value in this form if and only if every
name has the same value in both, in whatever order the members stand (`sortKeys_object_eq_iff`).
-/

namespace Switchboard

section

variable {α : Type} {es es' : List (String × α)}

/-- Entries of different names are the same, up to their order, if each name has one value. -/
theorem perm_iff_lookup_eq (h : (es.map (·.1)).Nodup) (h' : (es'.map (·.1)).Nodup) :
    es.Perm es' ↔ ∀ key, es.lookup key = es'.lookup key := by
  rw [List.perm_ext_iff_of_nodup h.of_map h'.of_map]
  constructor
  · intro hmem key
    apply Option.ext
    intro v
    rw [← mem_iff_lookup h, ← mem_iff_lookup h', hmem]
  · rintro hl ⟨key, v⟩
    rw [mem_iff_lookup h, mem_iff_lookup h', hl]

end

namespace Json

theorem sortKeysMembers_eq_map (ms : List (String × Json)) :
    sortKeysMembers ms = ms.map fun m => (m.1, m.2.sortKeys) := by
  induction ms with
  | nil => rfl
  | cons m ms ih => rw [sortKeysMembers, ih, List.map_cons]

/-- Sorting by names forgets the order of the members and nothing else. -/
theorem mergeSort_eq_iff {ms ms' : List (String × Json)} (h : (ms.map (·.1)).Nodup) :
    (ms.mergeSort fun a b => decide (a.1 ≤ b.1)) = (ms'.mergeSort fun a b => decide (a.1 ≤ b.1)) ↔
      ms.Perm ms' := by
  have hperm (l : List (String × Json)) : (l.mergeSort fun a b => decide (a.1 ≤ b.1)).Perm l :=
    List.mergeSort_perm l _
  have hsorted (l : List (String × Json)) :
      (l.mergeSort fun a b => decide (a.1 ≤ b.1)).Pairwise fun a b => a.1 ≤ b.1 := by
    have htrans (a b c : String × Json) :
        decide (a.1 ≤ b.1) = true → decide (b.1 ≤ c.1) = true → decide (a.1 ≤ c.1) = true := by
      simpa using String.le_trans
    have htotal (a b : String × Json) : (decide (a.1 ≤ b.1) || decide (b.1 ≤ a.1)) = true := by
      simpa using String.le_total a.1 b.1
    simpa using List.pairwise_mergeSort htrans htotal l
  constructor
  · intro he
    exact (hperm ms).symm.trans (he ▸ hperm ms')
  · intro hp
    refine ((hperm ms).trans (hp.trans (hperm ms').symm)).eq_of_pairwise ?_ (hsorted ms)
      (hsorted ms')
    -- Members of one name are one member.
    intro a b ha hb hab hba
    have ha' : a ∈ ms := (hperm ms).mem_iff.mp ha
    have hb' : b ∈ ms := hp.mem_iff.mpr ((hperm ms').mem_iff.mp hb)
    exact List.inj_on_of_nodup_map h ha' hb' (String.le_antisymm hab hba)

theorem sortKeys_object_eq_iff {ms ms' : List (String × Json)} (h : (ms.map (·.1)).Nodup)
    (h' : (ms'.map (·.1)).Nodup) :
    (object ms).sortKeys = (object ms').sortKeys ↔
      ∀ name, (ms.lookup name).map sortKeys = (ms'.lookup name).map sortKeys := by
  have hnames (l : List (String × Json)) :
      (l.map fun m => (m.1, m.2.sortKeys)).map (·.1) = l.map (·.1) := by
    rw [List.map_map]
    rfl
  simp only [sortKeys, sortKeysMembers_eq_map, object.injEq]
  rw [mergeSort_eq_iff (by rwa [hnames]), perm_iff_lookup_eq (by rwa [hnames]) (by rwa [hnames])]
  simp only [lookup_map_snd]

/-! ## Members that may be missing -/

theorem lookup_presentMembers {ms : List (String × Option Json)} (h : (ms.map (·.1)).Nodup)
    (name : String) : (presentMembers ms).lookup name = (ms.lookup name).join := by
  induction ms with
  | nil => rfl
  | cons m ms ih =>
    obtain ⟨key, v⟩ := m
    obtain ⟨hkey, hrest⟩ := List.nodup_cons.mp h
    have htail : (presentMembers ms).lookup name = (ms.lookup name).join := ih hrest
    rw [lookup_cons_eq_ite]
    cases v with
    | none =>
      have hskip : presentMembers ((key, none) :: ms) = presentMembers ms := rfl
      rw [hskip, htail]
      split
      · next hname =>
        -- The name does not come again.
        subst hname
        rw [lookup_eq_none_of_not_mem hkey]
        rfl
      · rfl
    | some v =>
      have hkeep : presentMembers ((key, some v) :: ms) = (key, v) :: presentMembers ms := rfl
      rw [hkeep, lookup_cons_eq_ite, htail]
      split <;> rfl

theorem nodup_presentMembers {ms : List (String × Option Json)} (h : (ms.map (·.1)).Nodup) :
    ((presentMembers ms).map (·.1)).Nodup := by
  refine h.sublist ?_
  induction ms with
  | nil => exact .slnil
  | cons m ms ih =>
    obtain ⟨key, v⟩ := m
    have htail := ih (List.nodup_cons.mp h).2
    cases v with
    | none => exact htail.cons key
    | some v => exact htail.cons_cons key

theorem sortKeysMembers_presentMembers (ms : List (String × Option Json)) :
    sortKeysMembers (presentMembers ms) =
      presentMembers (ms.map fun m => (m.1, m.2.map sortKeys)) := by
  rw [sortKeysMembers_eq_map, presentMembers, presentMembers, List.map_filterMap,
    List.filterMap_map]
  congr 1
  funext m
  cases hm : m.2 <;> simp [hm]

/-- The object with these names and values; a name without a value is left out. -/
def record (names : List String) (values : List (Option Json)) : Json :=
  object (presentMembers (names.zip values))

/-- Two records with the same names are the same value if and only if they agree member by member;
what is missing in one has to be missing in the other. -/
theorem sortKeys_record_eq_iff {names : List String} (h : names.Nodup) {vs ws : List (Option Json)}
    (hv : vs.length = names.length) (hw : ws.length = names.length) :
    (record names vs).sortKeys = (record names ws).sortKeys ↔
      vs.map (Option.map sortKeys) = ws.map (Option.map sortKeys) := by
  have hnames (us : List (Option Json)) (hu : us.length = names.length) :
      ((names.zip us).map (·.1)).Nodup := by
    rwa [← List.unzip_fst, List.unzip_zip_left hu.ge]
  have hvalue (us : List (Option Json)) (hu : us.length = names.length) (i : Nat)
      (hi : i < us.length) : (names.zip us).lookup (names.get ⟨i, hu ▸ hi⟩) = some us[i] := by
    rw [← mem_iff_lookup (hnames us hu), List.mem_iff_getElem]
    exact ⟨i, by simp [hi, ← hu], by simp⟩
  constructor
  · intro he
    rw [record, record, sortKeys_object_eq_iff (nodup_presentMembers (hnames vs hv))
      (nodup_presentMembers (hnames ws hw))] at he
    apply List.ext_getElem (by simp [hv, hw])
    intro i hi hi'
    rw [List.length_map] at hi hi'
    have hname := he (names.get ⟨i, hv ▸ hi⟩)
    rw [lookup_presentMembers (hnames vs hv), lookup_presentMembers (hnames ws hw),
      hvalue vs hv i hi, hvalue ws hw i hi'] at hname
    simpa using hname
  · intro he
    have hzip (us : List (Option Json)) : (names.zip us).map (fun m => (m.1, m.2.map sortKeys)) =
        names.zip (us.map (Option.map sortKeys)) := by
      rw [List.zip_map_right]
      rfl
    simp only [record, sortKeys, sortKeysMembers_presentMembers, hzip, he]

/-- An object made of a map says of each name what the map does. -/
theorem sortKeys_entries_eq_iff {α : Type} (f : α → Json) (m m' : OrderedMap α) :
    (object (m.entries.map fun e => (e.1, f e.2))).sortKeys =
        (object (m'.entries.map fun e => (e.1, f e.2))).sortKeys ↔
      ∀ key, (m.get? key).map (fun v => (f v).sortKeys) =
        (m'.get? key).map fun v => (f v).sortKeys := by
  have hnames (m : OrderedMap α) : ((m.entries.map fun e => (e.1, f e.2)).map (·.1)).Nodup := by
    rw [List.map_map]
    exact m.nodup
  rw [sortKeys_object_eq_iff (hnames m) (hnames m')]
  simp only [lookup_map_snd, Option.map_map]
  rfl

end Json
end Switchboard
