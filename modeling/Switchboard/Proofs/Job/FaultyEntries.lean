import Switchboard.Event
import Switchboard.Proofs.Job.EmptyFields
import Switchboard.Proofs.Text.Blank

/-!
# Switchboard.Proofs.Job.FaultyEntries

A `menuOptions` property that is no list, neither an array nor a text that encodes one. It counts
for nothing: what is compiled is the same as without it, and at most a warning is left of it. A list
gives one entry for each of its items, in order.

* `Bag.cleared_without`: a bag is as good without a property that lists nothing.
* `Bag.events_of_no_list`: what is reported of such a property.
* `Job.faulty_entries_contained`: both, for a node anywhere in a diagram.
-/

namespace Switchboard

/-- The value is a list of these items, or a text that encodes one. -/
inductive Json.Lists : Json → List Json → Prop where
  | array (items : List Json) : Lists (.array items) items
  | text {s : String} {items : List Json} : Json.parse? s = some (.array items) →
      Lists (.string s) items

/-- The value is a text, and some of it is not blank. -/
def Json.IsWriting (v : Json) : Prop := ∃ s, v = .string s ∧ ∃ c ∈ s.toList, Text.isBlank c = false

def Bag.without (bag : Bag) (name : String) : Bag := bag.filter (·.1 ≠ name)

/-- The types of node that may have entries. -/
def HasEntries (tag : String) : Prop := tag = "gather-input" ∨ tag = "ivr-menu"

/-- An entry is made from an item: field by field from its properties if it is an object, else from
nothing. -/
inductive MenuEntry.MadeFrom : Json → MenuEntry → Prop where
  | object (members : Bag) : MadeFrom (.object members) {
      key := members.text? "key"
      label := members.text? "label"
      value := members.text? "value"
      option := members.text? "option"
      destination := members.text? "destination"
      order := members.count? "order"
      description := members.text? "description"
      enabled := members.flag? "enabled" }
  | other {item : Json} : (∀ members, item ≠ .object members) →
      MadeFrom item ⟨none, none, none, none, none, none, none, none⟩

def Step.entries : Step → List MenuEntry
  | .gather g => g.entries
  | .menu s => s.entries
  | _ => []

def Event.WarnsOf (id : String) (e : Event) : Prop :=
  e.level = .warn ∧ ("node_id", .string id) ∈ e.fields

/-- A compilation of a diagram that has the node `n` between others. -/
def Job.around (before after : List Node) (edges : List Edge) (name : String) (o : Options)
    (n : Node) : Job :=
  ⟨⟨before ++ n :: after, edges⟩, name, o⟩

/-! ## Lists -/

namespace Json

theorem start_of_isBlank {c : Char} (h : Text.isBlank c = true) :
    start c = some (none, .between) ∨ start c = none := by
  have hdigit : c.isDigit = false := by
    by_contra hc
    simp [Text.isBlank_of_isDigit (by simpa using hc)] at h
  fun_cases start c with
  | case1 | case2 | case3 | case4 => exact .inl rfl
  | case18 => exact .inr rfl
  | _ => simp_all [Text.isBlank]

theorem scan_of_isBlank {cs : List Char} (h : ∀ c ∈ cs, Text.isBlank c = true) :
    scan [] .between cs = some [] ∨ scan [] .between cs = none := by
  induction cs with
  | nil => exact .inl rfl
  | cons c cs ih =>
    obtain ⟨hc, hcs⟩ := List.forall_mem_cons.mp h
    obtain hstart | hstart := start_of_isBlank hc
    · simpa [scan, advance, hstart] using ih hcs
    · simp [scan, advance, hstart]

theorem parse?_of_isBlank {s : String} (h : ∀ c ∈ s.toList, Text.isBlank c = true) :
    parse? s = none := by
  rw [parse?, Tree.ofChars?, tokens?]
  obtain hscan | hscan := scan_of_isBlank h
  · rw [hscan]
    rfl
  · rw [hscan]
    rfl

end Json

namespace MenuEntry

variable {v : Json} {items : List Json}

theorem readAll_of_lists (h : v.Lists items) : readAll (some v) = .ok (items.map ofJson) := by
  cases h with
  | array items => rfl
  | @text s items hparse =>
    have hblank : ¬ s.toList.all Text.isBlank = true := by
      intro hall
      simp [Json.parse?_of_isBlank (List.all_eq_true.mp hall)] at hparse
    rw [readAll, if_neg hblank, hparse]

/-- What is no list has no entries; it is a fault if it is written down. -/
theorem readAll_of_no_list (h : ∀ items, ¬ v.Lists items) :
    (readAll (some v) = .ok [] ∧ ¬ v.IsWriting) ∨
      ∃ fault, readAll (some v) = .error fault ∧ v.IsWriting := by
  have hother (hv : ∀ s, v ≠ .string s) : ¬ v.IsWriting := by
    rintro ⟨s, hs, -⟩
    exact hv s hs
  cases v with
  | array items => exact absurd (.array items) (h items)
  | string s =>
    by_cases hblank : s.toList.all Text.isBlank = true
    · refine .inl ⟨by rw [readAll, if_pos hblank], ?_⟩
      rintro ⟨_, ⟨⟩, c, hc, hc'⟩
      simp [List.all_eq_true.mp hblank c hc] at hc'
    · have hwriting : (Json.string s).IsWriting := ⟨s, rfl, by simpa using hblank⟩
      right
      rw [readAll, if_neg hblank]
      cases hparse : Json.parse? s with
      | none => exact ⟨_, rfl, hwriting⟩
      | some w =>
        cases w with
        | array items => exact absurd (.text hparse) (h items)
        | _ => exact ⟨_, rfl, hwriting⟩
  | _ => exact .inl ⟨rfl, hother fun s hs => by cases hs⟩

theorem itemsOf_of_no_list (h : ∀ items, ¬ v.Lists items) : itemsOf (some v) = [] := by
  have hnone : ofProperty (some v) = [] := by
    rw [ofProperty]
    obtain ⟨hread, -⟩ | ⟨fault, hread, -⟩ := readAll_of_no_list h
    · rw [hread]
    · rw [hread]
  rwa [ofProperty_eq, List.map_eq_nil_iff] at hnone

theorem fault?_of_no_list (h : ∀ items, ¬ v.Lists items) :
    (v.IsWriting → ∃ fault, fault? (some v) = some fault) ∧
    (¬ v.IsWriting → fault? (some v) = none) := by
  rw [fault?]
  obtain ⟨hread, hwriting⟩ | ⟨fault, hread, hwriting⟩ := readAll_of_no_list h
  · exact ⟨fun hw => absurd hw hwriting, fun _ => by rw [hread]⟩
  · exact ⟨fun _ => ⟨fault, by rw [hread]⟩, fun hw => absurd hwriting hw⟩

theorem madeFrom_iff {item : Json} {e : MenuEntry} : MadeFrom item e ↔ ofJson item = e := by
  constructor
  · intro h
    cases h with
    | object members => rfl
    | other hother =>
      cases item with
      | object members => exact absurd rfl (hother members)
      | _ => rfl
  · rintro rfl
    cases item with
    | object members => exact .object members
    | _ => exact .other nofun

theorem forall₂_madeFrom_iff {entries : List MenuEntry} :
    List.Forall₂ MadeFrom items entries ↔ items.map ofJson = entries := by
  rw [← List.forall₂_eq_eq_eq, List.forall₂_map_left_iff]
  exact ⟨.imp fun _ _ => madeFrom_iff.mp, .imp fun _ _ => madeFrom_iff.mpr⟩

end MenuEntry

/-! ## Bags -/

namespace Bag

variable {bag : Bag} {v : Json} {id tag : String}

theorem get?_without (bag : Bag) (name name' : String) :
    (bag.without name).get? name' = if name' = name then none else bag.get? name' := by
  rw [without, get?, get?]
  induction bag with
  | nil => simp
  | cons e bag ih =>
    obtain ⟨k, w⟩ := e
    by_cases hk : k = name
    · subst hk
      rw [List.filter_cons_of_neg (by simp), ih, lookup_cons_eq_ite]
      split <;> simp_all
    · rw [List.filter_cons_of_pos (by simpa using hk), lookup_cons_eq_ite, lookup_cons_eq_ite, ih]
      split <;> simp_all

theorem cleared_without (hv : bag.get? "menuOptions" = some v) (h : ∀ items, ¬ v.Lists items) :
    bag.Cleared (bag.without "menuOptions") where
  property name hname := .inl (by rw [get?_without, if_neg hname])
  items := by
    rw [hv, get?_without, if_pos rfl, MenuEntry.itemsOf_of_no_list h]
    exact .nil

theorem hasEntries_iff :
    HasEntries tag ↔ Family.ofTag tag = .gather ∨ Family.ofTag tag = .menu := by
  rw [Family.ofTag_eq_iff (by decide), Family.ofTag_eq_iff (by decide)]
  simp [HasEntries, Family.tags]

/-- A node that may have entries is reported if the property is written down. -/
theorem events_of_no_list (hv : bag.get? "menuOptions" = some v) (h : ∀ items, ¬ v.Lists items) :
    (HasEntries tag ∧ v.IsWriting → ∃ e, bag.events id tag = [e] ∧ e.WarnsOf id) ∧
    (¬ (HasEntries tag ∧ v.IsWriting) → bag.events id tag = []) := by
  obtain ⟨hfault, hnone⟩ := MenuEntry.fault?_of_no_list h
  have hevents (hentries : HasEntries tag) :
      bag.events id tag = (MenuEntry.fault? (some v)).toList.map (.entriesIgnored id) := by
    rw [events, hv]
    obtain hfamily | hfamily := hasEntries_iff.mp hentries
    · rw [hfamily]
    · rw [hfamily]
  constructor
  · rintro ⟨hentries, hwriting⟩
    obtain ⟨fault, hsome⟩ := hfault hwriting
    refine ⟨.entriesIgnored id fault, ?_, rfl, ?_⟩
    · rw [hevents hentries, hsome]
      rfl
    · cases fault <;> exact List.mem_cons_self
  · intro hnot
    by_cases hentries : HasEntries tag
    · have hwriting : ¬ v.IsWriting := fun hw => hnot ⟨hentries, hw⟩
      rw [hevents hentries, hnone hwriting]
      rfl
    · rw [hasEntries_iff, not_or] at hentries
      rw [events]
      split
      · exact absurd ‹_› hentries.1
      · exact absurd ‹_› hentries.2
      · rfl

theorem entries_of_lists {items : List Json} (hentries : HasEntries tag)
    (hv : bag.get? "menuOptions" = some v) (h : v.Lists items) :
    (Step.ofBag (.ofTag tag) bag).entries = items.map MenuEntry.ofJson := by
  have hread : MenuEntry.ofProperty (some v) = items.map MenuEntry.ofJson := by
    rw [MenuEntry.ofProperty, MenuEntry.readAll_of_lists h]
  rw [← hread, ← hv]
  obtain hfamily | hfamily := hasEntries_iff.mp hentries
  · rw [hfamily]
    rfl
  · rw [hfamily]
    rfl

end Bag

namespace Job

variable {tag : String} {bag : Bag} {v : Json}

/-- A step is read the same without a property that lists nothing; only a node without a meaning of
its own keeps what it has. -/
theorem step_without (hentries : HasEntries tag)
    (hcleared : bag.Cleared (bag.without "menuOptions")) :
    Step.ofBag (.ofTag tag) bag = .ofBag (.ofTag tag) (bag.without "menuOptions") := by
  obtain heq | ⟨kept, -, hother, -⟩ := (hcleared.step_alike (.ofTag tag)).eq_or_other
  · exact heq.symm
  · have hfamily := Step.family_ofBag (.ofTag tag) bag
    rw [hother] at hfamily
    obtain htag | htag := Bag.hasEntries_iff.mp hentries
    · rw [htag] at hfamily
      cases hfamily
    · rw [htag] at hfamily
      cases hfamily

/-- Where two nodes do the same, it does not matter which of them stands in a diagram. -/
theorem compile_around (before after : List Node) (edges : List Edge) (name : String) (o : Options)
    {n n' : Node} (h : n.AlikeUnder (fun i => i) n') (target : Target) (r : Option Routing) :
    (around before after edges name o n).compile target r =
      (around before after edges name o n').compile target r := by
  have hrefl (ns : List Node) : List.Forall₂ (Node.AlikeUnder fun i => i) ns ns :=
    List.forall₂_same.mpr fun m _ => .refl m
  have halike : (around before after edges name o n).diagram.AlikeAtNodes
      (around before after edges name o n').diagram := {
    nodes_alike := List.rel_append (hrefl before) (.cons h (hrefl after))
    leaving_eq := fun _ _ => rfl }
  exact compile_of_alike_of_successors halike name o (fun _ => rfl) (fun _ => rfl) target r

/-- A `menuOptions` property that is no list is contained: reading it gives the step that there is
without it, compiling any diagram around the node gives the same artifact, and one warning is given
if something is written in its place. A list gives an entry for each of its items. -/
theorem faulty_entries_contained (id tag : String) (position : Option Position) (bag : Bag)
    (v : Json) (hv : bag.get? "menuOptions" = some v) :
    ((∀ items, ¬ v.Lists items) →
      (HasEntries tag →
        Step.ofBag (.ofTag tag) bag = .ofBag (.ofTag tag) (bag.without "menuOptions")) ∧
      (∀ before after edges name o target r,
        (around before after edges name o
          { Node.ofBag id tag bag with position := position }).compile target r =
        (around before after edges name o
          { Node.ofBag id tag (bag.without "menuOptions") with position := position }).compile
            target r) ∧
      (HasEntries tag ∧ v.IsWriting → ∃ e, bag.events id tag = [e] ∧ e.WarnsOf id) ∧
      (¬ (HasEntries tag ∧ v.IsWriting) → bag.events id tag = [])) ∧
    ∀ items, v.Lists items → HasEntries tag →
      List.Forall₂ MenuEntry.MadeFrom items (Step.ofBag (.ofTag tag) bag).entries := by
  constructor
  · intro h
    have hcleared := Bag.cleared_without hv h
    refine ⟨fun hentries => step_without hentries hcleared, ?_, Bag.events_of_no_list hv h⟩
    intro before after edges name o target r
    refine compile_around before after edges name o ?_ target r
    exact ⟨rfl, rfl, hcleared.step_alike (.ofTag tag)⟩
  · intro items h hentries
    exact MenuEntry.forall₂_madeFrom_iff.mpr (Bag.entries_of_lists hentries hv h).symm

def deskItems : List Json := [
  .object [("key", .string "1"), ("label", .string "Sales")],
  .nat 7,
  .object [("key", .string "2"), ("order", .nat 20)]]

def deskText : String :=
  "[\x7b\"key\": \"1\", \"label\": \"Sales\"\x7d, 7, \x7b\"key\": \"2\", \"order\": 20\x7d]"

/-- Two desks of which the first has the properties `first`, and the second its list as a text. -/
def desks (first : Bag) : Job :=
  around [] [.ofBag "second" "gather-input" [("menuOptions", .string deskText)]] [] "Desks" .default
    (.ofBag "first" "gather-input" first)

/-- If the first desk's list is cut off, the menu is the second desk's, as it is if the first has no
list. Each entry there is made from the item at its place. -/
theorem desks_faulty_entries_contained :
    let cut : Bag := [("menuOptions", .string "[7, ")]
    (∀ r, (desks cut).compile .menu r = (desks []).compile .menu r) ∧
    (∃ e, cut.events "first" "gather-input" = [e] ∧ e.WarnsOf "first") ∧
    (desks cut).diagram.anchor.origin = .gatherNode "second" ∧
    ∃ entries, (desks cut).diagram.gatherNode?.map (·.2.entries) = some entries ∧
      List.Forall₂ MenuEntry.MadeFrom deskItems entries ∧
      entries.map (fun e => (e.key, e.label, e.order)) =
        [(some "1", some "Sales", none), (none, none, none), (some "2", none, some 20)] := by
  intro cut
  have hcut : ∀ items, ¬ (Json.string "[7, ").Lists items := by
    have hparse : Json.parse? "[7, " = none := by rfl
    rintro items h
    cases h with
    | text h => simp [hparse] at h
  have hlist : (Json.string deskText).Lists deskItems := .text (by rfl)
  obtain ⟨hcontained, -⟩ := faulty_entries_contained "first" "gather-input" none cut _ rfl
  obtain ⟨-, hcompile, hwarning, -⟩ := hcontained hcut
  obtain ⟨-, hentries⟩ := faulty_entries_contained "second" "gather-input" none
    [("menuOptions", .string deskText)] _ rfl
  have hmade := hentries deskItems hlist (.inl rfl)
  refine ⟨fun r => hcompile [] _ [] "Desks" .default .menu r, ?_, by rfl, _, by rfl, hmade, ?_⟩
  · exact hwarning ⟨.inl rfl, "[7, ", rfl, '[', by decide, rfl⟩
  · rw [← MenuEntry.forall₂_madeFrom_iff.mp hmade]
    rfl

end Job
end Switchboard
