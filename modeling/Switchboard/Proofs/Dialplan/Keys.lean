import Switchboard.Proofs.Flow.Assembly
import Switchboard.Job

/-!
# Switchboard.Proofs.Dialplan.Keys

The names that the unique ids of dialplans are made from. Context, name and number are joined by
colons, which any of them may hold, too: what is lost is where one ends and the next begins, and
nothing else.

* `Dialplan.uuidKey_eq_iff`: the names of two dialplans are the same just if their fields between
  colons are.
* `Dialplan.sameExtension_iff`: the fields and the number of colons in context and name tell the
  extension.
* `Dialplan.uuids_of_flows_eq_iff`: when two flows give the same id.
* `colons_shift`: two compiled flows whose ids clash.
-/

namespace Switchboard

/-- Two names in a namespace are different and give the same id. -/
def Uuid.Collide (space : Uuid) (name name' : String) : Prop :=
  name ≠ name' ∧ ofName space name = ofName space name'

namespace Text

def fields (s : String) : List (List Char) := s.toList.splitOn ':'

theorem fields_injective {s t : String} (h : fields s = fields t) : s = t := by
  have hjoin (s : String) : [':'].intercalate (fields s) = s.toList := List.intercalate_splitOn ':'
  rw [← String.toList_inj, ← hjoin s, ← hjoin t, h]

theorem fields_append_colon (s t : String) : fields (s ++ ":" ++ t) = fields s ++ fields t := by
  have hjoin : (s ++ ":" ++ t).toList = s.toList ++ ':' :: t.toList := by
    rw [String.toList_append, String.toList_append, List.append_assoc]
    rfl
  rw [fields, hjoin, List.splitOn_append_cons_self]
  rfl

theorem length_fields (s : String) : (fields s).length = s.toList.count ':' + 1 := by
  rw [fields]
  induction s.toList with
  | nil => rfl
  | cons c cs ih =>
    rw [List.splitOn, List.splitOnP_cons_eq_if_modifyHead, ← List.splitOn]
    by_cases hc : c = ':'
    · subst hc
      simp [ih]
    · simp [hc, ih]

end Text

namespace Dialplan

open Text

def SameExtension (d e : Dialplan) : Prop :=
  d.context = e.context ∧ d.name = e.name ∧ d.number = e.number

def uuidKey (d : Dialplan) : String := uuidName d.context d.name d.number

def keyFields (d : Dialplan) : List (List Char) :=
  fields d.context ++ fields d.name ++ fields d.number

theorem fields_uuidKey (d : Dialplan) : fields d.uuidKey = "callflow".toList :: d.keyFields := by
  have hkey : d.uuidKey =
      "callflow" ++ ":" ++ (d.context ++ ":" ++ d.name ++ ":" ++ d.number) := by
    simp only [uuidKey, uuidName, ← String.append_assoc]
    rfl
  rw [hkey, fields_append_colon, fields_append_colon, fields_append_colon]
  rfl

theorem uuidKey_eq_iff {d e : Dialplan} : d.uuidKey = e.uuidKey ↔ d.keyFields = e.keyFields := by
  constructor
  · intro h
    have hfields := congrArg fields h
    rw [fields_uuidKey, fields_uuidKey] at hfields
    exact (List.cons.inj hfields).2
  · intro h
    apply fields_injective
    rw [fields_uuidKey, fields_uuidKey, h]

/-- Where context and name end is all that the fields do not tell. -/
theorem sameExtension_iff {d e : Dialplan} :
    d.SameExtension e ↔ d.keyFields = e.keyFields ∧
      d.context.toList.count ':' = e.context.toList.count ':' ∧
      d.name.toList.count ':' = e.name.toList.count ':' := by
  constructor
  · rintro ⟨hcontext, hname, hnumber⟩
    rw [keyFields, keyFields, hcontext, hname, hnumber]
    exact ⟨rfl, rfl, rfl⟩
  · rintro ⟨hfields, hcontext, hname⟩
    -- The colons say how many of the fields are those of the context, and how many of the name.
    rw [keyFields, keyFields, List.append_assoc, List.append_assoc] at hfields
    obtain ⟨hc, hrest⟩ := List.append_inj hfields (by rw [length_fields, length_fields, hcontext])
    obtain ⟨hn, hnum⟩ := List.append_inj hrest (by rw [length_fields, length_fields, hname])
    exact ⟨fields_injective hc, fields_injective hn, fields_injective hnum⟩

theorem uuid_ofFlow (f : PbxFlow) (name domain : String) :
    (ofFlow f name domain).uuid = .ofName .oidNamespace (ofFlow f name domain).uuidKey := rfl

/-- The unique ids of two flows come from names that are the same if and only if context, name and
number have the same fields in a row. Dialplans of one extension have the same id; different ones
have different names for it, unless colons have moved from one of the three to another, and different
ids then, unless the names collide. -/
theorem uuids_of_flows_eq_iff (f g : PbxFlow) (name name' domain domain' : String) :
    let d := ofFlow f name domain
    let e := ofFlow g name' domain'
    (d.uuid = .ofName .oidNamespace d.uuidKey ∧ e.uuid = .ofName .oidNamespace e.uuidKey) ∧
    (d.uuidKey = e.uuidKey ↔ d.keyFields = e.keyFields) ∧
    (d.SameExtension e ↔ d.uuidKey = e.uuidKey ∧
      d.context.toList.count ':' = e.context.toList.count ':' ∧
      d.name.toList.count ':' = e.name.toList.count ':') ∧
    (d.uuid = e.uuid ↔
      d.keyFields = e.keyFields ∨ Uuid.Collide .oidNamespace d.uuidKey e.uuidKey) := by
  intro d e
  refine ⟨⟨uuid_ofFlow f name domain, uuid_ofFlow g name' domain'⟩, uuidKey_eq_iff, ?_, ?_⟩
  · rw [sameExtension_iff, uuidKey_eq_iff]
  · rw [uuid_ofFlow, uuid_ofFlow, ← uuidKey_eq_iff]
    constructor
    · intro huuid
      by_cases hkey : d.uuidKey = e.uuidKey
      · exact .inl hkey
      · exact .inr ⟨hkey, huuid⟩
    · rintro (hkey | ⟨-, huuid⟩)
      · exact congrArg _ hkey
      · exact huuid

end Dialplan

/-- The contexts of compiled flows have no colons, so it is enough if the names have none. -/
theorem Job.sameExtension_of_uuidKey_eq {j j' : Job} {r r' : Option Routing} {f f' : PbxFlow}
    (hf : j.pbxFlow r = .ok f) (hf' : j'.pbxFlow r' = .ok f') (hname : ':' ∉ j.name.toList)
    (hname' : ':' ∉ j'.name.toList)
    (hkey : (j.dialplanOf f).uuidKey = (j'.dialplanOf f').uuidKey) :
    (j.dialplanOf f).SameExtension (j'.dialplanOf f') := by
  have hcontext (c : Context) : c.name.toList.count ':' = 0 := by cases c <;> decide
  obtain ⟨n, -, rfl⟩ := pbxFlow_eq_ok_iff.mp hf
  obtain ⟨n', -, rfl⟩ := pbxFlow_eq_ok_iff.mp hf'
  refine Dialplan.sameExtension_iff.mpr ⟨Dialplan.uuidKey_eq_iff.mp hkey, ?_, ?_⟩
  · exact (hcontext _).trans (hcontext _).symm
  · exact (List.count_eq_zero_of_not_mem hname).trans (List.count_eq_zero_of_not_mem hname').symm

def goodbye (name : String) : Job where
  diagram := { nodes := [.ofStep "bye" (.hangUp "Call completed")], edges := [] }
  name := name
  options := .default

/-- The prefix of a number may as well be the end of a name, and two extensions get one id. -/
theorem colons_shift :
    ∃ f f', (goodbye "Main:tel").pbxFlow (some (.forDestination "+15551234567")) = .ok f ∧
      (goodbye "Main").pbxFlow (some (.forDestination "tel:+15551234567")) = .ok f' ∧
      let d := (goodbye "Main:tel").dialplanOf f
      let e := (goodbye "Main").dialplanOf f'
      d.context = e.context ∧ d.name ≠ e.name ∧ d.number ≠ e.number ∧
        d.uuidKey = "callflow:public:Main:tel:+15551234567" ∧ d.uuidKey = e.uuidKey ∧
        d.uuid = e.uuid := by
  have hflow (name : String) (r : Option Routing) :
      (goodbye name).pbxFlow r = .ok ((goodbye name).pbxFlowFrom r "bye") := by
    rw [Job.pbxFlow_eq]
    rfl
  refine ⟨_, _, hflow _ _, hflow _ _, ?_⟩
  intro d e
  have hkey : d.uuidKey = "callflow:public:Main:tel:+15551234567" := by decide
  have hsame : d.uuidKey = e.uuidKey := by decide
  refine ⟨by decide, by decide, by decide, hkey, hsame, ?_⟩
  exact congrArg (Uuid.ofName .oidNamespace) hsame

end Switchboard
