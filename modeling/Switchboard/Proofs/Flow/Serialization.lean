import Switchboard.Flow.Cloud
import Switchboard.Flow.Pbx
import Switchboard.Proofs.Json.Sorted

/-!
# Switchboard.Proofs.Flow.Serialization

The JSON form of a flow holds all that the flow does. An action is written without the name of its
constructor and without the parameters that are not set, but the type of its state says which
members there may be, and these members make up the action again (`Action.Layout`,
`CloudAction.layout`, `PbxAction.layout`). Objects are compared with sorted members, since the
order of members is no part of a JSON value.

* `Action.Layout.toJson_eq_iff`, `State.toJson_eq_iff`, `States.toJson_eq_iff`: from one action to
  all states of a flow, on either target.
* `flows_told_by_json`: the flows of both targets.
-/

namespace Switchboard

theorem ActionKind.name_eq_iff {k k' : ActionKind} : k.name = k'.name ↔ k = k' := by
  cases k <;> cases k' <;> decide

namespace Json

@[simp] theorem nat_inj {m n : Nat} : nat m = nat n ↔ m = n := by
  rw [nat, nat, number.injEq, Number.integer.injEq, Int.natCast_inj]

@[simp] theorem map_string_inj {s t : Option String} : s.map string = t.map string ↔ s = t :=
  (Option.map_injective fun _ _ h => string.inj h).eq_iff

@[simp] theorem map_bool_inj {b c : Option Bool} : b.map bool = c.map bool ↔ b = c :=
  (Option.map_injective fun _ _ h => bool.inj h).eq_iff

@[simp] theorem sortKeys_string (s : String) : (string s).sortKeys = string s := rfl

@[simp] theorem sortKeys_bool (b : Bool) : (bool b).sortKeys = bool b := rfl

@[simp] theorem sortKeys_nat (n : Nat) : (nat n).sortKeys = nat n := rfl

@[simp] theorem sortKeys_comp_string : sortKeys ∘ string = string := rfl

@[simp] theorem sortKeys_comp_bool : sortKeys ∘ bool = bool := rfl

theorem sortKeys_ofText? (s : Option String) : (ofText? s).sortKeys = ofText? s := by
  cases s <;> rfl

theorem ofText?_inj {s t : Option String} : ofText? s = ofText? t ↔ s = t := by
  cases s <;> cases t <;> simp [ofText?]

end Json

/-! ## Actions -/

/-- How the actions of a target are written: their kind says which members there may be, and the
values of these members say which action of the kind it is. -/
structure Action.Layout (α : Type) [Action α] where
  names : ActionKind → List String
  values : α → List (Option Json)
  nodup_names : ∀ kind, (names kind).Nodup
  length_values : ∀ a, (values a).length = (names (Action.kind a)).length
  toJson_eq : ∀ a, Action.toJson a = Json.record (names (Action.kind a)) (values a)
  /-- No value has members of its own. -/
  sortKeys_values : ∀ a, (values a).map (Option.map Json.sortKeys) = values a
  eq_of_values : ∀ {a b}, Action.kind a = Action.kind b → values a = values b → a = b

theorem Action.Layout.toJson_eq_iff {α : Type} [Action α] (l : Action.Layout α) {a b : α}
    (hkind : Action.kind a = Action.kind b) :
    (Action.toJson a).sortKeys = (Action.toJson b).sortKeys ↔ a = b := by
  constructor
  · intro he
    rw [l.toJson_eq a, l.toJson_eq b, ← hkind, Json.sortKeys_record_eq_iff (l.nodup_names _)
      (l.length_values a) (hkind ▸ l.length_values b), l.sortKeys_values, l.sortKeys_values] at he
    exact l.eq_of_values hkind he
  · rintro rfl
    rfl

namespace CloudAction

def memberNames : ActionKind → List String
  | .sayPlay => ["say", "voice", "language", "play"]
  | .gather => ["timeout", "finish_on_key", "num_digits", "input"]
  | .connect => ["timeout", "to", "from"]
  | .hangUp => ["reason"]
  | .recordVoice =>
    ["max_length", "finish_on_key", "play_beep", "recording_status_callback",
      "recording_status_callback_method"]
  | .sendMessage => ["to", "from", "body"]

def memberValues : CloudAction → List (Option Json)
  | .say text voice language =>
    [some (.string text), voice.map .string, language.map .string, none]
  | .play file => [none, none, none, some (.string file)]
  | .gather timeout key digits input =>
    [some (.nat timeout), some (.string key), some (.nat digits),
      some (.string (inputName input))]
  | .connect timeout callee callerId =>
    [some (.nat timeout), callee.map .string, callerId.map .string]
  | .hangUp reason => [some (.string reason)]
  | .record length key beep callback method =>
    [some (.nat length), some (.string key), beep.map .bool, callback.map .string,
      method.map .string]
  | .sendMessage callee callerId body =>
    [callee.map .string, callerId.map .string, body.map .string]

theorem inputName_eq_iff {i j : InputMode} : inputName i = inputName j ↔ i = j := by
  cases i <;> cases j <;> decide

def layout : Action.Layout CloudAction where
  names := memberNames
  values := memberValues
  nodup_names kind := by cases kind <;> decide
  length_values a := by cases a <;> rfl
  toJson_eq a := by cases a <;> rfl
  sortKeys_values a := by cases a <;> simp [memberValues]
  eq_of_values {a b} hkind hvalues := by
    cases a <;> cases b <;>
      simp_all [Action.kind, kind, memberValues, inputName_eq_iff]

end CloudAction

namespace PbxAction

def memberNames : ActionKind → List String
  | .sayPlay => ["say", "play"]
  | .gather => ["timeout", "finish_on_key", "min_digits", "max_digits"]
  | .connect => ["to"]
  | .hangUp => ["reason"]
  | .recordVoice => ["max_length", "finish_on_key", "play_beep"]
  | .sendMessage => ["to", "body"]

def memberValues : PbxAction → List (Option Json)
  | .say text => [some (.string text), none]
  | .play file => [none, some (.string file)]
  | .gather timeout key least most =>
    [some (.nat timeout), some (.string key), some (.nat least), some (.nat most)]
  | .connect callee => [callee.map .string]
  | .hangUp reason => [some (.string reason)]
  | .record length key beep => [some (.nat length), some (.string key), some (.bool beep)]
  | .sendMessage callee body => [callee.map .string, body.map .string]

def layout : Action.Layout PbxAction where
  names := memberNames
  values := memberValues
  nodup_names kind := by cases kind <;> decide
  length_values a := by cases a <;> rfl
  toJson_eq a := by cases a <;> rfl
  sortKeys_values a := by cases a <;> simp [memberValues]
  eq_of_values {a b} hkind hvalues := by
    cases a <;> cases b <;> simp_all [Action.kind, kind, memberValues]

end PbxAction

/-! ## States -/

theorem Transitions.toJson_eq_iff {t t' : Transitions} :
    t.toJson.sortKeys = t'.toJson.sortKeys ↔ ∀ outcome, t.get? outcome = t'.get? outcome := by
  have htarget : Function.Injective Json.ofText? := fun _ _ => Json.ofText?_inj.mp
  simp only [toJson, Json.sortKeys_entries_eq_iff, Json.sortKeys_ofText?]
  exact forall_congr' fun outcome => (Option.map_injective htarget).eq_iff

section

variable {α : Type} [Action α]

/-- The states do the same, whatever the order of their outcomes. -/
structure State.SameAs (s s' : State α) : Prop where
  name_eq : s.name = s'.name
  kind_eq : s.kind = s'.kind
  transitions_eq : ∀ outcome, s.transitions.get? outcome = s'.transitions.get? outcome
  action_eq : s.action = s'.action

theorem State.toJson_eq_iff (l : Action.Layout α) {s s' : State α} :
    s.toJson.sortKeys = s'.toJson.sortKeys ↔ s.SameAs s' := by
  have hrecord (s : State α) : s.toJson = Json.record ["type", "name", "transitions", "properties"]
      [some (.string s.kind.name), some (.string s.name), some s.transitions.toJson,
        some (Action.toJson s.action)] := rfl
  rw [hrecord, hrecord, Json.sortKeys_record_eq_iff (by decide) rfl rfl]
  simp only [List.map_cons, List.map_nil, Option.map_some, Json.sortKeys_string, List.cons.injEq,
    Option.some.injEq, Json.string.injEq, ActionKind.name_eq_iff, Transitions.toJson_eq_iff]
  constructor
  · rintro ⟨hkind, hname, htransitions, haction, -⟩
    exact ⟨hname, hkind, htransitions, (l.toJson_eq_iff hkind).mp haction⟩
  · intro h
    exact ⟨h.kind_eq, h.name_eq, h.transitions_eq, (l.toJson_eq_iff h.kind_eq).mpr h.action_eq,
      trivial⟩

/-- There are the same states, whatever their order. -/
structure States.SameAs (m m' : States α) : Prop where
  mem_keys_iff : ∀ key, key ∈ m.keys ↔ key ∈ m'.keys
  state : ∀ key s s', m.get? key = some s → m'.get? key = some s' → s.SameAs s'

theorem States.toJson_eq_iff (l : Action.Layout α) {m m' : States α} :
    m.toJson.sortKeys = m'.toJson.sortKeys ↔ m.SameAs m' := by
  rw [States.toJson, States.toJson, Json.sortKeys_entries_eq_iff]
  constructor
  · intro h
    constructor
    · intro key
      rw [← OrderedMap.isSome_get?, ← OrderedMap.isSome_get?, ← Option.isSome_map, h key,
        Option.isSome_map]
    · intro key s s' hs hs'
      have hkey := h key
      rw [hs, hs'] at hkey
      exact (State.toJson_eq_iff l).mp (Option.some.inj hkey)
  · intro h key
    have hmem := h.mem_keys_iff key
    rw [← OrderedMap.isSome_get?, ← OrderedMap.isSome_get?] at hmem
    cases hs : m.get? key with
    | none =>
      cases hs' : m'.get? key with
      | none => rfl
      | some s' => simp [hs, hs'] at hmem
    | some s =>
      cases hs' : m'.get? key with
      | none => simp [hs, hs'] at hmem
      | some s' =>
        exact congrArg some ((State.toJson_eq_iff l).mpr (h.state key s s' hs hs'))

end

/-! ## Flows -/

/-- The flows are the same, whatever the order of their states and outcomes. -/
structure CloudFlow.SameAs (f f' : CloudFlow) : Prop where
  description_eq : f.description = f'.description
  initialState_eq : f.initialState = f'.initialState
  allowConcurrentCalls_eq : f.allowConcurrentCalls = f'.allowConcurrentCalls
  states : f.states.SameAs f'.states

@[inherit_doc CloudFlow.SameAs]
structure PbxFlow.SameAs (f f' : PbxFlow) : Prop where
  description_eq : f.description = f'.description
  extension_eq : f.extension = f'.extension
  context_eq : f.context = f'.context
  initialState_eq : f.initialState = f'.initialState
  states : f.states.SameAs f'.states

theorem CloudFlow.toJson_eq_iff {f f' : CloudFlow} :
    f.toJson.sortKeys = f'.toJson.sortKeys ↔ f.SameAs f' := by
  have hrecord (f : CloudFlow) :
      f.toJson = Json.record ["description", "states", "initial_state", "flags"]
        [some (.string f.description), some f.states.toJson, some (.string f.initialState),
          some (.record ["allow_concurrent_calls"] [some (.bool f.allowConcurrentCalls)])] := rfl
  have hflags (b b' : Bool) :
      (Json.record ["allow_concurrent_calls"] [some (.bool b)]).sortKeys =
        (Json.record ["allow_concurrent_calls"] [some (.bool b')]).sortKeys ↔ b = b' := by
    rw [Json.sortKeys_record_eq_iff (by decide) rfl rfl]
    simp
  rw [hrecord, hrecord, Json.sortKeys_record_eq_iff (by decide) rfl rfl]
  simp only [List.map_cons, List.map_nil, Option.map_some, Json.sortKeys_string, List.cons.injEq,
    Option.some.injEq, Json.string.injEq, States.toJson_eq_iff CloudAction.layout, hflags]
  constructor
  · rintro ⟨hdescription, hstates, hinitial, hconcurrent, -⟩
    exact ⟨hdescription, hinitial, hconcurrent, hstates⟩
  · intro h
    exact ⟨h.description_eq, h.states, h.initialState_eq, h.allowConcurrentCalls_eq, trivial⟩

theorem PbxFlow.toJson_eq_iff {f f' : PbxFlow} :
    f.toJson.sortKeys = f'.toJson.sortKeys ↔ f.SameAs f' := by
  have hrecord (f : PbxFlow) :
      f.toJson = Json.record ["description", "extension", "context", "states", "initial_state"]
        [some (.string f.description), some (.string f.extension), some (.string f.context),
          some f.states.toJson, some (.string f.initialState)] := rfl
  rw [hrecord, hrecord, Json.sortKeys_record_eq_iff (by decide) rfl rfl]
  simp only [List.map_cons, List.map_nil, Option.map_some, Json.sortKeys_string, List.cons.injEq,
    Option.some.injEq, Json.string.injEq, States.toJson_eq_iff PbxAction.layout]
  constructor
  · rintro ⟨hdescription, hextension, hcontext, hstates, hinitial, -⟩
    exact ⟨hdescription, hextension, hcontext, hinitial, hstates⟩
  · intro h
    exact ⟨h.description_eq, h.extension_eq, h.context_eq, h.states, h.initialState_eq,
      trivial⟩

/-- A flow can be told by its JSON form: two flows that are written alike are the same flow, with
the same states under the same ids, the same outcomes and the same actions, of which a parameter
that is not set differs from every parameter that is. -/
theorem flows_told_by_json :
    (∀ f f' : CloudFlow, f.toJson.sortKeys = f'.toJson.sortKeys ↔ f.SameAs f') ∧
      ∀ f f' : PbxFlow, f.toJson.sortKeys = f'.toJson.sortKeys ↔ f.SameAs f' :=
  ⟨fun _ _ => CloudFlow.toJson_eq_iff, fun _ _ => PbxFlow.toJson_eq_iff⟩

end Switchboard
