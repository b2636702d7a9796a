import Switchboard.Proofs.Flow.Assembly
import Switchboard.Proofs.Menu.Anchor

/-!
# Switchboard.Proofs.Flow.Agreement

The two targets of a diagram agree. Their flows have the same states with the same exits, and what
their actions have in common is the same, up to the units of time: `Step.Matches` says it of the
two actions of a step, `Job.flows_agree` of the two flows of a compilation.
-/

namespace Switchboard

/-- The cloud action and the PBX action of a step match: they are of one kind, and the parameters
that both have are equal, times in seconds here and in milliseconds there. What is spoken only has
to be equal where the diagram says it. -/
inductive Step.Matches : Step → CloudAction → PbxAction → Prop where
  | speech {p : Prompt} {text : String} {voice language : Option String} :
      p.message = .speech text → Matches (.play p) (.say text voice language) (.say text)
  | audio {p : Prompt} {file : String} :
      p.message = .audio file → Matches (.play p) (.play file) (.play file)
  | silence {p : Prompt} {text : String} {voice language : Option String} :
      p.message = .silence → Matches (.play p) (.say text voice language) (.say text)
  | gather {g : Gather} {timeout digits least : Nat} {key : String} {input : InputMode} :
      least ≤ digits →
      Matches (.gather g) (.gather timeout key digits input)
        (.gather (min (1000 * timeout) (UInt32.size - 1)) key least digits)
  | connect {f : Forward} {timeout : Nat} {number callerId : Option String} :
      Matches (.forward f) (.connect timeout number callerId) (.connect number)
  | hangUp {reason said : String} : Matches (.hangUp reason) (.hangUp said) (.hangUp said)
  | record {m : Recording} {length : Nat} {key : String} {cloudBeep : Option Bool}
      {callback method : Option String} {pbxBeep : Bool} :
      Matches (.record m) (.record length key cloudBeep callback method)
        (.record length key pbxBeep)
  | sms {m : Sms} {number callerId body : Option String} :
      Matches (.sms m) (.sendMessage number callerId body) (.sendMessage number body)
  | answer {cloudText pbxText : String} {voice language : Option String} :
      Matches .answer (.say cloudText voice language) (.say pbxText)
  | menu {s : MenuSettings} {cloudText pbxText : String} {voice language : Option String} :
      Matches (.menu s) (.say cloudText voice language) (.say pbxText)
  | other {bag : Bag} {cloudText pbxText : String} {voice language : Option String} :
      Matches (.other bag) (.say cloudText voice language) (.say pbxText)

theorem Step.matches_actions (o : Options) (tag : String) (s : Step) :
    s.Matches (s.cloudAction o tag) (s.pbxAction tag) := by
  cases s with
  | answer => exact .answer
  | play p =>
    cases hm : p.message with
    | speech text =>
      simp only [cloudAction, pbxAction, hm]
      exact .speech hm
    | audio file =>
      simp only [cloudAction, pbxAction, hm]
      exact .audio hm
    | silence =>
      simp only [cloudAction, pbxAction, hm]
      exact .silence hm
  | gather g => exact .gather (Nat.min_le_right _ _)
  | forward f => exact .connect
  | hangUp reason => exact .hangUp
  | record m => exact .record
  | sms m => exact .sms
  | menu settings => exact .menu
  | other bag => exact .other

theorem Step.Matches.kind_eq {s : Step} {c : CloudAction} {p : PbxAction} (h : s.Matches c p) :
    c.kind = p.kind := by
  cases h <;> rfl

/-- The two states of the node `n`, which comes after the nodes `before`. -/
structure Job.StatesAgree (j : Job) (before : List Node) (n : Node) (cloud : State CloudAction)
    (pbx : State PbxAction) : Prop where
  kind_eq : cloud.kind = pbx.kind
  transitions_eq : cloud.transitions = pbx.transitions
  actions : n.step.Matches cloud.action pbx.action
  /-- A menu that is extracted from the node waits as long as the node's state. -/
  menu_timeout : ∀ g, j.diagram.AnchoredAt before n g → ∀ extension context,
    (j.extractMenu extension context).origin = .gatherNode n.id ∧
    ∃ key least most,
      pbx.action = .gather (j.extractMenu extension context).timeout key least most

theorem Job.statesAgree (j : Job) (before : List Node) (n : Node) :
    j.StatesAgree before n (j.diagram.index.state (·.cloudAction j.options) n)
      (j.diagram.index.state (·.pbxAction) n) where
  kind_eq := (n.step.matches_actions j.options n.tag).kind_eq
  transitions_eq := rfl
  actions := n.step.matches_actions j.options n.tag
  menu_timeout g hg extension context := by
    rw [j.extractMenu_of_anchoredAt hg]
    refine ⟨rfl, g.finishOnKey, min g.minDigits g.maxDigits, g.maxDigits, ?_⟩
    show n.step.pbxAction n.tag = _
    rw [hg.step_eq]
    rfl

/-- A diagram compiles for one target if and only if it does for the other. Then both flows begin
at the same state, the cloud flow has the states of the PBX flow with that one moved to the front,
and the two states of each id, which are made of the first node with the id, agree. -/
theorem Job.flows_agree (j : Job) (r : Option Routing) :
    ((∃ fc, j.cloudFlow = .ok fc) ↔ ∃ fp, j.pbxFlow r = .ok fp) ∧
    ∀ fc fp, j.cloudFlow = .ok fc → j.pbxFlow r = .ok fp →
      fc.initialState = fp.initialState ∧
      fc.states.keys = fp.initialState :: fp.states.keys.erase fp.initialState ∧
      (∀ key, key ∈ fc.states.keys ↔ key ∈ fp.states.keys) ∧
      ∀ key ∈ fp.states.keys, ∃ before n after cloud pbx,
        j.diagram.nodes = before ++ n :: after ∧ n.id = key ∧ (∀ m ∈ before, m.id ≠ key) ∧
        fc.states.get? key = some cloud ∧ fp.states.get? key = some pbx ∧
        j.StatesAgree before n cloud pbx := by
  refine ⟨j.exists_cloudFlow_iff r, ?_⟩
  intro fc fp hc hp
  obtain ⟨n, hn, rfl⟩ := cloudFlow_eq_ok_iff.mp hc
  obtain ⟨m, hm, rfl⟩ := pbxFlow_eq_ok_iff.mp hp
  obtain rfl := hn.unique hm
  have htc := translates_cloudFlowFrom (j := j) hn.id_mem
  have htp := translates_pbxFlowFrom (j := j) (r := r) n.id
  refine ⟨rfl, ?_, ?_, ?_⟩
  · rw [keys_cloudFlowFrom hn.id_mem, keys_pbxFlowFrom]
    rfl
  · intro key
    rw [htc.mem_keys, htp.mem_keys]
  · intro key hkey
    obtain ⟨x, hx⟩ := Diagram.exists_node? (htp.mem_keys.mp hkey)
    obtain ⟨hid, before, after, hnodes, hfirst⟩ := Diagram.node?_eq_some_iff.mp hx
    exact ⟨before, x, after, _, _, hnodes, hid, hfirst, htc.get?_of_node? hx,
      htp.get?_of_node? hx, j.statesAgree before x⟩

end Switchboard
