import Switchboard.Event
import Switchboard.Proofs.Flow.Walk

/-!
# Switchboard.Proofs.Menu.Way

The destination of a menu option is where the compiled machine takes a caller. `States.way` goes
along the `next` targets of a flow, for as long as play and gather nodes pass the caller on, and
may go on for ever. `Index.resolve` meets each id once at most and so always ends:

* `resolveFrom_spec`: by induction on the ids that are left. The invariant is that every node
  already met leads to the id at hand, so meeting it again closes a circle.
* `Job.resolve_fits_ways`: the destination is the decision of the node that the way reaches, and a
  circle is reported if and only if the way is endless.
-/

namespace Switchboard

/-! ## Chains of a partial step -/

section Chain

variable {α : Type} {step : α → Option α} {a b : α}

/-- What `k` steps lead to, if that many can be taken. -/
def chain (step : α → Option α) (a : α) : Nat → Option α
  | 0 => some a
  | k + 1 => (chain step a k).bind step

theorem chain_add (k l : Nat) :
    chain step a (k + l) = (chain step a k).bind fun b => chain step b l := by
  induction l with
  | zero => cases chain step a k <;> rfl
  | succ l ih =>
    rw [← Nat.add_assoc, chain, ih, Option.bind_assoc]
    rfl

/-- The second step of a chain begins the chain of what the first one leads to. -/
theorem chain_succ_of_step (h : step a = some b) (k : Nat) :
    chain step a (k + 1) = chain step b k := by
  rw [Nat.add_comm, chain_add]
  simp [chain, h]

theorem chain_eq_none_of_le {k l : Nat} (h : chain step a k = none) (hkl : k ≤ l) :
    chain step a l = none := by
  obtain ⟨m, rfl⟩ := Nat.exists_eq_add_of_le hkl
  rw [chain_add, h, Option.bind_none]

theorem chain_ne_none_of_return {p : Nat} (hp : 0 < p) (h : chain step a p = some a) (k : Nat) :
    chain step a k ≠ none := by
  induction k using Nat.strongRecOn with
  | ind k ih =>
    by_cases hk : k < p
    · intro hn
      rw [chain_eq_none_of_le hn (by omega)] at h
      cases h
    · obtain ⟨l, rfl⟩ : ∃ l, k = p + l := ⟨k - p, by omega⟩
      rw [chain_add, h, Option.bind_some]
      exact ih l (by omega)

theorem le_of_chain_end {k l : Nat} (hb : chain step a k = some b) (hsb : step b = none)
    (hc : chain step a l ≠ none) : l ≤ k := by
  refine Nat.le_of_not_lt ?_
  intro hlt
  have hn : chain step a (k + 1) = none := by
    rw [chain, hb, Option.bind_some, hsb]
  exact hc (chain_eq_none_of_le hn hlt)

theorem chain_end_unique {c : α} {k l : Nat} (hb : chain step a k = some b) (hsb : step b = none)
    (hc : chain step a l = some c) (hsc : step c = none) : b = c := by
  have hkl : k = l :=
    Nat.le_antisymm (le_of_chain_end hc hsc (by simp [hb])) (le_of_chain_end hb hsb (by simp [hc]))
  subst hkl
  exact Option.some.inj (hb.symm.trans hc)

end Chain

/-! ## The way of a caller -/

def Step.passesOn : Step → Bool
  | .play _ => true
  | .gather _ => true
  | _ => false

/-- Where a compiled machine takes a caller on from the id of a node that passes callers on. -/
def States.passOn? {α : Type} (states : States α) (d : Diagram) (id : String) : Option String := do
  let n ← d.node? id
  if n.step.passesOn then (← states.get? id).transitions.target? "next" else none

/-- The way from `id`: the id itself, then the `next` target of each state in turn, for as long as
there is a node and it passes the caller on. -/
def States.way {α : Type} (states : States α) (d : Diagram) (id : String) : Nat → Option String :=
  chain (states.passOn? d) id

/-- The destinations that a node decides on by what it says itself. -/
inductive Step.Decides (o : Options) : Step → Destination → Prop where
  | bridge {f : Forward} {number : String} :
      f.phoneNumber = some number → Decides o (.forward f) (.bridge number o.pbxDomain)
  | hangUp {reason : String} : Decides o (.hangUp reason) .hangUp
  | menu {s : MenuSettings} {extension : String} :
      s.extension = some extension → Decides o (.menu s) (.transfer extension "default")
  | text {bag : Bag} {extension : String} :
      bag.get? "extension" = some (.string extension) → extension ≠ "" →
      Decides o (.other bag) (.transfer extension "default")
  | number {bag : Bag} {n : Number} :
      bag.get? "extension" = some (.number n) →
      Decides o (.other bag) (.transfer n.text "default")

/-- A resolution that is right for a way: it has the destination that a node on the way decides on,
else the default extension, and it reports a circle, once, if the way is endless, else nothing. -/
structure Resolution.Fits (res : Resolution) (d : Diagram) (o : Options)
    (way : Nat → Option String) : Prop where
  decided : ∀ k id n dest, way k = some id → d.node? id = some n → n.step.Decides o dest →
    res.destination = dest
  undecided : (∀ k id n dest, way k = some id → d.node? id = some n → ¬ n.step.Decides o dest) →
    res.destination = .transfer o.defaultExtension "default"
  endless : (∀ k, way k ≠ none) →
    res.events.map (fun e => (e.level, e.message)) =
      [(.warn, "Cycle while resolving menu destination")]
  ends : ∀ k, way k = none → res.events = []

/-! ## Decisions -/

theorem Bag.extension?_eq_some_iff {bag : Bag} {extension : String} :
    bag.extension? = some extension ↔
      (bag.get? "extension" = some (.string extension) ∧ extension ≠ "") ∨
        ∃ n, bag.get? "extension" = some (.number n) ∧ n.text = extension := by
  unfold extension?
  split
  · rename_i s hs
    rw [hs]
    by_cases he : s = ""
    · subst he
      simp
    · simp [he]
      rintro rfl
      exact he
  · rename_i n hn
    simp [hn]
  · rename_i hs hn
    simp_all

theorem Step.Decides.decision_eq {o : Options} {s : Step} {dest : Destination}
    (h : s.Decides o dest) : s.decision o = some dest := by
  cases h with
  | bridge hn => simp [decision, hn]
  | hangUp => rfl
  | menu he => simp [decision, he, menuContext]
  | text he hne =>
    have hx := Bag.extension?_eq_some_iff.mpr (.inl ⟨he, hne⟩)
    simp [decision, hx, menuContext]
  | number hn =>
    have hx := Bag.extension?_eq_some_iff.mpr (.inr ⟨_, hn, rfl⟩)
    simp [decision, hx, menuContext]

theorem Step.decides_or_lastResort {o : Options} {s : Step} {dest : Destination}
    (h : s.decision o = some dest) : s.Decides o dest ∨ dest = o.lastResort := by
  cases s with
  | forward f =>
    cases hn : f.phoneNumber with
    | some number =>
      simp only [decision, hn, Option.some.injEq] at h
      exact .inl (h ▸ .bridge hn)
    | none =>
      simp only [decision, hn, Option.some.injEq] at h
      exact .inr h.symm
  | hangUp reason =>
    cases h
    exact .inl .hangUp
  | menu settings =>
    cases he : settings.extension with
    | some extension =>
      simp only [decision, he, Option.getD_some, Option.some.injEq] at h
      exact .inl (h ▸ .menu he)
    | none =>
      simp only [decision, he, Option.getD_none, Option.some.injEq] at h
      exact .inr h.symm
  | other bag =>
    cases he : bag.extension? with
    | some extension =>
      simp only [decision, he, Option.getD_some, Option.some.injEq] at h
      subst h
      obtain ⟨hs, hne⟩ | ⟨n, hn, rfl⟩ := Bag.extension?_eq_some_iff.mp he
      · exact .inl (.text hs hne)
      · exact .inl (.number hn)
    | none =>
      simp only [decision, he, Option.getD_none, Option.some.injEq] at h
      exact .inr h.symm
  | answer | record | sms =>
    cases h
    exact .inr rfl
  | play | gather => cases h

theorem Step.decision_eq_none_iff {o : Options} {s : Step} :
    s.decision o = none ↔ s.passesOn = true := by
  cases s with
  | forward f => cases hn : f.phoneNumber <;> simp [decision, passesOn, hn]
  | _ => simp [decision, passesOn]

/-! ## Resolution -/

namespace Diagram

variable {d : Diagram} {o : Options}

/-- Where the diagram takes a caller on from the id of a node that passes callers on. -/
def passOn? (d : Diagram) (id : String) : Option String :=
  (d.node? id).bind fun n => if n.step.passesOn then d.next? id else none

/-- What the node of an id decides, if there is one and it does not pass the caller on. -/
def decisionAt (d : Diagram) (o : Options) (id : String) : Destination :=
  ((d.node? id).bind (·.step.decision o)).getD o.lastResort

theorem passOn?_of_decision {id : String} {n : Node} {dest : Destination}
    (hn : d.node? id = some n) (hd : n.step.decision o = some dest) : d.passOn? id = none := by
  have hp : n.step.passesOn ≠ true := by
    rw [Ne, ← Step.decision_eq_none_iff (o := o), hd]
    exact Option.some_ne_none dest
  simp [passOn?, hn, hp]

theorem passOn?_of_no_decision {id : String} {n : Node} (hn : d.node? id = some n)
    (hd : n.step.decision o = none) : d.passOn? id = d.next? id := by
  simp [passOn?, hn, Step.decision_eq_none_iff.mp hd]

/-- Either the way from `id` has an end, and the resolution is what is decided there, or it is
endless, and the resolution is a circle. -/
theorem resolveFrom_spec (d : Diagram) (o : Options) (fresh : List String) (id : String)
    (hmet : ∀ m ∈ d.ids, m ∉ fresh → ∃ k, 0 < k ∧ chain d.passOn? m k = some id) :
    (∃ k x, chain d.passOn? id k = some x ∧ d.passOn? x = none ∧
      d.index.resolveFrom o fresh id = ⟨d.decisionAt o x, none⟩) ∨
    ((∀ k, chain d.passOn? id k ≠ none) ∧
      ∃ x, d.index.resolveFrom o fresh id = ⟨o.lastResort, some x⟩) := by
  fun_induction Index.resolveFrom d.index o fresh id with
  | case1 fresh id hn =>
    -- There is no node.
    rw [node?_index] at hn
    exact .inl ⟨0, id, rfl, by simp [passOn?, hn], by simp [decisionAt, hn]⟩
  | case2 fresh id n hn hfresh dest hdest =>
    -- The node decides.
    rw [node?_index] at hn
    exact .inl ⟨0, id, rfl, passOn?_of_decision hn hdest, by simp [decisionAt, hn, hdest]⟩
  | case3 fresh id n hn hfresh hdec next hnext ih =>
    -- The node passes the caller on, and from now on counts as met: it leads to `next`.
    rw [node?_index] at hn
    rw [next?_index] at hnext
    have hstep : d.passOn? id = some next := (passOn?_of_no_decision hn hdec).trans hnext
    have hmet' : ∀ m ∈ d.ids, m ∉ fresh.removeAll [id] →
        ∃ k, 0 < k ∧ chain d.passOn? m k = some next := by
      intro m hm hold
      by_cases he : m = id
      · subst he
        exact ⟨1, by omega, hstep⟩
      · have hm' : m ∉ fresh := by
          intro hin
          exact hold (by simp [List.removeAll, hin, he])
        obtain ⟨k, -, hk⟩ := hmet m hm hm'
        exact ⟨k + 1, by omega, by rw [chain, hk, Option.bind_some, hstep]⟩
    obtain ⟨k, x, hk, hx, hres⟩ | ⟨hall, hres⟩ := ih hmet'
    · exact .inl ⟨k + 1, x, (chain_succ_of_step hstep k).trans hk, hx, hres⟩
    · refine .inr ⟨?_, hres⟩
      intro k
      cases k with
      | zero => exact Option.some_ne_none id
      | succ k =>
        rw [chain_succ_of_step hstep]
        exact hall k
  | case4 fresh id n hn hfresh hdec hnext =>
    -- The node would pass the caller on, but leads nowhere.
    rw [node?_index] at hn
    rw [next?_index] at hnext
    refine .inl ⟨0, id, rfl, (passOn?_of_no_decision hn hdec).trans hnext, ?_⟩
    simp [decisionAt, hn, hdec]
  | case5 fresh id n hn hfresh =>
    -- The node has been met before, so it leads back to itself.
    rw [node?_index] at hn
    obtain ⟨k, hk, hback⟩ := hmet id (mem_ids_of_node? hn) hfresh
    exact .inr ⟨chain_ne_none_of_return hk hback, id, rfl⟩

theorem resolve_spec (d : Diagram) (o : Options) (id : String) :
    (∃ k x, chain d.passOn? id k = some x ∧ d.passOn? x = none ∧
      d.index.resolve o id = ⟨d.decisionAt o x, none⟩) ∨
    ((∀ k, chain d.passOn? id k ≠ none) ∧
      ∃ x, d.index.resolve o id = ⟨o.lastResort, some x⟩) :=
  resolveFrom_spec d o d.ids id fun _ hm hn => absurd hm hn

theorem resolve_decides_or_lastResort (d : Diagram) (o : Options) (id : String) :
    (∃ n ∈ d.nodes, n.step.Decides o (d.index.resolve o id).destination) ∨
      (d.index.resolve o id).destination = o.lastResort := by
  obtain ⟨_, x, -, -, hres⟩ | ⟨-, x, hres⟩ := d.resolve_spec o id
  · rw [hres]
    show (∃ n ∈ d.nodes, n.step.Decides o (d.decisionAt o x)) ∨ d.decisionAt o x = o.lastResort
    rw [decisionAt]
    cases hn : d.node? x with
    | none => exact .inr rfl
    | some n =>
      cases hd : n.step.decision o with
      | none => exact .inr (by simp [hd])
      | some dest =>
        simp only [Option.bind_some, hd, Option.getD_some]
        exact (Step.decides_or_lastResort hd).imp_left fun h =>
          ⟨n, List.mem_of_find?_eq_some hn, h⟩
  · rw [hres]
    exact .inr rfl

/-- The end of a way is the only place where something can be decided. -/
theorem decisionAt_of_decides {id : String} {n : Node} {dest : Destination}
    (hn : d.node? id = some n) (h : n.step.Decides o dest) :
    d.passOn? id = none ∧ d.decisionAt o id = dest :=
  ⟨passOn?_of_decision hn h.decision_eq, by simp [decisionAt, hn, h.decision_eq]⟩

theorem decisionAt_of_not_decides {id : String}
    (h : ∀ n dest, d.node? id = some n → ¬ n.step.Decides o dest) :
    d.decisionAt o id = o.lastResort := by
  rw [decisionAt]
  cases hn : d.node? id with
  | none => rfl
  | some n =>
    rw [Option.bind_some]
    cases hd : n.step.decision o with
    | none => rfl
    | some dest =>
      obtain hdec | rfl := Step.decides_or_lastResort hd
      · exact absurd hdec (h n dest hn)
      · rfl

theorem resolve_fits (d : Diagram) (o : Options) (id : String) :
    (d.index.resolve o id).Fits d o (chain d.passOn? id) := by
  obtain ⟨k, x, hk, hx, hres⟩ | ⟨hall, x, hres⟩ := d.resolve_spec o id
  · have hend : chain d.passOn? id (k + 1) = none := by
      rw [chain, hk, Option.bind_some, hx]
    exact {
      decided := by
        intro l id' n dest hl hn hdec
        obtain ⟨hstop, hdest⟩ := decisionAt_of_decides hn hdec
        rw [hres, chain_end_unique hk hx hl hstop]
        exact hdest
      undecided := by
        intro hno
        rw [hres]
        exact decisionAt_of_not_decides fun n dest hn => hno k x n dest hk hn
      endless := fun h => absurd hend (h (k + 1))
      ends := fun _ _ => by rw [hres]; rfl }
  · exact {
      decided := by
        intro l id' n dest hl hn hdec
        have hstop := (decisionAt_of_decides hn hdec).1
        refine absurd ?_ (hall (l + 1))
        rw [chain, hl, Option.bind_some, hstop]
      undecided := fun _ => by rw [hres]; rfl
      endless := fun _ => by rw [hres]; rfl
      ends := fun l hl => absurd hl (hall l) }

end Diagram

/-! ## The way through the machine -/

theorem Diagram.move?_next_of_passesOn {d : Diagram} {id : String} {n : Node}
    (hn : d.node? id = some n) (hp : n.step.passesOn = true) : d.move? id "next" = d.next? id := by
  have hexit : n.step.exits.lookup "next" = some .first := by
    cases hs : n.step <;> simp_all [Step.passesOn, Step.exits]
  rw [move?_eq_bind, hn, Option.bind_some, hexit, Option.bind_some]
  exact next?_index d id

theorem States.Translates.passOn?_eq {α : Type} {states : States α} {d : Diagram}
    {action : Node → α} (h : states.Translates d action) : states.passOn? d = d.passOn? := by
  funext id
  unfold passOn? Diagram.passOn?
  cases hn : d.node? id with
  | none => rfl
  | some n =>
    by_cases hp : n.step.passesOn = true
    · have hstep := h.target?_eq_move? id "next"
      rw [Diagram.move?_next_of_passesOn hn hp] at hstep
      simp only [Option.bind_eq_bind, Option.bind_some, hp, if_true]
      exact hstep
    · simp [hp]

namespace Job

variable {j : Job} {r : Option Routing}

theorem way_cloudFlow {f : CloudFlow} (h : j.cloudFlow = .ok f) (id : String) :
    f.states.way j.diagram id = chain j.diagram.passOn? id := by
  obtain ⟨n, hn, rfl⟩ := cloudFlow_eq_ok_iff.mp h
  rw [States.way, (translates_cloudFlowFrom hn.id_mem).passOn?_eq]

theorem way_pbxFlow {f : PbxFlow} (h : j.pbxFlow r = .ok f) (id : String) :
    f.states.way j.diagram id = chain j.diagram.passOn? id := by
  obtain ⟨n, -, rfl⟩ := pbxFlow_eq_ok_iff.mp h
  rw [States.way, (translates_pbxFlowFrom n.id).passOn?_eq]

end Job

/-- From every id, whether it is that of a node or not, the destination of a menu option and the
report on it fit the way of a caller through either flow of the diagram. -/
theorem Job.resolve_fits_ways (j : Job) (r : Option Routing) (h : j.diagram.nodes ≠ []) :
    ∃ fc fp, j.cloudFlow = .ok fc ∧ j.pbxFlow r = .ok fp ∧
      ∀ id,
        (j.diagram.index.resolve j.options id).Fits j.diagram j.options
          (fc.states.way j.diagram id) ∧
        (j.diagram.index.resolve j.options id).Fits j.diagram j.options
          (fp.states.way j.diagram id) := by
  obtain ⟨n, hn⟩ := exists_startsAt h
  have hc : j.cloudFlow = .ok (j.cloudFlowFrom n.id) := cloudFlow_eq_ok_iff.mpr ⟨n, hn, rfl⟩
  have hp : j.pbxFlow r = .ok (j.pbxFlowFrom r n.id) := pbxFlow_eq_ok_iff.mpr ⟨n, hn, rfl⟩
  refine ⟨_, _, hc, hp, ?_⟩
  intro id
  rw [way_cloudFlow hc, way_pbxFlow hp]
  exact ⟨j.diagram.resolve_fits j.options id, j.diagram.resolve_fits j.options id⟩

theorem crossroads_resolve_fits_ways :
    crossroads.diagram.nodes ≠ [] ∧
    ∃ fc fp, crossroads.cloudFlow = .ok fc ∧ crossroads.pbxFlow none = .ok fp ∧
      (∀ id, (crossroads.diagram.index.resolve crossroads.options id).Fits crossroads.diagram
        crossroads.options (fc.states.way crossroads.diagram id)) ∧
      (crossroads.diagram.index.resolve crossroads.options "desk").destination =
        .bridge "1001" "localhost" ∧
      (∀ k, fp.states.way crossroads.diagram "left" k ≠ none) ∧
      (crossroads.diagram.index.resolve crossroads.options "left").events.map
        (fun e => (e.level, e.message)) = [(.warn, "Cycle while resolving menu destination")] := by
  have hne : crossroads.diagram.nodes ≠ [] := by decide
  obtain ⟨fc, fp, hc, hp, hfits⟩ := crossroads.resolve_fits_ways none hne
  have hround : ∀ k, fp.states.way crossroads.diagram "left" k ≠ none := by
    rw [Job.way_pbxFlow hp]
    exact chain_ne_none_of_return (show 0 < 2 by decide) (by decide)
  exact ⟨hne, fc, fp, hc, hp, fun id => (hfits id).1,
    (hfits "desk").2.decided 0 "desk" _ _ rfl rfl (.bridge rfl), hround,
    (hfits "left").2.endless hround⟩

end Switchboard
