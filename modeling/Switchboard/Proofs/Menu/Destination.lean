import Mathlib.Data.Set.Function
import Switchboard.Menu.Destination
import Switchboard.Proofs.Text.Cut

/-!
# Switchboard.Proofs.Menu.Destination

Reading an instruction undoes writing it. A text is a known instruction just when it is the text of
a `Known` destination (`readKnown_eq_some_iff`); a text that is none stands for itself. So what is
read is always `Canonical`, its text is the very text that was read (`text_read`), and the canonical
destinations are those that are read back from their texts (`read_exact`).
-/

namespace Switchboard
namespace Destination

open Text

/-- A known instruction whose arguments can be told apart in its text: a blank ends an extension
and a context, and the domain begins after the last `@`. -/
def Known : Destination → Prop
  | transfer extension context => ' ' ∉ extension.toList ∧ ' ' ∉ context.toList
  | bridge _ domain => '@' ∉ domain.toList
  | hangUp => True
  | custom _ => False

/-- A known instruction, or a text that is none. -/
def Canonical : Destination → Prop
  | custom t => ∀ d : Destination, d.Known → d.text ≠ t
  | d => d.Known

theorem Known.canonical {d : Destination} (h : d.Known) : d.Canonical := by
  cases d with
  | custom t => cases h
  | _ => exact h

/-! ## Texts -/

theorem toList_text_transfer (extension context : String) :
    (transfer extension context).text.toList = marker.toList ++
      ("transfer ".toList ++ (extension.toList ++ ' ' :: ("XML ".toList ++ context.toList))) := by
  simp [text]

theorem toList_text_bridge (number domain : String) :
    (bridge number domain).text.toList = marker.toList ++
      ("bridge user/".toList ++ (number.toList ++ '@' :: domain.toList)) := by
  simp [text]

theorem toList_text_hangUp : hangUp.text.toList = marker.toList ++ "hangup".toList := by
  simp [text]

theorem marker_begins_text {d : Destination} (h : d.Known) : marker.toList <+: d.text.toList := by
  cases d with
  | transfer extension context => exact ⟨_, (toList_text_transfer extension context).symm⟩
  | bridge number domain => exact ⟨_, (toList_text_bridge number domain).symm⟩
  | hangUp => exact ⟨_, toList_text_hangUp.symm⟩
  | custom t => cases h

/-! ## Arguments -/

theorem toList_middle : " XML ".toList = ' ' :: "XML ".toList := by decide

theorem readTransfer_eq_some_iff {cs : List Char} {d : Destination} :
    readTransfer cs = some d ↔ ∃ extension context : String,
      d = transfer extension context ∧ d.Known ∧
        extension.toList ++ ' ' :: ("XML ".toList ++ context.toList) = cs := by
  constructor
  · intro h
    unfold readTransfer at h
    split at h
    · rename_i context hrest
      -- The blank that ends the extension is the first one of ` XML `.
      rw [List.isPrefixOf?_eq_some_iff_append_eq, toList_middle] at hrest
      split at h
      · cases h
      · rename_i hcontext
        cases h
        refine ⟨_, _, rfl, ?_, ?_⟩
        · rw [Known, String.toList_ofList, String.toList_ofList]
          exact ⟨not_mem_takeWhile_ne, hcontext⟩
        · rw [String.toList_ofList, String.toList_ofList (l := context)]
          exact takeWhile_ne_append_of_dropWhile hrest.symm
    · cases h
  · rintro ⟨extension, context, rfl, ⟨hextension, hcontext⟩, rfl⟩
    rw [readTransfer, takeWhile_ne_append_cons hextension, dropWhile_ne_append_cons hextension]
    have hrest : " XML ".toList.isPrefixOf? (' ' :: ("XML ".toList ++ context.toList)) =
        some context.toList := isPrefixOf?_append " XML ".toList context.toList
    rw [hrest]
    simp [hcontext]

theorem readBridge_eq_some_iff {cs : List Char} {d : Destination} :
    readBridge cs = some d ↔ ∃ number domain : String,
      d = bridge number domain ∧ d.Known ∧ number.toList ++ '@' :: domain.toList = cs := by
  constructor
  · intro h
    unfold readBridge at h
    split at h
    · rename_i c number hrest
      cases h
      refine ⟨_, _, rfl, ?_, ?_⟩
      · rw [Known, String.toList_ofList, List.mem_reverse]
        exact not_mem_takeWhile_ne
      · have hcs := congrArg List.reverse (takeWhile_ne_append_of_dropWhile hrest)
        simpa using hcs
    · cases h
  · rintro ⟨number, domain, rfl, hdomain, rfl⟩
    -- The last `@` is the first one from behind; the number may hold more of them.
    have hmem : '@' ∉ domain.toList.reverse := List.mem_reverse.not.mpr hdomain
    have hcs : (number.toList ++ '@' :: domain.toList).reverse =
        domain.toList.reverse ++ '@' :: number.toList.reverse := by simp
    rw [readBridge, hcs, takeWhile_ne_append_cons hmem, dropWhile_ne_append_cons hmem]
    simp

/-! ## Instructions -/

theorem readCommand_transfer (arguments : List Char) :
    readCommand ("transfer ".toList ++ arguments) = readTransfer arguments := by
  rw [readCommand, if_neg (by simp), isPrefixOf?_append]

theorem readCommand_bridge (arguments : List Char) :
    readCommand ("bridge user/".toList ++ arguments) = readBridge arguments := by
  have hother : "transfer ".toList.isPrefixOf? ("bridge user/".toList ++ arguments) = none := rfl
  rw [readCommand, if_neg (by simp), hother]
  dsimp only
  rw [isPrefixOf?_append, Option.bind_some]

theorem readCommand_hangUp : readCommand "hangup".toList = some hangUp := by
  rw [readCommand, if_pos rfl]

theorem readCommand_eq_some_iff {cs : List Char} {d : Destination} :
    readCommand cs = some d ↔ d.Known ∧ d.text.toList = marker.toList ++ cs := by
  constructor
  · intro h
    unfold readCommand at h
    split at h
    · rename_i hcs
      cases h
      rw [hcs]
      exact ⟨trivial, toList_text_hangUp⟩
    · split at h
      · rename_i arguments hcs
        rw [List.isPrefixOf?_eq_some_iff_append_eq] at hcs
        obtain ⟨extension, context, rfl, hknown, harguments⟩ := readTransfer_eq_some_iff.mp h
        rw [toList_text_transfer, harguments, hcs]
        exact ⟨hknown, rfl⟩
      · obtain ⟨arguments, hcs, h⟩ := Option.bind_eq_some_iff.mp h
        rw [List.isPrefixOf?_eq_some_iff_append_eq] at hcs
        obtain ⟨number, domain, rfl, hknown, harguments⟩ := readBridge_eq_some_iff.mp h
        rw [toList_text_bridge, harguments, hcs]
        exact ⟨hknown, rfl⟩
  · rintro ⟨hknown, htext⟩
    cases d with
    | transfer extension context =>
      rw [toList_text_transfer, List.append_cancel_left_eq] at htext
      rw [← htext, readCommand_transfer]
      exact readTransfer_eq_some_iff.mpr ⟨extension, context, rfl, hknown, rfl⟩
    | bridge number domain =>
      rw [toList_text_bridge, List.append_cancel_left_eq] at htext
      rw [← htext, readCommand_bridge]
      exact readBridge_eq_some_iff.mpr ⟨number, domain, rfl, hknown, rfl⟩
    | hangUp =>
      rw [toList_text_hangUp, List.append_cancel_left_eq] at htext
      rw [← htext, readCommand_hangUp]
    | custom t => cases hknown

theorem readKnown_eq_some_iff {t : String} {d : Destination} :
    readKnown t = some d ↔ d.Known ∧ d.text = t := by
  rw [readKnown, Option.bind_eq_some_iff]
  constructor
  · rintro ⟨cs, hcs, hread⟩
    rw [List.isPrefixOf?_eq_some_iff_append_eq] at hcs
    obtain ⟨hknown, htext⟩ := readCommand_eq_some_iff.mp hread
    exact ⟨hknown, String.toList_inj.mp (htext.trans hcs)⟩
  · rintro ⟨hknown, rfl⟩
    obtain ⟨cs, hcs⟩ := marker_begins_text hknown
    rw [← hcs]
    exact ⟨cs, isPrefixOf?_append _ _, readCommand_eq_some_iff.mpr ⟨hknown, hcs.symm⟩⟩

theorem filter_readKnown (t : String) : (readKnown t).filter (·.text = t) = readKnown t := by
  cases h : readKnown t with
  | none => rfl
  | some d => simp [(readKnown_eq_some_iff.mp h).2]

theorem read_eq (t : String) : read t = (readKnown t).getD (custom t) := by
  rw [read, filter_readKnown]

@[simp] theorem text_read (t : String) : (read t).text = t := by
  rw [read_eq]
  cases h : readKnown t with
  | none => rfl
  | some d => exact (readKnown_eq_some_iff.mp h).2

theorem canonical_read (t : String) : (read t).Canonical := by
  rw [read_eq]
  cases h : readKnown t with
  | none =>
    intro d hknown htext
    rw [readKnown_eq_some_iff.mpr ⟨hknown, htext⟩] at h
    cases h
  | some d => exact (readKnown_eq_some_iff.mp h).1.canonical

theorem Canonical.read_text {d : Destination} (h : d.Canonical) : read d.text = d := by
  rw [read_eq]
  cases d with
  | custom t =>
    cases hread : readKnown t with
    | none => rw [text, hread, Option.getD_none]
    | some d =>
      obtain ⟨hknown, htext⟩ := readKnown_eq_some_iff.mp hread
      exact absurd htext (h d hknown)
  | _ =>
    rw [Canonical] at h
    rw [readKnown_eq_some_iff.mpr ⟨h, rfl⟩, Option.getD_some]
    all_goals exact nofun

/-- Reading gives the one canonical destination that has the text: a known instruction just where
one has it, which is then never given up again. It undoes writing on the canonical destinations and
on no others. -/
theorem read_exact :
    (∀ t d, read t = d ↔ d.Canonical ∧ d.text = t) ∧
    (∀ t, (read t).Canonical ∧ (read t).text = t) ∧
    (∀ t d, readKnown t = some d ↔ d.Known ∧ d.text = t) ∧
    (∀ t, (readKnown t).filter (·.text = t) = readKnown t) ∧
    (∀ d, read d.text = d ↔ d.Canonical) ∧
    Set.InjOn text {d | d.Canonical} := by
  refine ⟨?_, ?_, ?_, filter_readKnown, ?_, ?_⟩
  · intro t d
    constructor
    · rintro rfl
      exact ⟨canonical_read t, text_read t⟩
    · rintro ⟨h, rfl⟩
      exact h.read_text
  · intro t
    exact ⟨canonical_read t, text_read t⟩
  · intro t d
    exact readKnown_eq_some_iff
  · intro d
    constructor
    · intro h
      rw [← h]
      exact canonical_read d.text
    · exact Canonical.read_text
  · intro d hd e he htext
    rw [← hd.read_text, htext, he.read_text]

end Destination
end Switchboard
