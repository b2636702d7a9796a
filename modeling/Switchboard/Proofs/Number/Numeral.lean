import Mathlib.Data.List.TakeWhile
import Switchboard.Number.Decimal
import Switchboard.Proofs.Text.Blank

/-!
# Switchboard.Proofs.Number.Numeral

The numerals that are read as decimal numbers: a sign or none, digits with a point among them, at
one of their ends or nowhere, and perhaps a power of ten. `Decimal.Written` says which number each
of them writes, and `Decimal.read_eq_some_iff` that reading takes these numerals and no other text.
-/

namespace Switchboard

/-- A run of digits, perhaps an empty one. -/
def Digits (ds : List Char) : Prop := ∀ c ∈ ds, c.isDigit = true

inductive WritesSign : (negative : Bool) → List Char → Prop where
  | none : WritesSign false []
  | plus : WritesSign false ['+']
  | minus : WritesSign true ['-']

/-- The exponent of a power of ten; without one it is zero. -/
inductive WritesScale : (exponent : Int) → List Char → Prop where
  | none : WritesScale 0 []
  | power {mark : Char} {negative : Bool} {sign ds : List Char} :
      mark ∈ ['e', 'E'] → WritesSign negative sign → ds ≠ [] → Digits ds →
      WritesScale (if negative then -(Decimal.digitsValue ds : Int) else Decimal.digitsValue ds)
        (mark :: (sign ++ ds))

/-- The digits `ds`, at least one, of which the last `places` stand after the point. -/
inductive WritesDigits : (ds : List Char) → (places : Nat) → List Char → Prop where
  | whole {ds : List Char} : ds ≠ [] → Digits ds → WritesDigits ds 0 ds
  | point {whole fraction : List Char} : whole ++ fraction ≠ [] → Digits (whole ++ fraction) →
      WritesDigits (whole ++ fraction) fraction.length (whole ++ '.' :: fraction)

inductive Decimal.Written : Decimal → (cs : List Char) → Prop where
  | numeral {negative : Bool} {exponent : Int} {places : Nat} {sign ds body scale : List Char} :
      WritesSign negative sign → WritesDigits ds places body → WritesScale exponent scale →
      Written ⟨negative, Decimal.digitsValue ds, exponent - places⟩ (sign ++ (body ++ scale))

/-! ## Runs of digits -/

def NoDigitNext (rest : List Char) : Prop := ∀ c ∈ rest.head?, c.isDigit = false

theorem span_digits {ds rest : List Char} (hds : Digits ds) (hrest : NoDigitNext rest) :
    (ds ++ rest).takeWhile Char.isDigit = ds ∧ (ds ++ rest).dropWhile Char.isDigit = rest := by
  rw [List.takeWhile_append_of_pos hds, List.dropWhile_append_of_pos hds]
  cases rest with
  | nil => exact ⟨List.append_nil ds, rfl⟩
  | cons c rest =>
    have hc : ¬ c.isDigit = true := by simp [hrest c rfl]
    rw [List.takeWhile_cons_of_neg hc, List.dropWhile_cons_of_neg hc]
    exact ⟨List.append_nil ds, rfl⟩

theorem digits_takeWhile (cs : List Char) : Digits (cs.takeWhile Char.isDigit) :=
  fun _ => List.mem_takeWhile_imp

namespace WritesDigits

variable {ds body : List Char} {places : Nat} (h : WritesDigits ds places body)
include h

theorem ne_nil : body ≠ [] := by
  cases h with
  | whole hne _ => exact hne
  | point _ _ => exact List.append_ne_nil_of_right_ne_nil _ (List.cons_ne_nil _ _)

theorem mem {c : Char} (hc : c ∈ body) : c.isDigit = true ∨ c = '.' := by
  cases h with
  | whole _ hds => exact .inl (hds c hc)
  | point _ hds =>
    obtain ⟨hwhole, hfraction⟩ := List.forall_mem_append.mp hds
    obtain hc | hc := List.mem_append.mp hc
    · exact .inl (hwhole c hc)
    · obtain rfl | hc := List.mem_cons.mp hc
      · exact .inr rfl
      · exact .inl (hfraction c hc)

end WritesDigits

/-! ## Reading -/

namespace Decimal

theorem digits?_eq_some_iff {ds : List Char} {n : Nat} :
    readExponent.digits? ds = some n ↔ (ds ≠ [] ∧ Digits ds) ∧ digitsValue ds = n := by
  simp [readExponent.digits?, Digits]

theorem noDigitNext_of_writesScale {e : Int} {scale : List Char} (h : WritesScale e scale) :
    NoDigitNext scale := by
  cases h with
  | none => exact nofun
  | power hmark _ _ _ =>
    rintro c hc
    cases hc
    obtain rfl | rfl : _ = 'e' ∨ _ = 'E' := by simpa using hmark
    · rfl
    · rfl

/-- What a sign may begin is read by the sign; digits alone have none. -/
theorem readExponent_cons {mark : Char} (hmark : mark ∈ ['e', 'E']) {negative : Bool}
    {sign ds : List Char} (hsign : WritesSign negative sign) (hne : ds ≠ []) (hds : Digits ds) :
    readExponent (mark :: (sign ++ ds)) =
      some (if negative then -(digitsValue ds : Int) else digitsValue ds) := by
  have hmark' : mark = 'e' ∨ mark = 'E' := by simpa using hmark
  have hread : readExponent.digits? ds = some (digitsValue ds) :=
    digits?_eq_some_iff.mpr ⟨⟨hne, hds⟩, rfl⟩
  cases hsign with
  | none =>
    rw [List.nil_append, readExponent, if_pos hmark', hread]
    · rfl
    · rintro rest rfl
      exact absurd (hds '-' List.mem_cons_self) (by decide)
    · rintro rest rfl
      exact absurd (hds '+' List.mem_cons_self) (by decide)
  | plus => simp [readExponent, hmark', hread]
  | minus => simp [readExponent, hmark', hread]

theorem readExponent_eq_some_iff {cs : List Char} {e : Int} :
    readExponent cs = some e ↔ WritesScale e cs := by
  constructor
  · intro h
    cases cs with
    | nil =>
      cases h
      exact .none
    | cons mark rest =>
      rw [readExponent.eq_def] at h
      obtain ⟨hmark, h⟩ := Option.ite_none_right_eq_some.mp h
      have hmark' : mark ∈ ['e', 'E'] := by simpa using hmark
      split at h
      · obtain ⟨i, hi, rfl⟩ := Option.map_eq_some_iff.mp h
        obtain ⟨n, hn, hi⟩ := Option.bind_eq_some_iff.mp hi
        cases hi
        obtain ⟨⟨hne, hds⟩, rfl⟩ := digits?_eq_some_iff.mp hn
        exact .power hmark' .minus hne hds
      · obtain ⟨n, hn, rfl⟩ := Option.map_eq_some_iff.mp h
        obtain ⟨⟨hne, hds⟩, rfl⟩ := digits?_eq_some_iff.mp hn
        exact .power hmark' .plus hne hds
      · obtain ⟨n, hn, rfl⟩ := Option.map_eq_some_iff.mp h
        obtain ⟨⟨hne, hds⟩, rfl⟩ := digits?_eq_some_iff.mp hn
        exact .power hmark' .none hne hds
  · intro h
    cases h with
    | none => rfl
    | power hmark hsign hne hds => exact readExponent_cons hmark hsign hne hds

/-- The digits and the power of ten of a numeral, whatever its sign. -/
theorem readUnsigned_eq_some_iff {negative : Bool} {cs : List Char} {d : Decimal} :
    readUnsigned negative cs = some d ↔
      ∃ ds places body exponent scale, WritesDigits ds places body ∧
        WritesScale exponent scale ∧ cs = body ++ scale ∧
        d = ⟨negative, digitsValue ds, exponent - places⟩ := by
  constructor
  · intro h
    have hcs := List.takeWhile_append_dropWhile (p := Char.isDigit) (l := cs)
    have hwhole := digits_takeWhile cs
    generalize hw : cs.takeWhile Char.isDigit = whole at hcs hwhole
    rw [readUnsigned, hw] at h
    split at h
    rename_i fraction rest hsplit
    obtain ⟨hne, h⟩ := Option.ite_none_left_eq_some.mp h
    obtain ⟨exponent, hscale, rfl⟩ := Option.map_eq_some_iff.mp h
    have hscale := readExponent_eq_some_iff.mp hscale
    split at hsplit
    · rename_i r hdrop
      cases hsplit
      have hfraction := digits_takeWhile r
      have hr := List.takeWhile_append_dropWhile (p := Char.isDigit) (l := r)
      have hpoint : WritesDigits (whole ++ r.takeWhile Char.isDigit)
          (r.takeWhile Char.isDigit).length (whole ++ '.' :: r.takeWhile Char.isDigit) := by
        refine .point ?_ (List.forall_mem_append.mpr ⟨hwhole, hfraction⟩)
        rwa [Ne, List.append_eq_nil_iff]
      refine ⟨_, _, _, exponent, _, hpoint, hscale, ?_, rfl⟩
      rw [List.append_assoc, List.cons_append, hr, ← hdrop, hcs]
    · cases hsplit
      refine ⟨whole, 0, whole, exponent, _, .whole ?_ hwhole, hscale, hcs.symm, ?_⟩
      · intro hnil
        exact hne ⟨hnil, rfl⟩
      · rw [List.append_nil]
        rfl
  · rintro ⟨ds, places, body, exponent, scale, hdigits, hscale, rfl, rfl⟩
    have hread := readExponent_eq_some_iff.mpr hscale
    have hstop := noDigitNext_of_writesScale hscale
    cases hdigits with
    | whole hne hds =>
      obtain ⟨htake, hdrop⟩ := span_digits hds hstop
      rw [readUnsigned, htake, hdrop]
      cases hscale with
      | none => simp [hne, hread]
      | power hmark _ _ _ =>
        obtain rfl | rfl : _ = 'e' ∨ _ = 'E' := by simpa using hmark
        · simp [hne, hread]
        · simp [hne, hread]
    | @point whole fraction hne hds =>
      obtain ⟨hwhole, hfraction⟩ := List.forall_mem_append.mp hds
      have hpoint : NoDigitNext ('.' :: fraction ++ scale) := by
        rintro c hc
        cases hc
        rfl
      obtain ⟨htake, hdrop⟩ := span_digits hwhole hpoint
      obtain ⟨htake', hdrop'⟩ := span_digits hfraction hstop
      rw [List.append_assoc, readUnsigned, htake, hdrop]
      rw [Ne, List.append_eq_nil_iff] at hne
      simp [htake', hdrop', hne, hread]

theorem read_eq_some_iff {cs : List Char} {d : Decimal} : read cs = some d ↔ d.Written cs := by
  constructor
  · intro h
    rw [read.eq_def] at h
    split at h
    · obtain ⟨ds, places, body, exponent, scale, hdigits, hscale, rfl, rfl⟩ :=
        readUnsigned_eq_some_iff.mp h
      exact .numeral .minus hdigits hscale
    · obtain ⟨ds, places, body, exponent, scale, hdigits, hscale, rfl, rfl⟩ :=
        readUnsigned_eq_some_iff.mp h
      exact .numeral .plus hdigits hscale
    · obtain ⟨ds, places, body, exponent, scale, hdigits, hscale, rfl, rfl⟩ :=
        readUnsigned_eq_some_iff.mp h
      exact .numeral .none hdigits hscale
  · intro h
    cases h with
    | @numeral negative exponent places sign ds body scale hsign hdigits hscale =>
      have hread : readUnsigned negative (body ++ scale) =
          some ⟨negative, digitsValue ds, exponent - places⟩ :=
        readUnsigned_eq_some_iff.mpr ⟨ds, places, body, exponent, scale, hdigits, hscale, rfl, rfl⟩
      cases hsign with
      | plus => exact hread
      | minus => exact hread
      | none =>
        have hhead (mark : Char) (hmark : mark ∈ ['-', '+']) (rest : List Char) :
            body ++ scale ≠ mark :: rest := by
          obtain ⟨c, body, rfl⟩ := List.exists_cons_of_ne_nil hdigits.ne_nil
          rintro heq
          cases heq
          obtain hdigit | rfl := hdigits.mem List.mem_cons_self
          · obtain rfl | rfl : mark = '-' ∨ mark = '+' := by simpa using hmark
            · exact absurd hdigit (by decide)
            · exact absurd hdigit (by decide)
          · exact absurd hmark (by decide)
        rw [List.nil_append, read]
        · exact hread
        · exact hhead '-' (by simp)
        · exact hhead '+' (by simp)

/-! ## The characters of a numeral -/

/-- The characters that numerals are made of. -/
theorem Written.mem {cs : List Char} {d : Decimal} (h : d.Written cs) {c : Char} (hc : c ∈ cs) :
    c.isDigit = true ∨ c ∈ ['-', '+', '.', 'e', 'E'] := by
  have hmem {negative : Bool} {sign : List Char} (hsign : WritesSign negative sign)
      (hc : c ∈ sign) : c ∈ ['-', '+', '.', 'e', 'E'] := by
    cases hsign with
    | none => cases hc
    | plus | minus =>
      rw [List.mem_singleton.mp hc]
      decide
  cases h with
  | numeral hsign hdigits hscale =>
    obtain hc | hc := List.mem_append.mp hc
    · exact .inr (hmem hsign hc)
    · obtain hc | hc := List.mem_append.mp hc
      · obtain hdigit | rfl := hdigits.mem hc
        · exact .inl hdigit
        · exact .inr (by decide)
      · cases hscale with
        | none => cases hc
        | power hmark hsign' _ hds =>
          obtain rfl | hc := List.mem_cons.mp hc
          · exact .inr (List.mem_of_mem_drop (i := 3) hmark)
          · obtain hc | hc := List.mem_append.mp hc
            · exact .inr (hmem hsign' hc)
            · exact .inl (hds c hc)

theorem Written.not_isBlank {cs : List Char} {d : Decimal} (h : d.Written cs) :
    ∀ c ∈ cs, Text.isBlank c = false := by
  intro c hc
  obtain hdigit | hmark := h.mem hc
  · exact Text.isBlank_of_isDigit hdigit
  · simp only [List.mem_cons, List.not_mem_nil, or_false] at hmark
    obtain rfl | rfl | rfl | rfl | rfl := hmark <;> rfl

end Decimal

end Switchboard
