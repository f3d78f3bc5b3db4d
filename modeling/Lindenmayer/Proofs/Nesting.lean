import Mathlib.Data.List.Infix
import Mathlib.Order.Basic
import Lindenmayer.Proofs.Brackets

set_option autoImplicit false

/-! # Nesting

The *nesting depth* of a text is the greatest number of branches that are open at a time when it is
read: the greatest level of any part of it read from the left (`nesting_le_iff`).

Balance survives substitution. A substitution that keeps brackets and puts balanced texts in the
place of all other characters leaves the level of every text as it is
(`KeepsBranches.level_flatMap`); in between, the level is off by no more than the depth of what was
put in (`KeepsBranches.exists_prefix`). So balanced texts stay balanced
(`KeepsBranches.balanced_flatMap`) and get deeper by no more than that depth
(`KeepsBranches.nesting_flatMap_le`). -/

namespace Lindenmayer

/-! ## The nesting depth -/

/-- The greatest of some numbers, or 0 if there are none. -/
def greatest (ns : List Nat) : Nat := ns.foldr max 0

theorem greatest_le_iff {ns : List Nat} {d : Nat} : greatest ns ≤ d ↔ ∀ n ∈ ns, n ≤ d := by
  induction ns with
  | nil => simp [greatest]
  | cons n ns ih =>
    rw [List.forall_mem_cons, ← ih]
    exact Nat.max_le

/-- The greatest number of branches that are open at a time when a text is read. -/
def nesting (t : List Char) : Nat := greatest (t.inits.map fun u => opened u - closed u)

theorem nesting_le_iff {t : List Char} {d : Nat} :
    nesting t ≤ d ↔ ∀ u, u <+: t → level u ≤ d := by
  unfold nesting
  rw [greatest_le_iff, List.forall_mem_map]
  refine forall_congr' fun u => ?_
  rw [List.mem_inits]
  refine imp_congr_right fun _ => ?_
  unfold level
  omega

theorem level_le_nesting {u t : List Char} (h : u <+: t) : level u ≤ nesting t :=
  nesting_le_iff.1 (Nat.le_refl _) u h

/-- A text without brackets is not nested. -/
theorem nesting_eq_zero {t : List Char} (h : ∀ c ∈ t, c ≠ '[' ∧ c ≠ ']') : nesting t = 0 := by
  rw [← Nat.le_zero, nesting_le_iff]
  intro u hu
  have hlevel : level u = 0 := level_eq_zero fun c hc => h c (hu.mem hc)
  omega

theorem balanced_and_nesting_le {t : List Char} (h : ∀ c ∈ t, c ≠ '[' ∧ c ≠ ']') (d : Nat) :
    Balanced t ∧ nesting t ≤ d := by
  rw [nesting_eq_zero h]
  exact ⟨balanced_of_forall_ne h, Nat.zero_le d⟩

/-- One more character counts with the level that it leads to. -/
theorem nesting_concat (t : List Char) (c : Char) :
    nesting (t ++ [c]) = max (nesting t) (level (t ++ [c])).toNat := by
  refine eq_of_forall_ge_iff fun d => ?_
  rw [nesting_le_iff, Nat.max_le, nesting_le_iff, Int.toNat_le]
  constructor
  · intro h
    exact ⟨fun u hu => h u (hu.trans (List.prefix_append t [c])), h _ (List.prefix_refl _)⟩
  · rintro ⟨hparts, hall⟩ u hu
    rcases List.prefix_concat_iff.1 hu with rfl | hu
    · exact hall
    · exact hparts u hu

/-- The depth does not grow with a character that opens nothing. -/
theorem nesting_concat_of_level_le {t : List Char} {c : Char}
    (h : level (t ++ [c]) ≤ level t) : nesting (t ++ [c]) = nesting t := by
  have hall := level_le_nesting (List.prefix_refl t)
  rw [nesting_concat]
  omega

/-! ## Substitution -/

/-- A substitution that keeps brackets, and puts balanced texts that are nested no deeper than `d`
in the place of other characters. -/
structure KeepsBranches (f : Char → List Char) (d : Nat) : Prop where
  opening : f '[' = ['[']
  closing : f ']' = [']']
  inner : ∀ c, c ≠ '[' → c ≠ ']' → Balanced (f c) ∧ nesting (f c) ≤ d

namespace KeepsBranches

variable {f : Char → List Char} {d : Nat}

theorem level_eq (hf : KeepsBranches f d) (c : Char) : level (f c) = level [c] := by
  by_cases hopen : c = '['
  · rw [hopen, hf.opening]
  · by_cases hclose : c = ']'
    · rw [hclose, hf.closing]
    · have hc : level [c] = 0 := level_eq_zero (by simp [hopen, hclose])
      rw [hc]
      exact (balanced_iff_level.1 (hf.inner c hopen hclose).1).1

/-- What is put in leaves the level as it is. -/
theorem level_flatMap (hf : KeepsBranches f d) (t : List Char) :
    level (t.flatMap f) = level t := by
  induction t with
  | nil => rfl
  | cons c t ih => rw [List.flatMap_cons, level_append, hf.level_eq, ih, level_cons c t]

/-- Within what is put in for one character, the level is between the level before or after the
character and `d` more than that. -/
theorem exists_prefix_singleton (hf : KeepsBranches f d) {c : Char} {u : List Char}
    (hu : u <+: f c) : ∃ v, v <+: [c] ∧ level v ≤ level u ∧ level u ≤ level v + d := by
  have hkept : f c = [c] → ∃ v, v <+: [c] ∧ level v ≤ level u ∧ level u ≤ level v + d := by
    intro hc
    rw [hc] at hu
    exact ⟨u, hu, Int.le_refl _, by omega⟩
  by_cases hopen : c = '['
  · exact hkept (by rw [hopen, hf.opening])
  · by_cases hclose : c = ']'
    · exact hkept (by rw [hclose, hf.closing])
    · obtain ⟨hbalanced, hdepth⟩ := hf.inner c hopen hclose
      have hlow := (balanced_iff_level.1 hbalanced).2 u hu
      have hhigh := nesting_le_iff.1 hdepth u hu
      exact ⟨[], List.nil_prefix, by simpa using hlow, by simpa using hhigh⟩

/-- At every place of the new text the level is between that at some place of the old text and `d`
more than that. -/
theorem exists_prefix (hf : KeepsBranches f d) {u t : List Char} (hu : u <+: t.flatMap f) :
    ∃ v, v <+: t ∧ level v ≤ level u ∧ level u ≤ level v + d := by
  induction t generalizing u with
  | nil =>
    rw [List.flatMap_nil, List.prefix_nil] at hu
    exact ⟨[], List.nil_prefix, by simp [hu]⟩
  | cons c t ih =>
    rw [List.flatMap_cons] at hu
    revert u
    rw [forall_prefix_append_iff]
    constructor
    · intro u hu
      obtain ⟨v, hv, hlow, hhigh⟩ := hf.exists_prefix_singleton hu
      exact ⟨v, hv.trans (List.prefix_append [c] t), hlow, hhigh⟩
    · intro u hu
      obtain ⟨v, hv, hlow, hhigh⟩ := ih hu
      refine ⟨c :: v, (List.prefix_cons_inj c).2 hv, ?_⟩
      rw [level_append, hf.level_eq, level_cons c v]
      omega

/-- **Balanced texts stay balanced.** -/
theorem balanced_flatMap (hf : KeepsBranches f d) {t : List Char} (h : Balanced t) :
    Balanced (t.flatMap f) := by
  rw [balanced_iff_level] at h ⊢
  refine ⟨(hf.level_flatMap t).trans h.1, ?_⟩
  intro u hu
  obtain ⟨v, hv, hlow, -⟩ := hf.exists_prefix hu
  exact Int.le_trans (h.2 v hv) hlow

/-- **Texts get deeper by no more than the depth of what is put in.** -/
theorem nesting_flatMap_le (hf : KeepsBranches f d) (t : List Char) :
    nesting (t.flatMap f) ≤ nesting t + d := by
  rw [nesting_le_iff]
  intro u hu
  obtain ⟨v, hv, -, hhigh⟩ := hf.exists_prefix hu
  have hdepth := level_le_nesting hv
  omega

end KeepsBranches

end Lindenmayer
