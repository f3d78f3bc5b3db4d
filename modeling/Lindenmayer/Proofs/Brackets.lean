import Lindenmayer.Brackets

set_option autoImplicit false

/-! # Balanced texts

How brackets behave when texts are put together. A text dips below the depth it is read at exactly
when some part of it read from the left closes more branches than that depth and the `[` in it open
(`dips_eq_false_iff`), so a text is balanced exactly when it has as many `[` as `]` and no prefix of
it has more `]` than `[` (`balanced_iff`).

The *level* of a text is the number of branches that it leaves open. Levels add up (`level_append`),
and a text is balanced when it ends at level 0 and is never below (`balanced_iff_level`). So a
balanced text can be put in front of another without changing whether that one is balanced
(`Balanced.append_iff`). -/

namespace Lindenmayer

/-! ## Counting brackets -/

@[simp] theorem opened_nil : opened [] = 0 := rfl

@[simp] theorem closed_nil : closed [] = 0 := rfl

@[simp] theorem opened_append (a b : List Char) : opened (a ++ b) = opened a + opened b :=
  List.count_append

@[simp] theorem closed_append (a b : List Char) : closed (a ++ b) = closed a + closed b :=
  List.count_append

@[simp] theorem opened_cons_open (t : List Char) : opened ('[' :: t) = opened t + 1 :=
  List.count_cons_self

@[simp] theorem closed_cons_close (t : List Char) : closed (']' :: t) = closed t + 1 :=
  List.count_cons_self

theorem opened_cons_of_ne {c : Char} (h : c ≠ '[') (t : List Char) : opened (c :: t) = opened t :=
  List.count_cons_of_ne h

theorem closed_cons_of_ne {c : Char} (h : c ≠ ']') (t : List Char) : closed (c :: t) = closed t :=
  List.count_cons_of_ne h

/-! ## Parts read from the left -/

theorem forall_prefix_cons_iff {P : List Char → Prop} {c : Char} {t : List Char} :
    (∀ u, u <+: c :: t → P u) ↔ P [] ∧ ∀ u, u <+: t → P (c :: u) := by
  constructor
  · intro h
    exact ⟨h [] List.nil_prefix, fun u hu => h (c :: u) ((List.prefix_cons_inj c).2 hu)⟩
  · rintro ⟨hnil, hcons⟩ u hu
    rcases List.prefix_cons_iff.1 hu with rfl | ⟨v, rfl, hv⟩
    · exact hnil
    · exact hcons v hv

/-- The parts of two texts together are those of the first and those that hold all of it. -/
theorem forall_prefix_append_iff {P : List Char → Prop} {a b : List Char} :
    (∀ u, u <+: a ++ b → P u) ↔ (∀ u, u <+: a → P u) ∧ ∀ u, u <+: b → P (a ++ u) := by
  induction a generalizing P with
  | nil =>
    simp only [List.nil_append, List.prefix_nil, forall_eq]
    exact ⟨fun h => ⟨h [] List.nil_prefix, h⟩, fun h => h.2⟩
  | cons c a ih =>
    rw [List.cons_append, forall_prefix_cons_iff, forall_prefix_cons_iff, ih, and_assoc]
    rfl

/-- A text that does not dip has no part that closes more branches than are open. -/
theorem dips_eq_false_iff {depth : Nat} {t : List Char} :
    dips depth t = false ↔ ∀ u, u <+: t → closed u ≤ depth + opened u := by
  induction t generalizing depth with
  | nil => simp [dips]
  | cons c t ih =>
    rw [forall_prefix_cons_iff]
    unfold dips
    by_cases hopen : c = '['
    · have hclosed : ∀ u, closed ('[' :: u) = closed u := closed_cons_of_ne (by decide)
      subst hopen
      simp only [if_true, ih, hclosed, opened_cons_open, closed_nil, Nat.zero_le, true_and]
      exact forall_congr' fun u => imp_congr_right fun _ => by omega
    · by_cases hclose : c = ']'
      · have hopened : ∀ u, opened (']' :: u) = opened u := opened_cons_of_ne (by decide)
        subst hclose
        simp only [if_neg hopen, if_true, hopened, closed_cons_close, closed_nil, Nat.zero_le,
          true_and]
        cases depth with
        | zero =>
          refine ⟨fun h => absurd h (by simp), fun h => ?_⟩
          exact absurd (h [] List.nil_prefix) (by simp)
        | succ depth =>
          rw [ih]
          exact forall_congr' fun u => imp_congr_right fun _ => by omega
      · simp only [if_neg hopen, if_neg hclose, ih, opened_cons_of_ne hopen,
          closed_cons_of_ne hclose, closed_nil, Nat.zero_le, true_and]

/-! ## Balance -/

/-- **Balance, said without a machine**: the brackets are as many, and no part read from the left
closes more branches than it opens. -/
theorem balanced_iff {t : List Char} :
    Balanced t ↔ opened t = closed t ∧ ∀ u, u <+: t → closed u ≤ opened u := by
  simp only [Balanced, dips_eq_false_iff, Nat.zero_add]

/-! ## Levels -/

/-- The number of branches that a text opens and does not close; negative when it closes more than
it opens. -/
def level (t : List Char) : Int := opened t - closed t

@[simp] theorem level_nil : level [] = 0 := rfl

@[simp] theorem level_append (a b : List Char) : level (a ++ b) = level a + level b := by
  simp only [level, opened_append, closed_append]
  omega

theorem level_cons (c : Char) (t : List Char) : level (c :: t) = level [c] + level t :=
  level_append [c] t

/-- A text without brackets opens nothing and closes nothing. -/
theorem level_eq_zero {t : List Char} (h : ∀ c ∈ t, c ≠ '[' ∧ c ≠ ']') : level t = 0 := by
  have hopen : opened t = 0 := List.count_eq_zero.2 fun hm => (h _ hm).1 rfl
  have hclose : closed t = 0 := List.count_eq_zero.2 fun hm => (h _ hm).2 rfl
  simp [level, hopen, hclose]

theorem level_eq_zero_iff {t : List Char} : level t = 0 ↔ opened t = closed t := by
  unfold level
  omega

/-- A text is balanced when it ends at level 0 and is never below. -/
theorem balanced_iff_level {t : List Char} :
    Balanced t ↔ level t = 0 ∧ ∀ u, u <+: t → 0 ≤ level u := by
  rw [balanced_iff, level_eq_zero_iff]
  refine and_congr_right fun _ => forall₂_congr fun u _ => ?_
  unfold level
  omega

/-! ## Balanced pieces -/

/-- A balanced text in front changes nothing. -/
theorem Balanced.append_iff {a b : List Char} (ha : Balanced a) :
    Balanced (a ++ b) ↔ Balanced b := by
  rw [balanced_iff_level] at ha
  obtain ⟨hlevel, hparts⟩ := ha
  simp only [balanced_iff_level, forall_prefix_append_iff, level_append, hlevel, Int.zero_add]
  rw [and_iff_right hparts]

/-- The front of a balanced text is balanced when it has as many brackets of either kind. -/
theorem Balanced.of_append {a b : List Char} (h : Balanced (a ++ b)) (ha : opened a = closed a) :
    Balanced a := by
  rw [balanced_iff_level] at h ⊢
  exact ⟨level_eq_zero_iff.2 ha, (forall_prefix_append_iff.1 h.2).1⟩

theorem balanced_of_forall_ne {t : List Char} (h : ∀ c ∈ t, c ≠ '[' ∧ c ≠ ']') : Balanced t := by
  rw [balanced_iff_level]
  refine ⟨level_eq_zero h, ?_⟩
  intro u hu
  exact Int.le_of_eq (level_eq_zero fun c hc => h c (hu.mem hc)).symm

end Lindenmayer
