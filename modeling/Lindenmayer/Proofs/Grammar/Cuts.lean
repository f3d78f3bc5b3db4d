import Lindenmayer.Grammar.Validation
import Lindenmayer.Proofs.Brackets

set_option autoImplicit false

/-! # Clauses and cuts

The bracket check cuts a rules text at every `),`, while the reader of clauses lets the comma
between two clauses go. Here it is said where the cuts fall in a row of written clauses: after every
clause with a comma and nowhere else (`clauseParts_textAll_of_comma`, `clauseParts_textAll_of_bare`),
so that clauses written without a comma are in one part with the clause after them; and where a `)`
is followed by a `(`: between a clause without a comma and the next (`seam_textAll`). -/

namespace Lindenmayer

/-! ## The text that was read -/

theorem Reading.ofText_of_error {d : Char} {t left : List Char}
    (h : Clause.read (d :: t) = .error left) : Reading.ofText (d :: t) = ⟨[], some left⟩ := by
  rw [Reading.ofText]
  split
  · next left' h' =>
    cases h.symm.trans h'
    rfl
  · next c rest h' => cases h.symm.trans h'

theorem Reading.ofText_of_ok {d : Char} {t rest : List Char} {c : Clause}
    (h : Clause.read (d :: t) = .ok (c, rest)) :
    Reading.ofText (d :: t) = ⟨c :: (Reading.ofText rest).clauses, (Reading.ofText rest).left⟩ := by
  rw [Reading.ofText]
  split
  · next left' h' => cases h.symm.trans h'
  · next c' rest' h' =>
    cases h.symm.trans h'
    rfl

/-- A rules text that follows the grammar is the text of its clauses. -/
theorem Reading.textAll_clauses {rules : List Char} (h : (Reading.ofText rules).left = none) :
    Clause.textAll (Reading.ofText rules).clauses = rules := by
  induction rules using Reading.ofText.induct with
  | case1 =>
    rw [Reading.ofText]
    rfl
  | case2 d t left hread =>
    rw [Reading.ofText_of_error hread] at h
    cases h
  | case3 d t c rest hread _ ih =>
    rw [Reading.ofText_of_ok hread] at h ⊢
    calc Clause.textAll (c :: (Reading.ofText rest).clauses)
        = c.text ++ Clause.textAll (Reading.ofText rest).clauses := rfl
      _ = c.text ++ rest := by rw [ih h]
      _ = d :: t := Clause.text_append_of_read hread

/-! ## The front of a clause -/

/-- The text of a clause up to its closing parenthesis. -/
def Clause.front (c : Clause) : List Char := '(' :: c.letter.toChar :: ',' :: c.body.text

theorem Clause.text_eq (c : Clause) :
    c.text = c.front ++ ')' :: if c.comma then [','] else [] := by
  simp [Clause.text, Clause.front]

theorem Clause.close_notMem_front (c : Clause) : ')' ∉ c.front := by
  have hbody : ')' ∉ c.body.text := by
    intro h
    obtain ⟨s, -, hs⟩ := List.mem_map.1 h
    exact s.toChar_ne (by decide) hs
  have hletter : c.letter.toChar ≠ ')' := c.letter.toChar_ne (by decide)
  simp only [Clause.front, List.mem_cons, not_or]
  exact ⟨by decide, hletter.symm, by decide, hbody⟩

/-- The brackets of a clause are those of its body. -/
theorem Clause.balanced_front_iff (c : Clause) : Balanced c.front ↔ Balanced c.body.text := by
  have hhead : Balanced ['(', c.letter.toChar, ','] := by
    refine balanced_of_forall_ne fun d hd => ?_
    simp only [List.mem_cons, List.not_mem_nil, or_false] at hd
    rcases hd with rfl | rfl | rfl
    · decide
    · exact ⟨c.letter.toChar_ne (by decide), c.letter.toChar_ne (by decide)⟩
    · decide
  exact hhead.append_iff

/-! ## Where a rules text is cut -/

/-- There is no cut at a character that is not a `)` with a comma after it. -/
theorem cutClauses_cons {c : Char} {t : List Char} (h : c ≠ ')' ∨ t.head? ≠ some ',') :
    cutClauses (c :: t) = (c :: (cutClauses t).1, (cutClauses t).2) := by
  rw [cutClauses]
  rintro rest rfl rfl
  simp at h

/-- There is no cut in a text without a `)`. -/
theorem cutClauses_append {w : List Char} (hw : ')' ∉ w) (t : List Char) :
    cutClauses (w ++ t) = (w ++ (cutClauses t).1, (cutClauses t).2) := by
  induction w with
  | nil => rfl
  | cons c w ih =>
    have hc : c ≠ ')' := fun h => hw (h ▸ List.mem_cons_self)
    have hw' : ')' ∉ w := fun h => hw (List.mem_cons_of_mem c h)
    rw [List.cons_append, cutClauses_cons (.inl hc), ih hw']
    rfl

theorem Clause.textAll_cons (c : Clause) (cs : List Clause) :
    Clause.textAll (c :: cs)
      = c.front ++ ')' :: ((if c.comma then [','] else []) ++ Clause.textAll cs) := by
  simp [Clause.textAll, Clause.text_eq]

theorem Clause.head?_textAll_ne (cs : List Clause) : (Clause.textAll cs).head? ≠ some ',' := by
  cases cs with
  | nil => simp [Clause.textAll]
  | cons c cs => simp [Clause.textAll_cons, Clause.front]

/-- A row of clauses is cut after a clause with a comma. -/
theorem clauseParts_textAll_of_comma {c : Clause} (hc : c.comma = true) (cs : List Clause) :
    clauseParts (Clause.textAll (c :: cs)) = c.front :: clauseParts (Clause.textAll cs) := by
  rw [Clause.textAll_cons, hc, clauseParts, cutClauses_append c.close_notMem_front]
  simp [cutClauses, clauseParts]

/-- A row of clauses is not cut after a clause without a comma. -/
theorem clauseParts_textAll_of_bare {c : Clause} (hc : c.comma = false) (cs : List Clause) :
    clauseParts (Clause.textAll (c :: cs))
      = (c.front ++ ')' :: (cutClauses (Clause.textAll cs)).1)
          :: (cutClauses (Clause.textAll cs)).2 := by
  rw [Clause.textAll_cons, hc, clauseParts, cutClauses_append c.close_notMem_front]
  simp [cutClauses_cons (.inr (Clause.head?_textAll_ne cs))]

/-! ## Seams -/

/-- A `)` after a text without one is the first, or comes later. -/
theorem append_close_cases {w t u v : List Char} (hw : ')' ∉ w)
    (h : w ++ ')' :: t = u ++ ')' :: v) :
    (u = w ∧ t = v) ∨ ∃ u', u = w ++ ')' :: u' ∧ t = u' ++ ')' :: v := by
  induction w generalizing u with
  | nil =>
    cases u with
    | nil =>
      cases h
      exact .inl ⟨rfl, rfl⟩
    | cons d u =>
      cases h
      exact .inr ⟨u, rfl, rfl⟩
  | cons c w ih =>
    cases u with
    | nil =>
      cases h
      exact absurd List.mem_cons_self hw
    | cons d u =>
      rw [List.cons_append, List.cons_append, List.cons.injEq] at h
      obtain ⟨rfl, h⟩ := h
      rcases ih (fun hmem => hw (List.mem_cons_of_mem c hmem)) h with ⟨rfl, rfl⟩ | ⟨u', rfl, ht⟩
      · exact .inl ⟨rfl, rfl⟩
      · exact .inr ⟨u', rfl, ht⟩

/-- A seam in a row of clauses is between a clause without a comma and the next clause, or it is one
of the row without the first clause. -/
theorem seam_textAll {c : Clause} {cs : List Clause} {u v : List Char}
    (h : Clause.textAll (c :: cs) = u ++ ')' :: '(' :: v) :
    (c.comma = false ∧ u = c.front) ∨
      ∃ u', u = c.front ++ ')' :: ((if c.comma then [','] else []) ++ u') ∧
        Clause.textAll cs = u' ++ ')' :: '(' :: v := by
  rw [Clause.textAll_cons] at h
  rcases append_close_cases c.close_notMem_front h with ⟨hu, ht⟩ | ⟨u', hu, ht⟩
  · cases hc : c.comma with
    | true =>
      rw [hc] at ht
      cases ht
    | false => exact .inl ⟨rfl, hu⟩
  · refine .inr ?_
    cases hc : c.comma with
    | true =>
      rw [hc] at ht
      cases u' with
      | nil => cases ht
      | cons d u' =>
        rw [if_pos rfl, List.singleton_append, List.cons_append, List.cons.injEq] at ht
        obtain ⟨rfl, ht⟩ := ht
        exact ⟨u', hu, ht⟩
    | false =>
      rw [hc] at ht
      exact ⟨u', hu, ht⟩

/-- There is a seam between a clause without a comma and the next clause. -/
theorem seam_textAll_bare {c d : Clause} (hc : c.comma = false) (cs : List Clause) :
    ∃ v, Clause.textAll (c :: d :: cs) = c.front ++ ')' :: '(' :: v := by
  rw [Clause.textAll_cons, hc, Clause.textAll_cons d]
  exact ⟨_, rfl⟩

/-- Seams of a row without its first clause are seams of the row. -/
theorem seam_textAll_cons {c : Clause} {cs : List Clause} {u v : List Char}
    (h : Clause.textAll cs = u ++ ')' :: '(' :: v) :
    Clause.textAll (c :: cs)
      = (c.front ++ ')' :: ((if c.comma then [','] else []) ++ u)) ++ ')' :: '(' :: v := by
  rw [Clause.textAll_cons, h]
  simp

end Lindenmayer
