import Mathlib.Data.List.Infix

namespace BindPlan.Text

variable {A : Type} {needle body rest : List A} {item : A}

/-- The needle stands behind a body, and nowhere before that. -/
def First (needle body rest : List A) : Prop :=
  ∀ front back, body ++ needle ++ rest = front ++ needle ++ back → body.length ≤ front.length

theorem First.tail (first : First needle (item :: body) rest) : First needle body rest := by
  intro front back same
  have longer : (item :: body).length ≤ (item :: front).length :=
    first (item :: front) back (by simpa using same)
  simpa using longer

theorem First.cons (first : First needle body rest)
    (elsewhere : ¬ needle <+: item :: (body ++ needle ++ rest)) : First needle (item :: body) rest := by
  intro front back same
  cases front with
  | nil => exact absurd ⟨back, by simpa using same.symm⟩ elsewhere
  | cons other front =>
      have tails : body ++ needle ++ rest = front ++ needle ++ back := by
        simpa using (List.cons.inj same).2
      simpa using first front back tails

/-- The body in front of the first place holds no needle. -/
theorem First.apart (filled : needle ≠ []) (first : First needle body rest) : ¬ needle <:+: body := by
  rintro ⟨front, back, rfl⟩
  have shorter := first front (back ++ needle ++ rest) (by simp)
  have long := List.length_pos_iff.mpr filled
  simp only [List.length_append] at shorter
  omega

/-- A row holds a needle at a first place or nowhere. -/
theorem first_or_never (needle row : List A) :
    (∃ body rest, row = body ++ needle ++ rest ∧ First needle body rest) ∨ ¬ needle <:+: row := by
  induction row with
  | nil =>
      by_cases empty : needle = []
      · exact .inl ⟨[], [], by simp [empty], fun _ _ _ => Nat.zero_le _⟩
      · exact .inr (by simpa using empty)
  | cons item row inductionHypothesis =>
      by_cases here : needle <+: item :: row
      · obtain ⟨rest, same⟩ := here
        exact .inl ⟨[], rest, by simpa using same.symm, fun _ _ _ => Nat.zero_le _⟩
      · rcases inductionHypothesis with ⟨body, rest, rfl, first⟩ | never
        · exact .inl ⟨item :: body, rest, by simp, first.cons here⟩
        · refine .inr fun within => ?_
          rcases List.infix_cons_iff.mp within with starts | inside
          · exact here starts
          · exact never inside

end BindPlan.Text
