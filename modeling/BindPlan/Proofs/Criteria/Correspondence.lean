import BindPlan.Proofs.Criteria.Replay

namespace BindPlan

namespace Allocating

variable {A B : Type}

/-- The action hands out markers in a row, whether or not it fails on the way. -/
def Advances (action : Allocating A) : Prop :=
  ∀ start : Allocator, ∃ markers, start.Hands markers (action.run.run start).2

namespace Advances

theorem pure (value : A) : Advances (pure value) := fun start => ⟨[], .none start⟩

theorem throw (error : Error) : Advances (throw error : Allocating A) :=
  fun start => ⟨[], .none start⟩

theorem nextFor (hint : String) : Advances (nextFor hint) :=
  fun start => ⟨_, .one start (some hint)⟩

theorem ofConversion (conversion : Except Error A) : Advances (ofConversion conversion) := by
  cases conversion with
  | error fault => exact .throw _
  | ok value => exact .pure value

/-- A sequence hands out what its first part hands out, and then the rest if the first part succeeds. -/
theorem bind {action : Allocating A} {next : A → Allocating B} (first : Advances action)
    (rest : ∀ value, Advances (next value)) : Advances (action >>= next) := by
  intro start
  obtain ⟨markers, hands⟩ := first start
  rw [run_bind]
  rcases outcome : action.run.run start with ⟨error | value, between⟩
  · rw [outcome] at hands
    exact ⟨markers, hands⟩
  · rw [outcome] at hands
    obtain ⟨others, behind⟩ := rest value between
    exact ⟨markers ++ others, hands.append behind⟩

theorem mapM {action : A → Allocating B} (each : ∀ item, Advances (action item)) (items : List A) :
    Advances (items.mapM action) := by
  induction items with
  | nil => exact .pure []
  | cons item rest inductionHypothesis =>
      rw [List.mapM_cons]
      exact (each item).bind fun result => inductionHypothesis.bind fun results => .pure _

end Advances

end Allocating

namespace Mapper

open Allocating

end Mapper

end BindPlan
