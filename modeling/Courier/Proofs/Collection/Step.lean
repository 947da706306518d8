import Mathlib.Logic.Relation
import Mathlib.Order.OrderIsoNat

/-!
# Steps that leave less to do

Whatever goes on step by step comes to an end, in whichever way the steps are taken, if every step
leaves less to do than before.
-/

namespace Courier

variable {α : Type} {step : α → α → Prop} {left : α → Nat}

/-- Steps that leave less to do cannot be taken without end. -/
theorem not_exists_endless_of_left (hleft : ∀ s t, step s t → left t < left s) :
    ¬ ∃ states : Nat → α, ∀ n, step (states n) (states (n + 1)) := by
  rintro ⟨states, hstates⟩
  have hdecreasing : StrictAnti fun n => left (states n) :=
    strictAnti_nat_of_succ_lt fun n => hleft _ _ (hstates n)
  exact not_strictAnti_of_wellFoundedLT _ hdecreasing

/-- From wherever they start, such steps may be taken until none is left. -/
theorem exists_last_of_left (hleft : ∀ s t, step s t → left t < left s) (s : α) :
    ∃ last, Relation.ReflTransGen step s last ∧ ∀ t, ¬ step last t := by
  induction hn : left s using Nat.strongRecOn generalizing s with
  | ind n ih =>
    by_cases hstep : ∃ t, step s t
    · obtain ⟨t, ht⟩ := hstep
      obtain ⟨last, hreaches, hlast⟩ := ih _ (hn ▸ hleft s t ht) t rfl
      exact ⟨last, .head ht hreaches, hlast⟩
    · exact ⟨s, .refl, fun t ht => hstep ⟨t, ht⟩⟩

end Courier
