import Courier.Proofs.Collection.OrderedSet
import Courier.Query.Bindings

/-!
# Looking up bindings

Giving a variable terms changes what is found for that variable and for no other one, whether or
not it had terms before.
-/

namespace Courier.Bindings

/-- Replacing the terms of a variable where it is listed. -/
lemma lookup_replace (entries : List (Variable × OrderedSet Term)) (v w : Variable)
    (terms : OrderedSet Term) :
    (entries.map fun e => if e.1 = v then (v, terms) else e).lookup w =
      (entries.lookup w).map fun old => if w = v then terms else old := by
  induction entries with
  | nil => rfl
  | cons e entries ih =>
    obtain ⟨u, old⟩ := e
    by_cases hw : w = u
    · subst hw
      by_cases hv : w = v <;> simp [hv]
    · have hwu : (w == u) = false := beq_false_of_ne hw
      by_cases hv : u = v
      · subst hv
        simp [List.lookup_cons, hwu, ih, hw]
      · simp [List.lookup_cons, hwu, ih, hv]

/-- The variables that are not listed are those for which nothing is found. -/
lemma lookup_eq_none_iff (entries : List (Variable × OrderedSet Term)) (v : Variable) :
    entries.lookup v = none ↔ v ∉ entries.map Prod.fst := by
  rw [List.lookup_eq_none_iff, List.mem_map]
  constructor
  · rintro h ⟨e, he, rfl⟩
    simpa using h e he
  · intro h e he
    have hne : e.1 ≠ v := fun heq => h ⟨e, he, heq⟩
    simpa using hne.symm

/-- The terms of a variable after some variable was given terms. -/
theorem values_set (b : Bindings) (v w : Variable) (terms : OrderedSet Term) :
    (b.set v terms).values w = if w = v then terms else b.values w := by
  unfold values find? set
  by_cases h : v ∈ b.entries.map Prod.fst
  · rw [dif_pos h, lookup_replace]
    by_cases hw : w = v
    · subst hw
      obtain ⟨old, hold⟩ : ∃ old, b.entries.lookup w = some old := by
        rw [← Option.ne_none_iff_exists']
        exact fun hnone => (lookup_eq_none_iff b.entries w).1 hnone h
      simp [hold]
    · cases b.entries.lookup w <;> simp [hw]
  · rw [dif_neg h, List.lookup_append]
    by_cases hw : w = v
    · subst hw
      simp [(lookup_eq_none_iff b.entries w).2 h]
    · have hwv : (w == v) = false := beq_false_of_ne hw
      simp [List.lookup_cons, hwv, hw]

end Courier.Bindings
