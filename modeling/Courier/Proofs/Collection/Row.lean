import Mathlib.Data.List.Forall2
import Mathlib.Data.List.TakeDrop
import Mathlib.Data.List.TakeWhile

/-!
# Rows

What an operation on each member of a row gives, if it may fail, the two parts of a row where a
condition fails first, and the members of a row without those that came before.
-/

namespace Courier

/-! ### Operations that may fail -/

section Operations

variable {α β ε : Type}

/-- Two operations in a row succeed if the second does with what the first succeeds with. -/
lemma bind_eq_ok_iff {x : Except ε α} {f : α → Except ε β} {b : β} :
    x >>= f = .ok b ↔ ∃ a, x = .ok a ∧ f a = .ok b := by
  cases x with
  | error e => simp [bind, Except.bind]
  | ok a => simp [bind, Except.bind]

lemma exists_mapM_eq_error_iff (f : α → Except ε β) (xs : List α) :
    (∃ e, xs.mapM f = .error e) ↔ ∃ x ∈ xs, ∃ e, f x = .error e := by
  induction xs with
  | nil => simp [pure, Except.pure]
  | cons x xs ih =>
    rw [List.exists_mem_cons_iff, ← ih, List.mapM_cons]
    cases f x with
    | error e => simp [bind, Except.bind]
    | ok y => cases xs.mapM f <;> simp [bind, Except.bind, pure, Except.pure]

/-- A row of operations succeeds with what the single ones succeed with. -/
lemma mapM_eq_ok_iff {f : α → Except ε β} {xs : List α} {ys : List β} :
    xs.mapM f = .ok ys ↔ List.Forall₂ (fun x y => f x = .ok y) xs ys := by
  constructor
  · intro h
    induction xs generalizing ys with
    | nil => cases h; exact .nil
    | cons x xs ih =>
      rw [List.mapM_cons] at h
      cases hx : f x with
      | error e => rw [hx] at h; cases h
      | ok y =>
        cases hxs : xs.mapM f with
        | error e => rw [hx, hxs] at h; cases h
        | ok rest =>
          rw [hx, hxs] at h
          cases h
          exact .cons hx (ih hxs)
  · intro h
    induction h with
    | nil => rfl
    | cons hx _ ih =>
      rw [List.mapM_cons, hx, ih]
      rfl

lemma mapM_eq_some_iff {g : β → Option α} {ys : List β} {xs : List α} :
    ys.mapM g = some xs ↔ List.Forall₂ (fun y x => g y = some x) ys xs := by
  induction ys generalizing xs with
  | nil => cases xs <;> simp
  | cons y ys ih =>
    rw [List.mapM_cons]
    constructor
    · intro h
      obtain ⟨x, hx, hrest⟩ := Option.bind_eq_some_iff.1 h
      obtain ⟨rest, hys, heq⟩ := Option.bind_eq_some_iff.1 hrest
      cases heq
      exact .cons hx (ih.1 hys)
    · intro h
      cases h with
      | cons hx hrest =>
        rw [hx, ih.2 hrest]
        rfl

/-- There is a row related to the given one if there is something related to each of its members. -/
lemma exists_forall₂_iff {R : α → β → Prop} {xs : List α} :
    (∃ ys, List.Forall₂ R xs ys) ↔ ∀ x ∈ xs, ∃ y, R x y := by
  induction xs with
  | nil => exact iff_of_true ⟨[], .nil⟩ (by simp)
  | cons x xs ih =>
    rw [List.forall_mem_cons, ← ih]
    constructor
    · rintro ⟨_, hys⟩
      cases hys with
      | cons hxy hys => exact ⟨⟨_, hxy⟩, _, hys⟩
    · rintro ⟨⟨y, hxy⟩, ys, hys⟩
      exact ⟨y :: ys, .cons hxy hys⟩

end Operations

/-! ### Conditions -/

section Conditions

variable {α : Type}

/-- The members up to where a condition fails first, and those from there on. -/
lemma eq_append_of_span {condition : α → Bool} {xs front back : List α}
    (h : xs.span condition = (front, back)) :
    xs = front ++ back ∧ (∀ x ∈ front, condition x = true) ∧
      ∀ x ∈ back.head?, condition x = false := by
  rw [List.span_eq_takeWhile_dropWhile] at h
  obtain ⟨rfl, rfl⟩ := Prod.mk.inj h
  refine ⟨List.takeWhile_append_dropWhile.symm, fun x hx => List.mem_takeWhile_imp hx,
    fun x hx => ?_⟩
  have hhead := List.head?_dropWhile_not condition xs
  rw [Option.mem_def.1 hx] at hhead
  simpa using hhead

/-- Up to a member that fails a condition which all before it meet. -/
lemma span_append_cons {condition : α → Bool} {front : List α}
    (hfront : ∀ x ∈ front, condition x = true) {x : α} (hx : condition x = false)
    (back : List α) : (front ++ x :: back).span condition = (front, x :: back) := by
  have hx' : ¬condition x = true := by simp [hx]
  rw [List.span_eq_takeWhile_dropWhile, List.takeWhile_append_of_pos hfront,
    List.dropWhile_append_of_pos hfront, List.takeWhile_cons_of_neg hx',
    List.dropWhile_cons_of_neg hx', List.append_nil]

lemma eq_false_of_any {p : α → Bool} {xs : List α} (h : xs.any p = false) {x : α} (hx : x ∈ xs) :
    p x = false := by
  simpa using List.any_eq_false.1 h x hx

end Conditions

/-! ### First occurrences -/

section FirstOccurrences

variable {α : Type} [BEq α] [LawfulBEq α]

/-- Members that come again are left out whichever members are looked at. -/
lemma eraseDups_filter (keep : α → Bool) (xs : List α) :
    (xs.filter keep).eraseDups = xs.eraseDups.filter keep := by
  induction hlength : xs.length using Nat.strongRecOn generalizing xs with
  | ind n ih =>
    cases xs with
    | nil => rfl
    | cons x xs =>
      have hshorter : (xs.filter fun y => !y == x).length < n := by
        have hle := List.length_filter_le (fun y => !y == x) xs
        rw [List.length_cons] at hlength
        omega
      rw [List.eraseDups_cons]
      by_cases hx : keep x = true
      · rw [List.filter_cons_of_pos hx, List.filter_cons_of_pos hx, List.eraseDups_cons,
          ← ih _ hshorter _ rfl, List.filter_filter, List.filter_filter]
        simp only [Bool.and_comm]
      · rw [List.filter_cons_of_neg hx, List.filter_cons_of_neg hx, ← ih _ hshorter _ rfl,
          List.filter_filter]
        congr 1
        refine List.filter_congr fun y _ => ?_
        by_cases hy : y = x
        · subst hy
          simp [hx]
        · simp [hy]

/-- Nothing is left out if no member comes again. -/
lemma eraseDups_of_nodup {xs : List α} (h : xs.Nodup) : xs.eraseDups = xs := by
  induction xs with
  | nil => rfl
  | cons x xs ih =>
    obtain ⟨hx, hxs⟩ := List.nodup_cons.1 h
    rw [List.eraseDups_cons, List.filter_eq_self.2, ih hxs]
    intro y hy
    have hne : y ≠ x := fun heq => hx (heq ▸ hy)
    simpa using hne

end FirstOccurrences

end Courier
