import Mathlib.Data.List.Basic
import Mathlib.Data.List.Induction
/-! # Removing repeats

Lists of names are freed of repeats by keeping each name at its first occurrence: the groups an
instance's autoscaling strategy asks about, and the names found inside a directory.  What the
callers rely on is said here once: each name is then kept once (`nodup_eraseDups`), in the order
of first occurrences (`pairwise_idxOf_eraseDups`), the first name first (`head?_eraseDups`).
-/
namespace RingIdentity

variable {α : Type} [BEq α]

/-- The first member of a list is the first one kept. -/
theorem head?_eraseDups (l : List α) : l.eraseDups.head? = l.head? := by
  cases l with
  | nil => rfl
  | cons a l => rw [List.eraseDups_cons]; rfl

variable [LawfulBEq α]

/-- Removing repeats keeps every member at its first occurrence: in the result a member comes
before another exactly when it first occurs before it. -/
theorem pairwise_idxOf_eraseDups (l : List α) :
    l.eraseDups.Pairwise (fun x y => l.idxOf x < l.idxOf y) := by
  induction l using List.reverseRecOn with
  | nil => simp
  | append_singleton l a ih =>
    rw [List.eraseDups_append, List.pairwise_append]
    -- the members kept from `l` first occur in `l`, before the new one
    have hkeep : ∀ x ∈ l.eraseDups, (l ++ [a]).idxOf x = l.idxOf x := fun x hx =>
      List.idxOf_append_of_mem (List.mem_eraseDups.mp hx)
    have hnew : ∀ y ∈ ([a].removeAll l).eraseDups, y = a ∧ y ∉ l := by
      intro y hy
      simpa [List.removeAll, List.mem_eraseDups] using hy
    refine ⟨ih.imp_of_mem fun hx hy h => by rwa [hkeep _ hx, hkeep _ hy], ?_, ?_⟩
    · -- at most one member is new
      refine List.Pairwise.imp_of_mem (R := fun _ _ => False) (fun hx hy h => h.elim) ?_
      by_cases ha : a ∈ l <;> simp [List.removeAll, List.eraseDups_cons, ha]
    · intro x hx y hy
      obtain ⟨rfl, ha⟩ := hnew y hy
      rw [hkeep x hx, List.idxOf_append_of_notMem ha]
      simpa using List.idxOf_lt_length_of_mem (List.mem_eraseDups.mp hx)

theorem nodup_eraseDups (l : List α) : l.eraseDups.Nodup :=
  (pairwise_idxOf_eraseDups l).imp fun h hxy => by subst hxy; exact Nat.lt_irrefl _ h

end RingIdentity
