import Mathlib
import RingIdentity.Text.Slug
/-! # Comparing as slugs is comparing slugs

`Slug.cmp` reads the counting characters of two texts in step and lower-cases each pair as it
compares them, so it never builds a slug.  It still orders two texts exactly as their slugs are
ordered as texts (`Slug.cmp_eq_compare_normalize`): the loop compares the slugs' characters as
lists (`Slug.cmp_eq_compare_chars`, beside the definition), and texts are ordered as their
characters are (`Text.compare_eq_compare_toList`).

Everything else follows from the order of texts: comparing as slugs is a total preorder
(`Slug.cmp_eq_compareOn` with the library's instances for `compareOn`), being the same slug is an
equivalence, and a slug is its own slug, since lower-casing keeps a letter or digit one.

Main statement: `Slug.cmp_laws`.
-/
namespace RingIdentity

namespace Text

/-- Character lists compare lexicographically, as `<` orders them. -/
theorem compare_chars_eq_compareOfLessAndEq (xs ys : List Char) :
    compare xs ys = compareOfLessAndEq xs ys := by
  induction xs generalizing ys with
  | nil => cases ys <;> simp [compareOfLessAndEq]
  | cons x xs ih =>
    cases ys with
    | nil => simp [compareOfLessAndEq]
    | cons y ys =>
      rw [List.compare_cons_cons, ih]
      rcases lt_trichotomy x y with hxy | rfl | hyx
      · -- the first characters decide
        have hlt : x :: xs < y :: ys := List.cons_lt_cons_iff.mpr (.inl hxy)
        rw [compare_lt_iff_lt.mpr hxy, Ordering.lt_then, compareOfLessAndEq, if_pos hlt]
      · -- equal first characters: the rests decide
        simp only [Std.ReflCmp.compare_self, Ordering.eq_then, compareOfLessAndEq,
          List.cons_lt_cons_iff, lt_irrefl, List.cons.injEq, true_and, false_or]
      · have hnlt : ¬ x :: xs < y :: ys := fun h => by
          rcases List.cons_lt_cons_iff.mp h with h | ⟨rfl, -⟩
          · exact lt_asymm h hyx
          · exact lt_irrefl _ hyx
        have hne : x :: xs ≠ y :: ys := fun h => hyx.ne' (List.cons.inj h).1
        rw [compare_gt_iff_gt.mpr hyx, Ordering.gt_then, compareOfLessAndEq, if_neg hnlt,
          if_neg hne]

/-- Texts compare as their characters do. -/
theorem compare_eq_compare_toList (s t : String) : compare s t = compare s.toList t.toList := by
  rw [compare_chars_eq_compareOfLessAndEq, LinearOrder.compare_eq_compareOfLessAndEq]
  simp only [compareOfLessAndEq, String.lt_iff_toList_lt, ← String.toList_inj]

end Text

namespace Slug

/-! ## The order of slugs -/

/-- Texts compare as slugs exactly as their slugs compare as texts. -/
theorem cmp_eq_compare_normalize (a b : String) :
    cmp a b = compare (normalize a) (normalize b) := by
  rw [cmp_eq_compare_chars, Text.compare_eq_compare_toList, normalize, normalize,
    String.toList_ofList, String.toList_ofList]

-- `b` against `A` is `b` against `a`: case is gone before the comparison
example : cmp "b" "A" = compare "b" "a" := by decide

theorem cmp_eq_compareOn : cmp = compareOn normalize := by
  funext a b
  exact cmp_eq_compare_normalize a b

instance : Std.ReflCmp cmp := cmp_eq_compareOn ▸ inferInstance

instance : Std.TransCmp cmp := cmp_eq_compareOn ▸ inferInstance

/-- Being the same slug is an equivalence: it is equality of slugs. -/
theorem same_equivalence : Equivalence fun a b => same a b = true where
  refl a := (same_iff a a).mpr rfl
  symm h := (same_iff _ _).mpr ((same_iff _ _).mp h).symm
  trans h₁ h₂ := (same_iff _ _).mpr (((same_iff _ _).mp h₁).trans ((same_iff _ _).mp h₂))

/-! ## A slug is its own slug -/

/-- A letter or digit is still one once lower-cased. -/
theorem counts_toLower {c : Char} (h : counts c = true) : counts c.toLower = true := by
  by_cases hu : c.isUpper = true
  · -- a capital turns into a letter
    have halpha : c.toLower.isAlpha = true := by
      rw [Char.isAlpha_toLower_eq_isAlpha, Char.isAlpha, hu, Bool.true_or]
    simp [counts, Char.isAlphanum, halpha]
  · rwa [Char.toLower_eq_of_not_isUpper hu]

/-- Every character of a slug counts, and is already lower-case. -/
theorem chars_normalize (s : String) : chars (normalize s) = chars s := by
  have hall : ∀ c ∈ chars s, counts c = true := by
    intro c hc
    obtain ⟨d, hd, rfl⟩ := List.mem_map.mp hc
    exact counts_toLower (List.mem_filter.mp hd).2
  rw [chars, normalize, String.toList_ofList, List.filter_eq_self.mpr hall, chars, List.map_map]
  simp [Function.comp_def, Char.toLower_toLower_eq_toLower]

theorem normalize_normalize (s : String) : normalize (normalize s) = normalize s := by
  rw [normalize, chars_normalize, ← normalize]

example : normalize "Sibling-ASG_Names" = "siblingasgnames" := by decide

/-! ## Main statement -/

/-- **Comparing as slugs.**  Two texts compare as slugs as their slugs compare as texts, and are
the same slug exactly when their slugs are equal.  So comparing as slugs is a total preorder:
reflexive, reversed when its arguments are swapped, and transitive; being the same slug is an
equivalence; and a slug is its own slug. -/
theorem cmp_laws :
    (∀ a b, cmp a b = compare (normalize a) (normalize b)) ∧
    (∀ a b, same a b = true ↔ normalize a = normalize b) ∧
    (∀ a, cmp a a = .eq) ∧
    (∀ a b, cmp b a = (cmp a b).swap) ∧
    (∀ a b c, (cmp a b).isLE → (cmp b c).isLE → (cmp a c).isLE) ∧
    Equivalence (fun a b => same a b = true) ∧
    (∀ s, normalize (normalize s) = normalize s) :=
  ⟨cmp_eq_compare_normalize, same_iff, fun _ => Std.ReflCmp.compare_self,
    fun _ _ => Std.OrientedCmp.eq_swap, fun _ _ _ => Std.TransCmp.isLE_trans,
    same_equivalence, normalize_normalize⟩

end Slug

end RingIdentity
