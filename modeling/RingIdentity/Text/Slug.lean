/-!
Slugs: two spellings of a name are the same slug when their ASCII letters and digits agree up to
case, so `acl_group_name`, `aclGroupName` and `ACL-GROUP-NAME` name one thing. Configuration
keys are matched to fields this way. Slugs are ordered by those characters, lower-cased, and a
slug that runs out first is the smaller.

Two texts are compared as slugs without building either slug: the characters that count are
read from both texts in step, and each pair is lower-cased as it is compared
(`compareStreams`). That this is the order of the slugs' characters is `cmp_eq_compare_chars`.
-/
namespace RingIdentity

namespace Slug

/-- Whether a character counts in a slug: an ASCII letter or digit. -/
def counts (c : Char) : Bool := c.isAlphanum

/-- The characters of a text that count, lower-cased. -/
def chars (s : String) : List Char := (s.toList.filter counts).map Char.toLower

/-- The slug of a text: its ASCII letters and digits, lower-cased. -/
def normalize (s : String) : String := String.ofList (chars s)

/-- The next character of a stream that counts, with the stream after it; `none` once no
character left counts. -/
def next? : List Char → Option (Char × List Char)
  | [] => none
  | c :: cs => if counts c then some (c, cs) else next? cs

/-- Two character streams compared as slugs.  The first stream is read one character at a time,
skipping those that do not count; each counting character is paired with the next counting
character of the second stream, and the pair compared lower-cased.  The first pair that differs
decides, and the stream that runs out first is the smaller. -/
def compareStreams : List Char → List Char → Ordering
  | [], ys =>
    match next? ys with
    | none => .eq
    | some _ => .lt
  | c :: cs, ys =>
    if counts c then
      match next? ys with
      | none => .gt
      | some (d, ds) =>
        match compare c.toLower d.toLower with
        | .eq => compareStreams cs ds
        | other => other
    else compareStreams cs ys

/-- The order of two texts as slugs. -/
def cmp (a b : String) : Ordering := compareStreams a.toList b.toList

/-- Whether two texts are the same slug. -/
def same (a b : String) : Bool := cmp a b == .eq

/-! ### The streams read the slugs -/

/-- A stream with no next counting character has no counting character at all. -/
theorem filter_eq_nil_of_next?_eq_none {xs : List Char} (h : next? xs = none) :
    xs.filter counts = [] := by
  induction xs with
  | nil => rfl
  | cons x xs ih =>
    simp only [next?] at h
    split at h
    · cases h
    · simp [*]

/-- The next counting character of a stream is the first of its counting characters. -/
theorem filter_eq_cons_of_next?_eq_some {xs : List Char} {p : Char × List Char}
    (h : next? xs = some p) : xs.filter counts = p.1 :: p.2.filter counts := by
  induction xs with
  | nil => cases h
  | cons x xs ih =>
    simp only [next?] at h
    split at h
    · cases h
      simp [*]
    · simp [*]

/-- Comparing two streams in step is comparing their counting characters, lower-cased, as
lists: one case for each way the loop goes on or ends. -/
theorem compareStreams_eq (xs ys : List Char) :
    compareStreams xs ys =
      compare ((xs.filter counts).map Char.toLower) ((ys.filter counts).map Char.toLower) := by
  fun_induction compareStreams xs ys with
  | case1 ys hy => simp [filter_eq_nil_of_next?_eq_none hy]
  | case2 ys p hy => simp [filter_eq_cons_of_next?_eq_some hy]
  | case3 c cs ys hc hy => simp [hc, filter_eq_nil_of_next?_eq_none hy]
  | case4 c cs ys hc d ds hy hcd ih =>
    -- the pair agrees: both lists go on with what the streams have left
    rw [List.filter_cons_of_pos hc, filter_eq_cons_of_next?_eq_some hy, List.map_cons,
      List.map_cons, List.compare_cons_cons, hcd, Ordering.eq_then, ih]
  | case5 c cs ys hc d ds hy hcd =>
    rw [List.filter_cons_of_pos hc, filter_eq_cons_of_next?_eq_some hy, List.map_cons,
      List.map_cons, List.compare_cons_cons]
    -- the pair differs and decides, whatever the rests are
    cases h : compare c.toLower d.toLower with
    | lt => rfl
    | eq => exact absurd h hcd
    | gt => rfl
  | case6 c cs ys hc ih => rw [List.filter_cons_of_neg hc, ih]

/-- Texts compare as slugs as their slugs' characters compare. -/
theorem cmp_eq_compare_chars (a b : String) : cmp a b = compare (chars a) (chars b) :=
  compareStreams_eq a.toList b.toList

/-- Two texts are the same slug exactly when their slugs are equal. -/
theorem same_iff (a b : String) : same a b = true ↔ normalize a = normalize b := by
  rw [same, beq_iff_eq, cmp_eq_compare_chars, Std.compare_eq_iff_eq, normalize, normalize,
    String.ofList_inj]

end Slug

end RingIdentity
