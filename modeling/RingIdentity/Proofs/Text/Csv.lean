import Mathlib.Data.String.Basic
import RingIdentity.Listing
/-! # Comma-separated listings

A listing given as one text is cut at every comma; each piece is trimmed of blanks (the Unicode
`White_Space` characters) and the pieces left empty are dropped.  The pieces are those of the
character list (`splitOn_singleton`): the text splitter used here walks byte positions, and for a
separator of one byte it cuts exactly where the list splitter does.

Trimming is idempotent (`trim_trim`), only removes characters (`mem_of_mem_trim`), and skips any
blanks put in front (`trim_blanks_append`).  Hence every entry of a listing is nonempty, trimmed
and free of commas (`IsEntry`), and such entries survive being joined with a comma, or with a
comma and blanks, and cut again (`ofCsv_intercalate`).  A listing is therefore a fixed point of
joining and cutting, and the text form and the sequence form of a listing read alike.
-/
namespace RingIdentity

namespace Text

open String

/-! ## Cutting at a one-byte separator -/

/-- The splitter's loop, started after `l` with the current piece `m` read so far and `r` left,
cuts `r` as the list splitter does with `m` already in hand. -/
theorem splitOnAux_singleton {c : Char} (hc : c.utf8Size = 1) (l m r : List Char)
    (acc : List String) :
    splitOnAux (ofList (l ++ m ++ r)) (String.singleton c) ⟨utf8Len l⟩ ⟨utf8Len l + utf8Len m⟩ 0
        acc =
      acc.reverse ++ (List.splitOnPPrepend (· == c) r m.reverse).map ofList := by
  unfold splitOnAux
  simp only [List.append_assoc, atEnd_iff, rawEndPos_ofList, utf8Len_append, Pos.Raw.mk_le_mk,
    Nat.add_le_add_iff_left, (by omega : utf8Len m + utf8Len r ≤ utf8Len m ↔ utf8Len r = 0),
    utf8Len_eq_zero, List.reverse_cons]
  split
  · subst r
    simpa using extract_of_valid l m []
  · obtain ⟨d, r, rfl⟩ := r.exists_cons_of_ne_nil ‹_›
    -- the separator is one character of one byte: matching it ends the match at once
    have hsep : Pos.Raw.get (String.singleton c) 0 = c := by simpa using get_of_valid [] [c]
    have hnext : Pos.Raw.next (String.singleton c) 0 = ⟨1⟩ := by
      simpa [hc] using next_of_valid [] c []
    have hend : (String.singleton c).rawEndPos = ⟨1⟩ := by simpa [hc] using rawEndPos_ofList [c]
    have hzero : ∀ p : Pos.Raw, p.unoffsetBy 0 = p := fun p => rfl
    simp only [hsep, hnext, hend, hzero, Pos.Raw.le_iff, le_refl, if_true]
    simp only [by
      simpa [-ofList_append] using
        (⟨get_of_valid (l ++ m) (d :: r), next_of_valid (l ++ m) d r,
            extract_of_valid l m (d :: r)⟩ :
          _ ∧ _ ∧ _)]
    split <;> rename_i h
    · have hd : d = c := by simpa using h
      subst hd
      have hu : (⟨utf8Len l + utf8Len m + d.utf8Size⟩ : Pos.Raw).unoffsetBy ⟨1⟩ =
          ⟨utf8Len l + utf8Len m⟩ := by
        simp [Pos.Raw.unoffsetBy, hc]
      have hm := extract_of_valid l m (d :: r)
      rw [List.append_assoc] at hm
      rw [hu, hm]
      simpa [Nat.add_assoc, List.splitOnPPrepend_cons_eq_if] using
        splitOnAux_singleton hc (l ++ m ++ [d]) [] r (ofList m :: acc)
    · simpa [List.splitOnPPrepend_cons_eq_if, h, Nat.add_assoc] using
        splitOnAux_singleton hc l (m ++ [d]) r acc
termination_by r.length

/-- Cutting a text at a one-byte character gives the pieces of its character list. -/
theorem splitOn_singleton {c : Char} (hc : c.utf8Size = 1) (s : String) :
    s.splitOn (String.singleton c) = (s.toList.splitOn c).map ofList := by
  have hne : (String.singleton c == "") = false := by
    rw [beq_eq_false_iff_ne, ne_eq, ← String.toList_inj]
    simp
  rw [String.splitOn, hne, if_neg Bool.false_ne_true, List.splitOn_eq_splitOnP]
  simpa using splitOnAux_singleton hc [] [] s.toList []

/-! ## Trimming -/

theorem dropBlanks_eq_self {cs : List Char} (h : ∀ c ∈ cs.head?, isBlank c = false) :
    dropBlanks cs = cs := by
  cases cs with
  | nil => rfl
  | cons c cs => simp [dropBlanks, h c rfl]

theorem head?_dropBlanks (cs : List Char) : ∀ c ∈ (dropBlanks cs).head?, isBlank c = false := by
  induction cs with
  | nil => simp [dropBlanks]
  | cons c cs ih =>
    by_cases hc : isBlank c <;> simp_all [dropBlanks]

theorem dropBlanks_suffix (cs : List Char) : dropBlanks cs <:+ cs := by
  induction cs with
  | nil => exact List.suffix_refl []
  | cons c cs ih =>
    by_cases hc : isBlank c
    · simpa [dropBlanks, hc] using ih.trans (List.suffix_cons c cs)
    · simp [dropBlanks, hc]

theorem dropBlanks_blanks_append {w : List Char} (hw : ∀ c ∈ w, isBlank c = true)
    (cs : List Char) : dropBlanks (w ++ cs) = dropBlanks cs := by
  induction w with
  | nil => rfl
  | cons c w ih => simp_all [dropBlanks]

/-- The characters a trimmed text keeps, from the front: its blanks dropped at both ends. -/
theorem toList_trim (s : String) :
    (trim s).toList = (dropBlanks (dropBlanks s.toList).reverse).reverse := by
  simp [trim]

/-- Trimming the back of a text whose front is trimmed keeps its front trimmed: what is left is
a prefix of it. -/
theorem dropBlanks_reverse_dropBlanks {u : List Char} (hu : ∀ c ∈ u.head?, isBlank c = false) :
    dropBlanks (dropBlanks u.reverse).reverse = (dropBlanks u.reverse).reverse := by
  refine dropBlanks_eq_self fun c hc => hu c ?_
  have hpre : (dropBlanks u.reverse).reverse <+: u := by
    simpa using List.reverse_prefix.mpr (dropBlanks_suffix u.reverse)
  exact List.singleton_prefix_iff_head?_eq_some.mp
    ((List.singleton_prefix_iff_head?_eq_some.mpr hc).trans hpre)

theorem trim_trim (s : String) : trim (trim s) = trim s := by
  rw [← String.toList_inj, toList_trim, toList_trim,
    dropBlanks_reverse_dropBlanks (head?_dropBlanks _), List.reverse_reverse]
  exact dropBlanks_reverse_dropBlanks (head?_dropBlanks _)

/-- A text is trimmed exactly when it neither begins nor ends with a blank. -/
theorem trim_eq_self_iff {s : String} :
    trim s = s ↔ (∀ c ∈ s.toList.head?, isBlank c = false) ∧
      ∀ c ∈ s.toList.getLast?, isBlank c = false := by
  constructor
  · intro h
    rw [← h, toList_trim, List.head?_reverse, List.getLast?_reverse]
    refine ⟨fun c hc => ?_, head?_dropBlanks _⟩
    -- the front of the trimmed text is the front of a text already trimmed at the front
    rw [← List.head?_reverse, ← dropBlanks_reverse_dropBlanks (head?_dropBlanks _)] at hc
    exact head?_dropBlanks _ c hc
  · rintro ⟨hfront, hback⟩
    rw [← String.toList_inj, toList_trim, dropBlanks_eq_self hfront,
      dropBlanks_eq_self (by simpa [List.head?_reverse] using hback), List.reverse_reverse]

theorem mem_of_mem_trim {c : Char} {s : String} (h : c ∈ (trim s).toList) : c ∈ s.toList := by
  rw [toList_trim, List.mem_reverse] at h
  exact (dropBlanks_suffix s.toList).subset
    (List.mem_reverse.mp ((dropBlanks_suffix _).subset h))

theorem trim_blanks_append {w : List Char} (hw : ∀ c ∈ w, isBlank c = true) (cs : List Char) :
    trim (ofList (w ++ cs)) = trim (ofList cs) := by
  simp [trim, dropBlanks_blanks_append hw]

end Text

namespace Listing

open String

/-- What a listing may hold: a nonempty text that neither begins nor ends with a blank and has
no comma. -/
structure IsEntry (e : String) : Prop where
  ne_empty : e ≠ ""
  front : ∀ c ∈ e.toList.head?, Text.isBlank c = false
  back : ∀ c ∈ e.toList.getLast?, Text.isBlank c = false
  comma_free : ',' ∉ e.toList

theorem IsEntry.trim_eq {e : String} (h : IsEntry e) : Text.trim e = e :=
  Text.trim_eq_self_iff.mpr ⟨h.front, h.back⟩

/-- No piece of a cut holds the character cut at, once the piece begun before the cut (`acc`,
reversed) is set aside. -/
theorem not_mem_of_mem_splitOnPPrepend {p : Char → Bool} {xs acc : List Char} {piece : List Char}
    (h : piece ∈ List.splitOnPPrepend p xs acc) : ∀ x ∈ piece, p x = false ∨ x ∈ acc := by
  induction xs generalizing acc with
  | nil => simp_all
  | cons y ys ih =>
    rw [List.splitOnPPrepend_cons_eq_if] at h
    split at h <;> rename_i hy
    · -- the cut closes the piece in hand; the next ones start empty
      intro x hx
      rcases List.mem_cons.mp h with rfl | h
      · exact .inr (List.mem_reverse.mp hx)
      · exact .inl ((ih h x hx).resolve_right List.not_mem_nil)
    · intro x hx
      rcases ih h x hx with hx | hx
      · exact .inl hx
      · rcases List.mem_cons.mp hx with rfl | hx
        · exact .inl (by simpa using hy)
        · exact .inr hx

theorem not_mem_of_mem_splitOn {c : Char} {xs piece : List Char} (h : piece ∈ xs.splitOn c) :
    c ∉ piece := by
  rw [List.splitOn_eq_splitOnP, List.splitOnP_eq_splitOnPPrepend] at h
  intro hc
  simpa using not_mem_of_mem_splitOnPPrepend h c hc

theorem comma_eq_singleton : "," = String.singleton ',' := rfl

/-- A listing's text is cut at the commas of its character list. -/
theorem ofCsv_items (s : String) :
    (ofCsv s).items = ((s.toList.splitOn ',').map (Text.trim ∘ ofList)).filter (· ≠ "") := by
  rw [ofCsv, ofEntries, comma_eq_singleton, Text.splitOn_singleton (by decide), List.map_map]

example : (ofCsv "asg-a, asg-b,,asg-c ").items = ["asg-a", "asg-b", "asg-c"] := by
  rw [ofCsv_items]
  decide

theorem isEntry_of_mem_ofCsv {s e : String} (h : e ∈ (ofCsv s).items) : IsEntry e := by
  rw [ofCsv_items, List.mem_filter, List.mem_map] at h
  obtain ⟨⟨p, hp, rfl⟩, hne⟩ := h
  have htrim := Text.trim_eq_self_iff.mp (Text.trim_trim (ofList p))
  refine ⟨by simpa using hne, htrim.1, htrim.2, fun hc => ?_⟩
  -- a piece of the cut holds no comma, and trimming only removes characters
  have hpiece : ',' ∉ p := not_mem_of_mem_splitOn hp
  exact hpiece (by simpa using Text.mem_of_mem_trim hc)

theorem intercalate_append_head {α : Type} (sep w y : List α) (zs : List (List α)) :
    sep.intercalate ((w ++ y) :: zs) = w ++ sep.intercalate (y :: zs) := by
  induction w with
  | nil => rfl
  | cons x w ih => rw [List.cons_append, List.intercalate_cons_cons_left, ih, List.cons_append]

/-- Joining with a separator `a :: w` is joining with `a` alone, each later piece led by `w`. -/
theorem intercalate_cons_sep {α : Type} (a : α) (w x : List α) (xs : List (List α)) :
    (a :: w).intercalate (x :: xs) = [a].intercalate (x :: xs.map (w ++ ·)) := by
  induction xs generalizing x with
  | nil => simp
  | cons y ys ih =>
    rw [List.intercalate_cons_cons, ih y, List.map_cons, List.intercalate_cons_cons,
      intercalate_append_head]
    simp

theorem trim_empty : Text.trim "" = "" := by decide

/-- Entries joined with a comma followed by blanks, none or some, are cut back into themselves. -/
theorem ofCsv_intercalate {sep : String} {w : List Char} (hsep : sep.toList = ',' :: w)
    (hw : ∀ c ∈ w, Text.isBlank c = true) {L : List String} (hL : ∀ e ∈ L, IsEntry e) :
    (ofCsv (sep.intercalate L)).items = L := by
  rw [ofCsv_items, String.toList_intercalate, hsep]
  cases L with
  | nil => simp [trim_empty]
  | cons e es =>
    have hcomma : ',' ∉ w := fun h => absurd (hw ',' h) (by decide)
    rw [List.map_cons, intercalate_cons_sep, List.splitOn_intercalate]
    · -- each piece trims back to its entry: the first as it is, the others behind the blanks
      have hpieces : (e.toList :: (es.map String.toList).map (w ++ ·)).map (Text.trim ∘ ofList) =
          e :: es := by
        simp only [List.map_cons, List.map_map, Function.comp_apply, ofList_toList,
          (hL e List.mem_cons_self).trim_eq, List.cons.injEq, true_and]
        refine (List.map_congr_left fun x hx => ?_).trans (List.map_id es)
        simp only [Function.comp_apply, Text.trim_blanks_append hw, ofList_toList, id]
        exact (hL x (List.mem_cons_of_mem e hx)).trim_eq
      rw [hpieces, List.filter_eq_self]
      intro x hx
      simpa using (hL x hx).ne_empty
    · simp only [List.mem_cons, List.mem_map]
      rintro l (rfl | ⟨_, ⟨x, hx, rfl⟩, rfl⟩)
      · exact (hL e List.mem_cons_self).comma_free
      · simpa [hcomma] using (hL x (List.mem_cons_of_mem e hx)).comma_free
    · simp

theorem items_inj {l l' : Listing} : l = l' ↔ l.items = l'.items := by
  cases l
  cases l'
  simp

theorem ofCsv_intercalate_comma {L : List String} (hL : ∀ e ∈ L, IsEntry e) :
    (ofCsv (",".intercalate L)).items = L :=
  ofCsv_intercalate (w := []) rfl (by simp) hL

theorem ofCsv_intercalate_comma_space {L : List String} (hL : ∀ e ∈ L, IsEntry e) :
    (ofCsv (", ".intercalate L)).items = L :=
  ofCsv_intercalate (w := [' ']) rfl (List.forall_mem_singleton.mpr (by decide)) hL

/-- A listing joined with a comma, or a comma and a space, reads back as itself. -/
theorem ofCsv_intercalate_ofCsv (s : String) :
    ofCsv (",".intercalate (ofCsv s).items) = ofCsv s ∧
      ofCsv (", ".intercalate (ofCsv s).items) = ofCsv s := by
  have hentries : ∀ e ∈ (ofCsv s).items, IsEntry e := fun e he => isEntry_of_mem_ofCsv he
  exact ⟨items_inj.mpr (ofCsv_intercalate_comma hentries),
    items_inj.mpr (ofCsv_intercalate_comma_space hentries)⟩

/-! ## The two forms of a listing -/

theorem ofJsonItems_strs (xs : List String) :
    Node.ofJsonItems (xs.map Json.str) = xs.map fun p => .leaf none (.str p) := by
  induction xs with
  | nil => simp [Node.ofJsonItems]
  | cons x xs ih => simp [Node.ofJsonItems, Node.ofJson, ih]

theorem readItems_strs (d : Dialect) (i : Nat) (xs : List String) :
    readItems d i (xs.map fun p => .leaf none (.str p)) = .ok xs := by
  induction xs generalizing i with
  | nil => rfl
  | cons x xs ih =>
    cases d <;> simp [readItems, ih, Node.readString, Node.readText, Node.convertText,
      Dialect.under, bind, Except.bind]

/-- A text reads as the sequence of its comma pieces, and null as the empty listing. -/
theorem read_csv_eq_read_pieces (d : Dialect) (s : String) :
    read d (Node.ofJson (.str s)) = read d (Node.ofJson (.arr ((s.splitOn ",").map .str))) := by
  simp only [Node.ofJson, ofJsonItems_strs, read, readItems_strs]
  rfl

theorem read_null (d : Dialect) : read d (Node.ofJson .null) = .ok empty := by
  simp [Node.ofJson, read]

/-- Comma-separated listings: the text is cut at its commas, each piece trimmed and the empty
ones dropped; what is left are entries, which joining with commas and cutting again gives back;
and the text form reads as the sequence of its pieces. -/
theorem ofCsv_laws :
    (∀ s : String, (ofCsv s).items =
      ((s.toList.splitOn ',').map (Text.trim ∘ ofList)).filter (· ≠ "")) ∧
    (∀ s : String, ∀ e ∈ (ofCsv s).items, IsEntry e) ∧
    (∀ s : String, ofCsv (",".intercalate (ofCsv s).items) = ofCsv s ∧
      ofCsv (", ".intercalate (ofCsv s).items) = ofCsv s) ∧
    (∀ L : List String, (∀ e ∈ L, IsEntry e) → (ofCsv (",".intercalate L)).items = L) ∧
    (∀ (d : Dialect) (s : String),
      read d (Node.ofJson (.str s)) = read d (Node.ofJson (.arr ((s.splitOn ",").map .str)))) ∧
    ∀ d : Dialect, read d (Node.ofJson .null) = .ok empty :=
  ⟨ofCsv_items, fun _ _ he => isEntry_of_mem_ofCsv he, ofCsv_intercalate_ofCsv,
    fun _ => ofCsv_intercalate_comma, read_csv_eq_read_pieces, read_null⟩

/-- Two group names, joined with a comma, read back as themselves. -/
theorem ofCsv_laws_of_two_groups :
    (∀ e ∈ ["asg-a", "asg-b"], IsEntry e) ∧
      (ofCsv (",".intercalate ["asg-a", "asg-b"])).items = ["asg-a", "asg-b"] := by
  have hentries : ∀ e ∈ ["asg-a", "asg-b"], IsEntry e := by
    intro e he
    -- the first and last characters one by one: a bare decision would range over all of them
    rcases List.mem_pair.mp he with rfl | rfl <;>
      exact ⟨by decide, fun c hc => by cases hc; decide, fun c hc => by cases hc; decide, by decide⟩
  exact ⟨hentries, ofCsv_laws.2.2.2.1 _ hentries⟩

end Listing

end RingIdentity
