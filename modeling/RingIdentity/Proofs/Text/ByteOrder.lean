import Mathlib.Data.String.Basic
/-! # Text order is the order of its UTF-8 bytes

Texts compare character by character, by code point.  Stored as UTF-8, they compare byte by
byte, unsigned.  The two orders agree (`Text.lt_iff_bytes_lt`), because the encoding of a code
point is its digits from the most significant on: a leading byte that says how many digits follow
and holds the top ones, then continuation bytes of six bits each.  Of two code points, the smaller
is therefore below the other at the first byte where their encodings differ, and that byte lies
within both (`beforeAtDiff_utf8Digits`): neither encoding is a proper prefix of the other, so the
bytes of the characters after them cannot change the comparison.
-/
namespace RingIdentity

namespace Text

/-- `s` is below `t` at their first difference, and that difference lies within both: the digits
before it agree and there `s` has the smaller one.  Unlike lexicographic order, a proper prefix
is not below its extensions, so whatever follows each list keeps the order. -/
def BeforeAtDiff : List Nat → List Nat → Prop
  | a :: s, b :: t => a < b ∨ a = b ∧ BeforeAtDiff s t
  | _, _ => False

/-- The UTF-8 bytes of a code point, as numbers, each continuation byte holding the next six bits
(the encoder's own arithmetic, with each division by a power of sixty-four taken in steps). -/
def utf8Digits (v : Nat) : List Nat :=
  if v ≤ 0x7f then [v]
  else if v ≤ 0x7ff then [v / 64 % 0x20 + 0xc0, v % 0x40 + 0x80]
  else if v ≤ 0xffff then [v / 64 / 64 % 0x10 + 0xe0, v / 64 % 0x40 + 0x80, v % 0x40 + 0x80]
  else [v / 64 / 64 / 64 % 0x08 + 0xf0, v / 64 / 64 % 0x40 + 0x80, v / 64 % 0x40 + 0x80,
    v % 0x40 + 0x80]

theorem utf8EncodeChar_eq_map (c : Char) :
    String.utf8EncodeChar c = (utf8Digits c.val.toNat).map UInt8.ofNat := by
  simp only [String.utf8EncodeChar, utf8Digits, Nat.div_div_eq_div_mul]
  split_ifs <;> rfl

theorem toNat_val_lt (c : Char) : c.val.toNat < 0x110000 := by
  rcases c.valid with h | ⟨_, h⟩ <;> omega

theorem utf8Digits_lt {v : Nat} (hv : v < 0x110000) : ∀ x ∈ utf8Digits v, x < 256 := by
  unfold utf8Digits
  split_ifs <;> simp <;> omega

/-- Encoding keeps the order of code points, at a byte within both encodings.  Encodings of
different lengths differ in their leading byte; of equal lengths, the digits compare as the
numbers do. -/
theorem beforeAtDiff_utf8Digits {v w : Nat} (h : v < w) (hw : w < 0x110000) :
    BeforeAtDiff (utf8Digits v) (utf8Digits w) := by
  unfold utf8Digits
  split_ifs <;> simp only [BeforeAtDiff] <;> omega

theorem lt_append_of_beforeAtDiff {s t : List Nat} (h : BeforeAtDiff s t)
    (hs : ∀ x ∈ s, x < 256) (ht : ∀ x ∈ t, x < 256) (X Y : List UInt8) :
    s.map UInt8.ofNat ++ X < t.map UInt8.ofNat ++ Y := by
  induction s generalizing t with
  | nil => cases t <;> exact h.elim
  | cons a s ih =>
    cases t with
    | nil => exact h.elim
    | cons b t =>
      have ha := hs a List.mem_cons_self
      have hb := ht b List.mem_cons_self
      rcases h with hab | ⟨rfl, h⟩
      · -- digits below 256 are bytes, in the same order
        refine List.Lex.rel ?_
        rw [UInt8.lt_iff_toNat_lt, UInt8.toNat_ofNat', UInt8.toNat_ofNat']
        omega
      · exact List.Lex.cons (ih h (fun x hx => hs x (List.mem_cons_of_mem a hx))
          (fun x hx => ht x (List.mem_cons_of_mem a hx)))

theorem utf8EncodeChar_append_lt {c d : Char} (h : c < d) (X Y : List UInt8) :
    String.utf8EncodeChar c ++ X < String.utf8EncodeChar d ++ Y := by
  rw [utf8EncodeChar_eq_map, utf8EncodeChar_eq_map]
  exact lt_append_of_beforeAtDiff (beforeAtDiff_utf8Digits h (toNat_val_lt d))
    (utf8Digits_lt (toNat_val_lt c)) (utf8Digits_lt (toNat_val_lt d)) X Y

/-- Encoding character lists keeps their order; by induction on why `s < t`. -/
theorem flatMap_utf8EncodeChar_lt {s t : List Char} (h : s < t) :
    s.flatMap String.utf8EncodeChar < t.flatMap String.utf8EncodeChar := by
  induction h with
  | nil =>
    -- the empty text is below any other, whose encoding has a byte
    obtain ⟨b, bs, hb⟩ := List.exists_cons_of_ne_nil String.utf8EncodeChar_ne_nil
    rw [List.flatMap_nil, List.flatMap_cons, hb]
    exact List.nil_lt_cons _ _
  | cons h ih =>
    rw [List.flatMap_cons, List.flatMap_cons]
    exact List.append_left_lt ih
  | rel h =>
    rw [List.flatMap_cons, List.flatMap_cons]
    exact utf8EncodeChar_append_lt h _ _

theorem toUTF8_toList (s : String) :
    s.toUTF8.data.toList = s.toList.flatMap String.utf8EncodeChar := by
  rw [String.toUTF8_eq_toByteArray, ← String.utf8Encode_toList, List.utf8Encode,
    List.toList_data_toByteArray]

theorem bytes_lt_of_lt {s t : String} (h : s < t) :
    s.toUTF8.data.toList < t.toUTF8.data.toList := by
  rw [toUTF8_toList, toUTF8_toList]
  exact flatMap_utf8EncodeChar_lt (String.lt_iff.mp h)

/-- **Text order is byte order.**  One text is below another exactly when its UTF-8 bytes are
below the other's, compared unsigned and lexicographically. -/
theorem lt_iff_bytes_lt {s t : String} :
    s < t ↔ s.toUTF8.data.toList < t.toUTF8.data.toList := by
  refine ⟨bytes_lt_of_lt, fun h => ?_⟩
  -- the converse from totality: equal texts have equal bytes, and byte order is asymmetric
  rcases lt_trichotomy s t with hst | rfl | hts
  · exact hst
  · exact absurd h (List.lt_irrefl _)
  · exact absurd h (List.lt_asymm (bytes_lt_of_lt hts))

example : "rack-b" < "rack-é" ∧ "z" < "é" := by decide

end Text

end RingIdentity
