import RingIdentity.Text.Cased
/-!
Lower-casing text by the Unicode case mapping (Unicode 17). Settings compare words such as `Yes`,
`OFF` or `TRUE` after lower-casing, and the names of environment variables are lower-cased
before they become keys.

Each character maps to its lower-case form; only the capital I with a dot above becomes two
characters (`i` and a combining dot). The capital sigma is the one character whose form depends on
its place: at the end of a word it becomes the final sigma `ς`, elsewhere `σ` (`Text.Cased`).

The mapping is a table of runs `(first, last, delta, stride)`: the code points from `first` to
`last`, every `stride`-th of them (all of them for a stride of one, a single one for a stride of
zero), map to the code point `delta` away.
-/
namespace RingIdentity

namespace Text

/-- The runs of the lower-case mapping, ascending by first code point and apart. -/
def lowerRuns : Array (Nat × Nat × Int × Nat) := #[
  (0x41, 0x5A, 32, 1), (0xC0, 0xD6, 32, 1), (0xD8, 0xDE, 32, 1), (0x100, 0x12E, 1, 2),
  (0x132, 0x136, 1, 2), (0x139, 0x147, 1, 2), (0x14A, 0x176, 1, 2), (0x178, 0x178, (-121), 0),
  (0x179, 0x17D, 1, 2), (0x181, 0x181, 210, 0), (0x182, 0x184, 1, 2), (0x186, 0x186, 206, 0),
  (0x187, 0x187, 1, 0), (0x189, 0x18A, 205, 1), (0x18B, 0x18B, 1, 0), (0x18E, 0x18E, 79, 0),
  (0x18F, 0x18F, 202, 0), (0x190, 0x190, 203, 0), (0x191, 0x191, 1, 0), (0x193, 0x193, 205, 0),
  (0x194, 0x194, 207, 0), (0x196, 0x196, 211, 0), (0x197, 0x197, 209, 0), (0x198, 0x198, 1, 0),
  (0x19C, 0x19C, 211, 0), (0x19D, 0x19D, 213, 0), (0x19F, 0x19F, 214, 0), (0x1A0, 0x1A4, 1, 2),
  (0x1A6, 0x1A6, 218, 0), (0x1A7, 0x1A7, 1, 0), (0x1A9, 0x1A9, 218, 0), (0x1AC, 0x1AC, 1, 0),
  (0x1AE, 0x1AE, 218, 0), (0x1AF, 0x1AF, 1, 0), (0x1B1, 0x1B2, 217, 1), (0x1B3, 0x1B5, 1, 2),
  (0x1B7, 0x1B7, 219, 0), (0x1B8, 0x1B8, 1, 0), (0x1BC, 0x1BC, 1, 0), (0x1C4, 0x1C4, 2, 0),
  (0x1C5, 0x1C5, 1, 0), (0x1C7, 0x1C7, 2, 0), (0x1C8, 0x1C8, 1, 0), (0x1CA, 0x1CA, 2, 0),
  (0x1CB, 0x1DB, 1, 2), (0x1DE, 0x1EE, 1, 2), (0x1F1, 0x1F1, 2, 0), (0x1F2, 0x1F4, 1, 2),
  (0x1F6, 0x1F6, (-97), 0), (0x1F7, 0x1F7, (-56), 0), (0x1F8, 0x21E, 1, 2),
  (0x220, 0x220, (-130), 0), (0x222, 0x232, 1, 2), (0x23A, 0x23A, 10795, 0), (0x23B, 0x23B, 1, 0),
  (0x23D, 0x23D, (-163), 0), (0x23E, 0x23E, 10792, 0), (0x241, 0x241, 1, 0),
  (0x243, 0x243, (-195), 0), (0x244, 0x244, 69, 0), (0x245, 0x245, 71, 0), (0x246, 0x24E, 1, 2),
  (0x370, 0x372, 1, 2), (0x376, 0x376, 1, 0), (0x37F, 0x37F, 116, 0), (0x386, 0x386, 38, 0),
  (0x388, 0x38A, 37, 1), (0x38C, 0x38C, 64, 0), (0x38E, 0x38F, 63, 1), (0x391, 0x3A1, 32, 1),
  (0x3A3, 0x3AB, 32, 1), (0x3CF, 0x3CF, 8, 0), (0x3D8, 0x3EE, 1, 2), (0x3F4, 0x3F4, (-60), 0),
  (0x3F7, 0x3F7, 1, 0), (0x3F9, 0x3F9, (-7), 0), (0x3FA, 0x3FA, 1, 0), (0x3FD, 0x3FF, (-130), 1),
  (0x400, 0x40F, 80, 1), (0x410, 0x42F, 32, 1), (0x460, 0x480, 1, 2), (0x48A, 0x4BE, 1, 2),
  (0x4C0, 0x4C0, 15, 0), (0x4C1, 0x4CD, 1, 2), (0x4D0, 0x52E, 1, 2), (0x531, 0x556, 48, 1),
  (0x10A0, 0x10C5, 7264, 1), (0x10C7, 0x10C7, 7264, 0), (0x10CD, 0x10CD, 7264, 0),
  (0x13A0, 0x13EF, 38864, 1), (0x13F0, 0x13F5, 8, 1), (0x1C89, 0x1C89, 1, 0),
  (0x1C90, 0x1CBA, (-3008), 1), (0x1CBD, 0x1CBF, (-3008), 1), (0x1E00, 0x1E94, 1, 2),
  (0x1E9E, 0x1E9E, (-7615), 0), (0x1EA0, 0x1EFE, 1, 2), (0x1F08, 0x1F0F, (-8), 1),
  (0x1F18, 0x1F1D, (-8), 1), (0x1F28, 0x1F2F, (-8), 1), (0x1F38, 0x1F3F, (-8), 1),
  (0x1F48, 0x1F4D, (-8), 1), (0x1F59, 0x1F5F, (-8), 2), (0x1F68, 0x1F6F, (-8), 1),
  (0x1F88, 0x1F8F, (-8), 1), (0x1F98, 0x1F9F, (-8), 1), (0x1FA8, 0x1FAF, (-8), 1),
  (0x1FB8, 0x1FB9, (-8), 1), (0x1FBA, 0x1FBB, (-74), 1), (0x1FBC, 0x1FBC, (-9), 0),
  (0x1FC8, 0x1FCB, (-86), 1), (0x1FCC, 0x1FCC, (-9), 0), (0x1FD8, 0x1FD9, (-8), 1),
  (0x1FDA, 0x1FDB, (-100), 1), (0x1FE8, 0x1FE9, (-8), 1), (0x1FEA, 0x1FEB, (-112), 1),
  (0x1FEC, 0x1FEC, (-7), 0), (0x1FF8, 0x1FF9, (-128), 1), (0x1FFA, 0x1FFB, (-126), 1),
  (0x1FFC, 0x1FFC, (-9), 0), (0x2126, 0x2126, (-7517), 0), (0x212A, 0x212A, (-8383), 0),
  (0x212B, 0x212B, (-8262), 0), (0x2132, 0x2132, 28, 0), (0x2160, 0x216F, 16, 1),
  (0x2183, 0x2183, 1, 0), (0x24B6, 0x24CF, 26, 1), (0x2C00, 0x2C2F, 48, 1), (0x2C60, 0x2C60, 1, 0),
  (0x2C62, 0x2C62, (-10743), 0), (0x2C63, 0x2C63, (-3814), 0), (0x2C64, 0x2C64, (-10727), 0),
  (0x2C67, 0x2C6B, 1, 2), (0x2C6D, 0x2C6D, (-10780), 0), (0x2C6E, 0x2C6E, (-10749), 0),
  (0x2C6F, 0x2C6F, (-10783), 0), (0x2C70, 0x2C70, (-10782), 0), (0x2C72, 0x2C72, 1, 0),
  (0x2C75, 0x2C75, 1, 0), (0x2C7E, 0x2C7F, (-10815), 1), (0x2C80, 0x2CE2, 1, 2),
  (0x2CEB, 0x2CED, 1, 2), (0x2CF2, 0x2CF2, 1, 0), (0xA640, 0xA66C, 1, 2), (0xA680, 0xA69A, 1, 2),
  (0xA722, 0xA72E, 1, 2), (0xA732, 0xA76E, 1, 2), (0xA779, 0xA77B, 1, 2),
  (0xA77D, 0xA77D, (-35332), 0), (0xA77E, 0xA786, 1, 2), (0xA78B, 0xA78B, 1, 0),
  (0xA78D, 0xA78D, (-42280), 0), (0xA790, 0xA792, 1, 2), (0xA796, 0xA7A8, 1, 2),
  (0xA7AA, 0xA7AA, (-42308), 0), (0xA7AB, 0xA7AB, (-42319), 0), (0xA7AC, 0xA7AC, (-42315), 0),
  (0xA7AD, 0xA7AD, (-42305), 0), (0xA7AE, 0xA7AE, (-42308), 0), (0xA7B0, 0xA7B0, (-42258), 0),
  (0xA7B1, 0xA7B1, (-42282), 0), (0xA7B2, 0xA7B2, (-42261), 0), (0xA7B3, 0xA7B3, 928, 0),
  (0xA7B4, 0xA7C2, 1, 2), (0xA7C4, 0xA7C4, (-48), 0), (0xA7C5, 0xA7C5, (-42307), 0),
  (0xA7C6, 0xA7C6, (-35384), 0), (0xA7C7, 0xA7C9, 1, 2), (0xA7CB, 0xA7CB, (-42343), 0),
  (0xA7CC, 0xA7DA, 1, 2), (0xA7DC, 0xA7DC, (-42561), 0), (0xA7F5, 0xA7F5, 1, 0),
  (0xFF21, 0xFF3A, 32, 1), (0x10400, 0x10427, 40, 1), (0x104B0, 0x104D3, 40, 1),
  (0x10570, 0x1057A, 39, 1), (0x1057C, 0x1058A, 39, 1), (0x1058C, 0x10592, 39, 1),
  (0x10594, 0x10595, 39, 1), (0x10C80, 0x10CB2, 64, 1), (0x10D50, 0x10D65, 32, 1),
  (0x118A0, 0x118BF, 32, 1), (0x16E40, 0x16E5F, 32, 1), (0x16EA0, 0x16EB8, 27, 1),
  (0x1E900, 0x1E921, 34, 1)]

/-- The lower-case form of a character, as the characters it maps to. -/
def lowerChars (c : Char) : List Char :=
  let n := c.toNat
  if n = 0x130 then ['i', Char.ofNat 0x307]
  else
    match lastAtMost lowerRuns (·.1) n 0 lowerRuns.size none with
    | some (first, last, delta, stride) =>
      if n ≤ last ∧ (stride = 0 ∨ (n - first) % stride = 0) then [Char.ofNat ((n : Int) + delta).toNat]
      else [c]
    | none => [c]

/-- Whether a capital sigma between `before` (nearest first) and `after` ends a word. -/
def endsWord (before after : List Char) : Bool :=
  casedAfterIgnorable before && !casedAfterIgnorable after

/-- The lower-case form of the characters `rest`, with the characters before them in `before`,
nearest first. -/
def lowerList : List Char → List Char → List Char
  | _, [] => []
  | before, c :: rest =>
    (if c = 'Σ' then [if endsWord before rest then 'ς' else 'σ'] else lowerChars c) ++
      lowerList (c :: before) rest

/-- A text lower-cased. -/
def lower (s : String) : String := String.ofList (lowerList [] s.toList)

/-- A text with its ASCII capitals lower-cased and all else unchanged. -/
def lowerAscii (s : String) : String := String.ofList (s.toList.map Char.toLower)

/-- Whether two texts agree up to the case of ASCII letters. -/
def sameAsciiCase (a b : String) : Bool := lowerAscii a == lowerAscii b

end Text

end RingIdentity
