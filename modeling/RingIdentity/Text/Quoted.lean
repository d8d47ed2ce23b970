import RingIdentity.Text.Hidden
/-!
Text quoted the way diagnostics show it: between double quotes, with the quote, the backslash,
tab, carriage return, line feed and NUL written as backslash escapes, and the characters that do
not print on their own (`Text.isHidden`: controls, format characters, unassigned code points,
separators other than the space, marks that would fuse with the character before them) written as
`\u{hex}` with lower-case digits.
-/
namespace RingIdentity

namespace Text

/-- The lower-case hexadecimal digits of a number, without leading zeros. -/
def hexDigits (n : Nat) : List Char :=
  (Nat.toDigits 16 n)

/-- One character of quoted text. -/
def quoteChar (c : Char) : List Char :=
  if c = '"' then ['\\', '"']
  else if c = '\\' then ['\\', '\\']
  else if c = '\n' then ['\\', 'n']
  else if c = '\r' then ['\\', 'r']
  else if c = '\t' then ['\\', 't']
  else if c.toNat = 0 then ['\\', '0']
  else if isHidden c then ['\\', 'u', '\x7b'] ++ hexDigits c.toNat ++ ['\x7d']
  else [c]

/-- A text between double quotes, escaped for a diagnostic. -/
def quoted (s : String) : String :=
  String.ofList ('"' :: s.toList.flatMap quoteChar ++ ['"'])

end Text

end RingIdentity
