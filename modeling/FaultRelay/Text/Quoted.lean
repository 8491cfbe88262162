import FaultRelay.Text.Category
import FaultRelay.Text.Hex

/-!
# Texts shown between quotes

A shown text is printable throughout.  The quote and the backslash are escaped, line
ends, tabs and the null character have letters, and every other character that prints
nothing, or that joins the one before it, is given by its number.
-/

namespace FaultRelay
namespace Text

/-- Characters that join the one before them although they are no marks of their own. -/
def joiningRanges : List (Nat × Nat) :=
  [(0x9BE, 0x9BE), (0x9D7, 0x9D7), (0xB3E, 0xB3E), (0xB57, 0xB57), (0xBBE, 0xBBE), (0xBD7, 0xBD7),
    (0xCC2, 0xCC2), (0xCD5, 0xCD6), (0xD3E, 0xD3E), (0xD57, 0xD57), (0xDCF, 0xDCF), (0xDDF, 0xDDF),
    (0x1B35, 0x1B35), (0x302E, 0x302F), (0xFF9E, 0xFF9F), (0x1133E, 0x1133E), (0x11357, 0x11357),
    (0x114B0, 0x114B0), (0x114BD, 0x114BD), (0x115AF, 0x115AF), (0x11930, 0x11930),
    (0x1D165, 0x1D165), (0x1D16E, 0x1D172)]

/-- Whether a character joins the one before it. -/
def isJoining (c : Char) : Bool :=
  let g := category c
  g = ⟨'M', 'n'⟩ || g = ⟨'M', 'e'⟩
    || joiningRanges.any fun (low, high) => low ≤ c.toNat && c.toNat ≤ high

/-- Whether a character prints something. -/
def isShown (c : Char) : Bool :=
  let g := category c
  c == ' ' || !(g.group == 'C' || g.group == 'Z')

/-- A number in hexadecimal, without zeros in front; at most `fuel` digits. -/
def hexDigits : Nat → Nat → List Char
  | 0, _ => []
  | fuel + 1, n => if n < 16 then [Hex.digit n] else hexDigits fuel (n / 16) ++ [Hex.digit (n % 16)]

/-- A character as it is shown between quotes. -/
def shownChar (c : Char) : List Char :=
  match c with
  | '"' => ['\\', '"']
  | '\\' => ['\\', '\\']
  | '\n' => ['\\', 'n']
  | '\r' => ['\\', 'r']
  | '\t' => ['\\', 't']
  | '\x00' => ['\\', '0']
  | c =>
      if isShown c && !isJoining c then [c]
      else ['\\', 'u', '\x7b'] ++ hexDigits 8 c.toNat ++ ['\x7d']

/-- A text as it is shown. -/
def quoted (s : String) : String :=
  String.ofList ('"' :: (s.toList.flatMap shownChar ++ ['"']))

end Text
end FaultRelay
