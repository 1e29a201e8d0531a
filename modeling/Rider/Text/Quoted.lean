import Rider.Text.HiddenTable
set_option autoImplicit false

namespace Rider.Text

def isVisible (c : Char) : Bool := !hiddenRanges.has c

/-- The written form of one character between double quotes. -/
def quotedChar : Char → List Char
  | '\x00' => ['\\', '0']
  | '\t' => ['\\', 't']
  | '\n' => ['\\', 'n']
  | '\r' => ['\\', 'r']
  | '"' => ['\\', '"']
  | '\\' => ['\\', '\\']
  | c =>
    if isVisible c then [c] else ['\\', 'u', '\x7b'] ++ Nat.toDigits 16 c.toNat ++ ['\x7d']

def quoted (s : List Char) : List Char := '"' :: s.flatMap quotedChar ++ ['"']

end Rider.Text
