import Passthrough.Text.Printable
import Passthrough.Text.Digits

/-!
# Passthrough — quoted text

Messages show a text taken from outside between double quotes.  The quote and the backslash are
written with a backslash before them, the tabulator, the line ends and NUL by their letters, and a
character that could not be seen by its number: `\u{a0}`.  An apostrophe stands for itself.
-/

namespace Passthrough.Text

/-- One character of quoted text. -/
def quotedChar (c : Char) : List Char :=
  match c with
  | '\\' => ['\\', '\\']
  | '"' => ['\\', '"']
  | '\t' => ['\\', 't']
  | '\r' => ['\\', 'r']
  | '\n' => ['\\', 'n']
  | '\x00' => ['\\', '0']
  | c =>
    if shownByNumber c then
      '\\' :: 'u' :: '\x7b' :: Nat.toDigits 16 c.toNat ++ ['\x7d']
    else [c]

/-- `s` between double quotes. -/
def quoted (s : String) : String :=
  String.ofList ('"' :: s.toList.flatMap quotedChar ++ ['"'])

end Passthrough.Text
