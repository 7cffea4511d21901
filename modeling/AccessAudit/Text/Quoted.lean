/-
**Texts between quotes.**

A message that repeats a text puts it between double quotes and escapes what would not be seen:
the quote and the backslash, the tab, the two line ends and the null by a letter, and every other
unprintable character by its code point in lower-case hexadecimal digits without padding.

* `quoted`: the text with its quotes.
-/
import AccessAudit.Text.Unprintable

namespace AccessAudit.Text

/-- A number in lower-case hexadecimal digits. -/
def hexDigits (n : Nat) : List Char :=
  Nat.toDigits 16 n

/-- One character as it is shown between quotes. -/
def quotedChar (c : Char) : List Char :=
  match c with
  | '"' => ['\\', '"']
  | '\\' => ['\\', '\\']
  | '\t' => ['\\', 't']
  | '\n' => ['\\', 'n']
  | '\r' => ['\\', 'r']
  | '\x00' => ['\\', '0']
  | c =>
    if isUnprintable c then ['\\', 'u', '\x7b'] ++ hexDigits c.toNat ++ ['\x7d'] else [c]

/-- The text between double quotes, with what would not be seen escaped. -/
def quoted (text : String) : String :=
  String.ofList ('"' :: (text.toList.flatMap quotedChar ++ ['"']))

end AccessAudit.Text
