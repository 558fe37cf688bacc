import FormFetch.Bytes.Hex
import FormFetch.Text.Printable

/-!
# Quoted texts

The form in which reports show a text: between double quotes, with escapes for
quotes, backslashes, line ends and everything that would not show.
-/

namespace FormFetch.Text

/-- One character inside quotes. -/
def quotedChar (c : Char) : List Char :=
  match c with
  | '\x00' => ['\\', '0']
  | '\t' => ['\\', 't']
  | '\n' => ['\\', 'n']
  | '\r' => ['\\', 'r']
  | '"' => ['\\', '"']
  | '\\' => ['\\', '\\']
  | c =>
    if isPrintable c then [c]
    else "\\u\x7b".toList ++ Bytes.hexOfNat c.toNat ++ ['\x7d']

/-- A text between quotes. -/
def quoted (s : String) : String :=
  String.ofList ('"' :: s.toList.flatMap quotedChar ++ ['"'])

end FormFetch.Text
