import Descent.Text.Basic
import Descent.Unicode.Hidden

/-! # Quoted text

Double quotes, backslashes and all that is not shown as a character of its own are escaped; letters,
signs and the plain space stay. -/
namespace Descent.Text

def hexDigits (n : Nat) : List Char := Nat.toDigits 16 n

def escapeChar (c : Char) : List Char :=
  match c with
  | '"' => ['\\', '"']
  | '\\' => ['\\', '\\']
  | '\n' => ['\\', 'n']
  | '\r' => ['\\', 'r']
  | '\t' => ['\\', 't']
  | '\x00' => ['\\', '0']
  | c =>
    if Unicode.isHidden c then "\\u\x7b".toList ++ hexDigits c.toNat ++ ['\x7d'] else [c]

def quoted (t : Text) : Text := '"' :: t.flatMap escapeChar ++ ['"']

end Descent.Text
