import ShieldedPool.Text.Unshown

/-!
# Quoted text

Text in double quotes on one line. The quote and the backslash are escaped, the common controls have short escapes, and any
other character without a mark of its own is written by its code point. An apostrophe needs no escape.
-/

namespace ShieldedPool.Quoted

/-- The digits of a code point. -/
def codePoint (n : Nat) : List Char := Nat.toDigits 16 n

/-- How a character is written. -/
def escape (c : Char) : List Char :=
  match c with
  | '\x00' => ['\\', '0']
  | '\t' => ['\\', 't']
  | '\n' => ['\\', 'n']
  | '\r' => ['\\', 'r']
  | '\\' => ['\\', '\\']
  | '"' => ['\\', '"']
  | _ => if isUnshown c then ['\\', 'u', '\x7b'] ++ codePoint c.toNat ++ ['\x7d'] else [c]

/-- Quotes a text, as `Debug` shows a string. -/
def ofText (text : String) : String :=
  String.ofList ('"' :: text.toList.flatMap escape ++ ['"'])

end ShieldedPool.Quoted
