import SampleTypes.Unicode.Hidden

set_option autoImplicit false

/-! # Quoted text

How a diagnostic shows a text that it found: between quotes, with everything escaped that could
not be told apart on a screen. -/

namespace SampleTypes.Json

/-- A character as a diagnostic shows it. -/
def quotedChar (c : Char) : List Char :=
  match c with
  | '"' => ['\\', '"']
  | '\\' => ['\\', '\\']
  | '\n' => ['\\', 'n']
  | '\r' => ['\\', 'r']
  | '\t' => ['\\', 't']
  | '\x00' => ['\\', '0']
  | _ =>
    if Unicode.isHidden c then ['\\', 'u', '\x7b'] ++ Nat.toDigits 16 c.toNat ++ ['\x7d']
    else [c]

/-- A text as a diagnostic shows it. -/
def quoted (text : String) : String :=
  String.ofList ('"' :: text.toList.flatMap quotedChar ++ ['"'])

end SampleTypes.Json
