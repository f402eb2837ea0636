import FormCapture.Text.PrintTable

/-! # Quoted text

A text between double quotes, so that every character of it can be seen: quotes, backslashes and the
usual controls after a backslash, all other characters that cannot be printed or that combine with the
one before by their number. -/

namespace FormCapture.Text

def isShownByNumber (c : Char) : Bool := graphemeExtend.has c.toNat || unprintable.has c.toNat

/-- A character by its number in base sixteen. -/
def byNumber (c : Char) : Text :=
  "\\u\x7b".toList ++ Nat.toDigits 16 c.toNat ++ ['\x7d']

def escaped (c : Char) : Text :=
  match c with
  | '\x00' => ['\\', '0']
  | '\t' => ['\\', 't']
  | '\r' => ['\\', 'r']
  | '\n' => ['\\', 'n']
  | '"' => ['\\', '"']
  | '\\' => ['\\', '\\']
  | c => if isShownByNumber c then byNumber c else [c]

def quoted (t : Text) : Text := '"' :: t.flatMap escaped ++ ['"']

end FormCapture.Text
