import SignIn.Text.Invisible

/-!
# Quoted text

How an error names a piece of text or a character: in quotes, with the quote itself, the backslash
and every character that would not show up as itself written as an escape. Text in quotes is
therefore on one line and says exactly which characters it holds.
-/

namespace SignIn.Quoted

/-- The digits of a code point, lower case and without leading zeros. -/
def codePoint (c : Char) : List Char := Nat.toDigits 16 c.toNat

/-- One character inside quotes of the kind `quote`. -/
def escape (quote c : Char) : List Char :=
  if c = '\x00' then ['\\', '0']
  else if c = '\t' then ['\\', 't']
  else if c = '\r' then ['\\', 'r']
  else if c = '\n' then ['\\', 'n']
  else if c = '\\' || c = quote then ['\\', c]
  else if Invisible.isInvisible c then
    ['\\', 'u', Char.ofNat 0x7B] ++ codePoint c ++ [Char.ofNat 0x7D]
  else [c]

/-- The double quote, which surrounds a text. -/
def double : Char := Char.ofNat 0x22

/-- The single quote, which surrounds a character. -/
def single : Char := Char.ofNat 0x27

def text (s : String) : String :=
  String.ofList (double :: s.toList.flatMap (escape double) ++ [double])

def char (c : Char) : String := String.ofList (single :: escape single c ++ [single])

example : (text "it's a \"b\"\n").toList = "\"it's a \\\"b\\\"\\n\"".toList := by decide +kernel
example : char (Char.ofNat 0xAD) = "'\\u\x7bad\x7d'" := by decide +kernel

end SignIn.Quoted
