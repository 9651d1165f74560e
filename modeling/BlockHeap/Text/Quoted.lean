import BlockHeap.Text.Invisible

/-!
# Quoted text

A quoted text stands between double quotes.  Quotes and backslashes in it have a backslash in
front, the null character and the three usual control characters have a letter or digit of their
own, and every other character that does not show is given by its code point in hexadecimal.
-/

namespace BlockHeap

namespace Text

/-- A character as it stands inside quotes. -/
def quotedChar : Char → String
  | '\x00' => "\\0"
  | '\t' => "\\t"
  | '\r' => "\\r"
  | '\n' => "\\n"
  | '"' => "\\\""
  | '\\' => "\\\\"
  | c =>
    if isInvisible c then
      "\\u\x7b" ++ String.ofList (Nat.toDigits 16 c.toNat) ++ "\x7d"
    else
      String.singleton c

/-- A text between quotes. -/
def quoted (text : List Char) : String :=
  "\"" ++ String.join (text.map quotedChar) ++ "\""

end Text

end BlockHeap
