/-!
# Text forms of numbers and records

Offsets are written in hexadecimal with a leading `0x`.  A record is written with its name, then
its fields by name, between braces.
-/

namespace BlockHeap

namespace Text

/-- A number in hexadecimal, such as `0x1f0`. -/
def hex (n : Nat) : String :=
  "0x" ++ String.ofList (Nat.toDigits 16 n)

/-- A record by name and fields, such as `Pair { left: 1, right: 2 }`. -/
def record (name : String) (fields : List (String × String)) : String :=
  name ++ " \x7b " ++ ", ".intercalate (fields.map fun (field, value) => field ++ ": " ++ value)
    ++ " \x7d"

end Text

end BlockHeap
