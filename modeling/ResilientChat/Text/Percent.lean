import ResilientChat.Text.Digit

/-!
Percent-encoded text. An escape that is not followed by two hexadecimal digits
stands for itself; bytes that are no text are refused.
-/

namespace ResilientChat.Text

def percentBytes : List Char → List UInt8
  | '%' :: a :: b :: rest =>
    match hexDigit? a, hexDigit? b with
    | some high, some low => (16 * high + low).toUInt8 :: percentBytes rest
    | _, _ => '%'.toString.toUTF8.toList ++ percentBytes (a :: b :: rest)
  | c :: rest => c.toString.toUTF8.toList ++ percentBytes rest
  | [] => []

def percentDecode? (s : String) : Option String :=
  String.fromUTF8? ⟨(percentBytes s.toList).toArray⟩

end ResilientChat.Text
