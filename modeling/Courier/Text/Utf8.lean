/-!
# Bytes and characters

Texts travel as bytes in the encoding UTF-8.  Reading never fails as a whole: a byte that starts no
character becomes a gap, so that a reader may skip a damaged part that it does not need.
-/

namespace Courier.Text

/-- The bytes of a text. -/
def utf8 (text : String) : List UInt8 :=
  text.toList.flatMap String.utf8EncodeChar

/-- The characters of the bytes, with a gap for each byte that belongs to no character. -/
def symbols (bytes : List UInt8) : List (Option Char) :=
  match bytes with
  | [] => []
  | byte :: rest =>
    match (byte :: rest.take 3).toByteArray.utf8DecodeChar? 0 with
    | some c => some c :: symbols (rest.drop (c.utf8Size - 1))
    | none => none :: symbols rest
termination_by bytes.length
decreasing_by all_goals (simp only [List.length_drop, List.length_cons]; omega)

end Courier.Text
