import Courier.Text.Utf8
import Mathlib.Data.List.Basic
import Mathlib.Data.Option.Basic

/-!
# Texts as bytes

Reading the bytes of a text gives back its characters without any gap, hence different texts have
different bytes.
-/

namespace Courier.Text

/-- The bytes of a character are read as that character, whatever comes after them. -/
lemma symbols_utf8EncodeChar_append (c : Char) (bytes : List UInt8) :
    symbols (String.utf8EncodeChar c ++ bytes) = some c :: symbols bytes := by
  have hlength : (String.utf8EncodeChar c).length = c.utf8Size := String.length_utf8EncodeChar c
  cases hencoded : String.utf8EncodeChar c with
  | nil =>
    rw [hencoded] at hlength
    exact absurd hlength (Nat.ne_of_lt c.utf8Size_pos)
  | cons byte rest =>
    rw [hencoded, List.length_cons] at hlength
    -- A character has at most three bytes after its first one, and these are looked at.
    have hrest : rest.length ≤ 3 := by
      have := c.utf8Size_le_four
      omega
    have hchar : (byte :: (rest ++ bytes).take 3).toByteArray.utf8DecodeChar? 0 = some c := by
      have hview : byte :: (rest ++ bytes).take 3 =
          String.utf8EncodeChar c ++ bytes.take (3 - rest.length) := by
        rw [hencoded, List.take_append, List.take_of_length_le hrest, List.cons_append]
      rw [hview, List.toByteArray_append]
      exact ByteArray.utf8DecodeChar?_utf8EncodeChar_append
    rw [List.cons_append, symbols]
    simp only [hchar]
    have hdrop : (rest ++ bytes).drop (c.utf8Size - 1) = bytes :=
      List.drop_left' (by omega)
    rw [hdrop]

/-- The bytes of a text are read as its characters. -/
theorem symbols_utf8 (text : String) : symbols (utf8 text) = text.toList.map some := by
  unfold utf8
  induction text.toList with
  | nil => rw [List.flatMap_nil, symbols, List.map_nil]
  | cons c cs ih =>
    rw [List.flatMap_cons, symbols_utf8EncodeChar_append, ih, List.map_cons]

/-- Different texts have different bytes. -/
theorem utf8_injective {a b : String} (h : utf8 a = utf8 b) : a = b := by
  have hsymbols : a.toList.map some = b.toList.map some := by
    rw [← symbols_utf8, ← symbols_utf8, h]
  have hlist : a.toList = b.toList := List.map_injective_iff.2 (Option.some_injective Char) hsymbols
  exact String.toList_inj.1 hlist

end Courier.Text
