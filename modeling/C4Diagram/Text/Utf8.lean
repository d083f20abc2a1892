import C4Diagram.Text.Blank

/-!
Offsets, lengths and spans count the bytes of the UTF-8 form. Encoding and then decoding a text
gives it back, and decoding refuses bytes that are no UTF-8 form.
-/

namespace C4Diagram
namespace Text

def utf8Size : Text → Nat
  | [] => 0
  | c :: t => c.utf8Size + utf8Size t

def utf8 (t : Text) : ByteArray := (String.ofList t).toUTF8

def ofUtf8? (bytes : ByteArray) : Option Text := (String.fromUTF8? bytes).map String.toList

theorem utf8Size_nil : utf8Size [] = 0 := rfl

theorem utf8Size_cons (c : Char) (t : Text) : utf8Size (c :: t) = c.utf8Size + utf8Size t := rfl

theorem utf8Size_append (s t : Text) : utf8Size (s ++ t) = utf8Size s + utf8Size t := by
  induction s with
  | nil => simp [utf8Size_nil]
  | cons c s ih => rw [List.cons_append, utf8Size_cons, utf8Size_cons, ih, Nat.add_assoc]

end Text
end C4Diagram
