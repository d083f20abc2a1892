import C4Diagram.Text.Utf8

/-! The UTF-8 form of a text is read back as the text, whether its bytes come as an array or as a
list, and it is put together from the forms of the text's parts. -/

namespace C4Diagram
namespace Text

/-- Decoding the UTF-8 form of a text gives the text. -/
theorem ofUtf8?_utf8 (t : Text) : ofUtf8? t.utf8 = some t := by
  have hvalid : (String.ofList t).toUTF8.IsValidUTF8 := (String.ofList t).isValidUTF8
  have hsome : String.fromUTF8? (String.ofList t).toUTF8 = some (String.ofList t) := by
    unfold String.fromUTF8?
    rw [dif_pos hvalid]
    rfl
  rw [ofUtf8?, utf8, hsome, Option.map_some, String.toList_ofList]

theorem toList_loop (bytes : ByteArray) (i : Nat) (read : List UInt8) :
    ByteArray.toList.loop bytes i read = read.reverse ++ bytes.data.toList.drop i := by
  fun_induction ByteArray.toList.loop bytes i read with
  | case1 i read hlt ih =>
    have hlen : i < bytes.data.toList.length := by simpa using hlt
    rw [ih, List.drop_eq_getElem_cons hlen, List.reverse_cons, List.append_assoc,
      List.singleton_append]
    congr 2
    exact getElem!_pos bytes.data i hlt
  | case2 i read hge =>
    rw [List.drop_eq_nil_of_le (by simpa using hge), List.append_nil]

theorem mk_toList (bytes : ByteArray) : ByteArray.mk bytes.toList.toArray = bytes := by
  rw [ByteArray.toList, toList_loop]
  rfl

theorem toList_utf8_nil : (utf8 []).toList = [] := by
  simp [utf8, ByteArray.toList, toList_loop]

theorem toList_utf8_append (s t : Text) :
    (utf8 (s ++ t)).toList = s.utf8.toList ++ t.utf8.toList := by
  simp [utf8, ByteArray.toList, toList_loop]

end Text
end C4Diagram
