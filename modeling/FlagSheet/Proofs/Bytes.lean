import FlagSheet.Bytes

namespace FlagSheet.Bytes

theorem toList_loop (bytes : ByteArray) (i : Nat) (read : Bytes) :
    ByteArray.toList.loop bytes i read = read.reverse ++ bytes.data.toList.drop i := by
  have hlength : bytes.data.toList.length = bytes.size := Array.length_toList
  induction h : bytes.size - i generalizing i read with
  | zero =>
      unfold ByteArray.toList.loop
      rw [if_neg (by omega), List.drop_eq_nil_of_le (by omega), List.append_nil]
  | succ n ih =>
      have hi : i < bytes.data.toList.length := by omega
      have hget : bytes.get! i = bytes.data.toList[i] := by
        rw [Array.getElem_toList]
        exact getElem!_pos bytes.data i (by rwa [Array.length_toList] at hi)
      unfold ByteArray.toList.loop
      rw [if_pos (by omega), ih _ _ (by omega), List.drop_eq_getElem_cons hi, hget, List.reverse_cons,
        List.append_assoc, List.singleton_append]

theorem toList_eq (bytes : ByteArray) : bytes.toList = bytes.data.toList := by
  rw [ByteArray.toList, toList_loop]
  rfl

theorem ofText_eq (s : String) : ofText s = s.toByteArray.data.toList := toList_eq _

theorem ofText_eq_flatMap (s : String) : ofText s = s.toList.flatMap String.utf8EncodeChar := by
  have hbytes : s.toByteArray = (s.toList.flatMap String.utf8EncodeChar).toByteArray := by
    rw [← List.utf8Encode, ← String.toByteArray_ofList, String.ofList_toList]
  rw [ofText_eq, hbytes, List.data_toByteArray]

theorem text?_ofText (s : String) : text? (ofText s) = some s := by
  have hbytes : (ofText s).toByteArray = s.toByteArray := by
    apply ByteArray.ext
    rw [List.data_toByteArray, ofText_eq, Array.toArray_toList]
  unfold text? String.fromUTF8?
  rw [hbytes, dif_pos s.isValidUTF8]
  rfl

end FlagSheet.Bytes
