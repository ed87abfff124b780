import QueryShell.Text.Encoding

namespace QueryShell.Text

theorem get!_eq {data : ByteArray} {i : Nat} (h : i < data.size) :
    data.get! i = data.data.toList.get ⟨i, h⟩ := by
  have hget : data.get! i = data.data[i]! := rfl
  rw [hget, getElem!_pos data.data i h]
  rfl

theorem toList_loop (data : ByteArray) (i : Nat) (before : List UInt8) :
    ByteArray.toList.loop data i before = before.reverse ++ data.data.toList.drop i := by
  fun_induction ByteArray.toList.loop data i before with
  | case1 i before hlt ih =>
      have hdrop : data.data.toList.drop i =
          data.data.toList.get ⟨i, hlt⟩ :: data.data.toList.drop (i + 1) :=
        List.drop_eq_getElem_cons hlt
      rw [ih, hdrop, get!_eq hlt, List.reverse_cons, List.append_assoc,
        List.singleton_append]
  | case2 i before hge =>
      have hlength : data.data.toList.length ≤ i := Nat.le_of_not_lt hge
      rw [List.drop_eq_nil_of_le hlength, List.append_nil]

theorem toList_eq (data : ByteArray) : data.toList = data.data.toList := by
  rw [ByteArray.toList, toList_loop, List.reverse_nil, List.nil_append, List.drop_zero]

theorem encodeUtf8_inj {s t : String} : encodeUtf8 s = encodeUtf8 t ↔ s = t := by
  constructor
  · intro h
    rw [encodeUtf8, encodeUtf8, toList_eq, toList_eq] at h
    exact String.toByteArray_inj.1 (ByteArray.ext (Array.toList_inj.1 h))
  · intro h
    rw [h]

end QueryShell.Text
