import QueryShell.Text.Base64

namespace QueryShell.Text.Base64

theorem valueOf?_charOf : ∀ n < 64, valueOf? (charOf n) = some n := by
  decide

theorem charOf_ne_pad : ∀ n < 64, charOf n ≠ '=' := by
  decide

theorem charOf_toNat_lt : ∀ n < 64, (charOf n).toNat < 0x80 := by
  decide

theorem decodeFrom_charOf (s : State) {n : Nat} (hn : n < 64) (cs : List Char) :
    decodeFrom s (charOf n :: cs) = decodeFrom (s.push n) cs := by
  rw [decodeFrom, if_neg (charOf_ne_pad n hn), valueOf?_charOf n hn]

theorem ofNat_eq {b : UInt8} {n : Nat} (h : n = b.toNat) : UInt8.ofNat n = b := by
  rw [h, UInt8.ofNat_toNat]

theorem decodeFrom_encode (data done : List UInt8) :
    decodeFrom ⟨done, 0, 0, 0⟩ (encode data) = .ok (done.reverse ++ data) := by
  induction data using encode.induct generalizing done with
  | case1 => simp [encode, decodeFrom, State.finish]
  | case2 a =>
      have ha := a.toNat_lt
      have hbyte : UInt8.ofNat (a.toNat / 4 * 4 + a.toNat % 4 * 16 / 16) = a := ofNat_eq (by omega)
      rw [encode, decodeFrom_charOf _ (by omega), decodeFrom_charOf _ (by omega)]
      simp only [State.push, hbyte]
      simp [decodeFrom]
  | case3 a b =>
      have ha := a.toNat_lt
      have hb := b.toNat_lt
      have hfirst : UInt8.ofNat (a.toNat / 4 * 4 + (a.toNat % 4 * 16 + b.toNat / 16) / 16) = a :=
        ofNat_eq (by omega)
      have hsecond : UInt8.ofNat ((a.toNat % 4 * 16 + b.toNat / 16) % 16 * 16 +
          b.toNat % 16 * 4 / 4) = b := ofNat_eq (by omega)
      rw [encode, decodeFrom_charOf _ (by omega), decodeFrom_charOf _ (by omega),
        decodeFrom_charOf _ (by omega)]
      simp only [State.push, hfirst, hsecond]
      simp [decodeFrom]
  | case4 a b c rest ih =>
      have ha := a.toNat_lt
      have hb := b.toNat_lt
      have hc := c.toNat_lt
      have hfirst : UInt8.ofNat (a.toNat / 4 * 4 + (a.toNat % 4 * 16 + b.toNat / 16) / 16) = a :=
        ofNat_eq (by omega)
      have hsecond : UInt8.ofNat ((a.toNat % 4 * 16 + b.toNat / 16) % 16 * 16 +
          (b.toNat % 16 * 4 + c.toNat / 64) / 4) = b := ofNat_eq (by omega)
      have hthird : UInt8.ofNat ((b.toNat % 16 * 4 + c.toNat / 64) % 4 * 64 + c.toNat % 64) = c :=
        ofNat_eq (by omega)
      rw [encode, decodeFrom_charOf _ (by omega), decodeFrom_charOf _ (by omega),
        decodeFrom_charOf _ (by omega), decodeFrom_charOf _ (by omega)]
      simp only [State.push, hfirst, hsecond, hthird]
      rw [ih]
      simp

theorem decode_encode (data : List UInt8) : decode (encode data) = .ok data :=
  decodeFrom_encode data []

theorem ascii_encode (data : List UInt8) : ∀ c ∈ encode data, c.toNat < 0x80 := by
  have hpad : '='.toNat < 0x80 := by decide
  induction data using encode.induct with
  | case1 => simp [encode]
  | case2 a =>
      have ha := a.toNat_lt
      simp only [encode, List.forall_mem_cons, List.not_mem_nil, false_implies, implies_true,
        and_true]
      exact ⟨charOf_toNat_lt _ (by omega), charOf_toNat_lt _ (by omega), hpad, hpad⟩
  | case3 a b =>
      have ha := a.toNat_lt
      have hb := b.toNat_lt
      simp only [encode, List.forall_mem_cons, List.not_mem_nil, false_implies, implies_true,
        and_true]
      exact ⟨charOf_toNat_lt _ (by omega), charOf_toNat_lt _ (by omega),
        charOf_toNat_lt _ (by omega), hpad⟩
  | case4 a b c rest ih =>
      have ha := a.toNat_lt
      have hb := b.toNat_lt
      have hc := c.toNat_lt
      simp only [encode, List.forall_mem_cons]
      exact ⟨charOf_toNat_lt _ (by omega), charOf_toNat_lt _ (by omega),
        charOf_toNat_lt _ (by omega), charOf_toNat_lt _ (by omega), ih⟩

theorem decodeFrom_map {f : Char → Char} (hpad : ∀ c, f c = '=' ↔ c = '=')
    (hvalue : ∀ c, valueOf? (f c) = valueOf? c) (s : State) (cs : List Char) :
    decodeFrom s (cs.map f) = decodeFrom s cs := by
  induction cs generalizing s with
  | nil => rfl
  | cons c cs ih => simp only [List.map_cons, decodeFrom, hpad, hvalue, ih]

end QueryShell.Text.Base64
