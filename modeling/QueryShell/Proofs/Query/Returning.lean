import QueryShell.Proofs.Query.WireForm
import QueryShell.Proofs.Value.Tagging

namespace QueryShell.Query

open Value (TaggedAs AllTaggedAs decode)

inductive Returnable : Value → Prop where
  | scalar {v : Value} : Scalar v → Returnable v
  | bytes (data : List UInt8) : Returnable (.bytes data)
  | list {items : List Value} : (∀ v ∈ items, Returnable v) → Returnable (.list items)

theorem Scalar.toWire_eq {v : Value} (h : Scalar v) : toWire v = .ok v := by
  cases h <;> rfl

theorem Scalar.taggedAs {v : Value} (h : Scalar v) : TaggedAs v v := by
  cases h with
  | null => exact .null
  | bool b => exact .bool b
  | int n => exact .int n
  | float x => exact .float x
  | str s => exact .str s

theorem exists_allTagged_of_sent {items : List Value}
    (h : ∀ v ∈ items, ∃ j, toWire v = .ok j ∧ TaggedAs v j) :
    ∃ js, allToWire items = .ok js ∧ AllTaggedAs items js := by
  induction items with
  | nil => exact ⟨[], rfl, .nil⟩
  | cons v items ih =>
      obtain ⟨j, hj, htag⟩ := h v (by simp)
      obtain ⟨js, hjs, htags⟩ := ih fun w hw => h w (by simp [hw])
      exact ⟨j :: js, bind_ok.2 ⟨j, hj, bind_ok.2 ⟨js, hjs, rfl⟩⟩, .cons htag htags⟩

theorem Returnable.exists_tagged {v : Value} (h : Returnable v) :
    ∃ j, toWire v = .ok j ∧ TaggedAs v j := by
  induction h with
  | scalar hs => exact ⟨_, hs.toWire_eq, hs.taggedAs⟩
  | bytes data => exact ⟨_, rfl, .bytes data⟩
  | list _ ih =>
      obtain ⟨js, hjs, htags⟩ := exists_allTagged_of_sent ih
      exact ⟨.list js, bind_ok.2 ⟨js, hjs, rfl⟩, .list htags⟩

theorem Returnable.decode_toWire {v : Value} (h : Returnable v) :
    (toWire v >>= decode) = .ok v := by
  obtain ⟨j, hj, htag⟩ := h.exists_tagged
  exact bind_ok.2 ⟨j, hj, htag.decode_eq⟩

def nestedBytes : Value :=
  .list [.bytes [], .list [.bytes [0xfb], .bytes [0xfb, 0xff], .list [.bytes [0, 16, 131]]],
    .str "@bytes", .null, .bool false, .int (-3)]

theorem decode_toWire_nestedBytes :
    Returnable nestedBytes ∧ (toWire nestedBytes >>= decode) = .ok nestedBytes := by
  have hinner : Returnable (.list [.bytes [0, 16, 131]]) := .list (by simpa using .bytes _)
  have hmiddle : Returnable
      (.list [.bytes [0xfb], .bytes [0xfb, 0xff], .list [.bytes [0, 16, 131]]]) :=
    .list (by simpa using ⟨.bytes _, .bytes _, hinner⟩)
  have hall : Returnable nestedBytes :=
    .list (by simpa using ⟨.bytes _, hmiddle, .scalar (.str _), .scalar .null,
      .scalar (.bool _), .scalar (.int _)⟩)
  exact ⟨hall, hall.decode_toWire⟩

end QueryShell.Query
