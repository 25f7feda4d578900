import SerialLink.Message.Codec
import SerialLink.Proofs.Wire.PrefixFree

/-!
# Messages read back

The body of every message has the length of its kind (`Message.length_body`) and reads back as that
message, whatever bits its numbers have and whatever bytes its label has (`ofBody_body`). Encoding a
message therefore never fails, and what it gives is the frame of a request that is accepted
(`Message.encode_eq`).
-/

namespace SerialLink

namespace Single

theorem toNat_ofBytes (a b c d : UInt8) :
    (ofBytes a b c d).bits.toNat =
      a.toNat + 256 * b.toNat + 65536 * c.toNat + 16777216 * d.toNat := by
  have ha := a.toNat_lt
  have hb := b.toNat_lt
  have hc := c.toNat_lt
  have hd := d.toNat_lt
  have second : (b.toUInt32 <<< 8).toNat = b.toNat <<< 8 := by
    simp [Nat.shiftLeft_eq]
    omega
  have third : (c.toUInt32 <<< 16).toNat = c.toNat <<< 16 := by
    simp [Nat.shiftLeft_eq]
    omega
  have fourth : (d.toUInt32 <<< 24).toNat = d.toNat <<< 24 := by
    simp [Nat.shiftLeft_eq]
    omega
  have below₂ : b.toNat <<< 8 + a.toNat < 2 ^ 16 := by
    rw [Nat.shiftLeft_eq]
    omega
  have below₃ : c.toNat <<< 16 + (b.toNat <<< 8 + a.toNat) < 2 ^ 24 := by
    rw [Nat.shiftLeft_eq]
    omega
  rw [ofBytes, UInt32.toNat_or, UInt32.toNat_or, UInt32.toNat_or, second, third, fourth,
    UInt8.toNat_toUInt32, Nat.or_comm a.toNat, ← Nat.shiftLeft_add_eq_or_of_lt ha,
    Nat.or_comm _ (c.toNat <<< 16), ← Nat.shiftLeft_add_eq_or_of_lt below₂,
    Nat.or_comm _ (d.toNat <<< 24), ← Nat.shiftLeft_add_eq_or_of_lt below₃]
  simp only [Nat.shiftLeft_eq]
  omega

@[simp] theorem ofBytes_toBytes (x : Single) :
    ofBytes x.bits.toUInt8 (x.bits >>> 8).toUInt8 (x.bits >>> 16).toUInt8
      (x.bits >>> 24).toUInt8 = x := by
  have bits : (ofBytes x.bits.toUInt8 (x.bits >>> 8).toUInt8 (x.bits >>> 16).toUInt8
      (x.bits >>> 24).toUInt8).bits = x.bits := by
    apply UInt32.toNat_inj.1
    have := x.bits.toNat_lt
    rw [toNat_ofBytes]
    simp only [UInt32.toNat_toUInt8, UInt32.toNat_shiftRight, Nat.shiftRight_eq_div_pow]
    simp
    omega
  cases x
  exact congrArg Single.mk bits

theorem take?_toBytes (x : Single) (rest : List UInt8) :
    take? (x.toBytes ++ rest) = some (x, rest) := by
  simp [toBytes, take?]

end Single

namespace ControlTerm

theorem take?_bytes (t : ControlTerm) (rest : List UInt8) :
    take? (t.bytes ++ rest) = some (t, rest) := by
  simp [take?, bytes, Single.take?_toBytes]

end ControlTerm

namespace Message

@[simp] theorem length_body (m : Message) : m.body.length = m.kind.size := by
  cases m with
  | label id field =>
    simp [body, kind, MessageKind.size, field.length_bytes, labelRoom, Checksum.size]
  | update | remove | apply => rfl

/-- What a message asks to be sent. -/
def request (m : Message) : Wire.Request :=
  ⟨m.kind.command, m.kind.size, m.body⟩

theorem size_le_maxBody (kind : MessageKind) : kind.size ≤ Wire.maxBody := by
  cases kind <;> decide

theorem accepted_request (m : Message) : m.request.Accepted :=
  ⟨m.length_body ▸ size_le_maxBody m.kind, m.length_body⟩

/-- Every message can be encoded. -/
theorem encode_eq (m : Message) : m.encode = .ok m.request.bytes :=
  Wire.encode_eq_ok_iff.2 ⟨m.accepted_request, rfl⟩

end Message

/-- The body of a message reads back as the message. -/
theorem MessageKind.ofBody_body (m : Message) : m.kind.ofBody m.body = .ok m := by
  have reads : m.kind.read? m.body = some m := by
    cases m with
    | label id field =>
      simp [Message.kind, Message.body, Checksum.wordBytes, read?, field.length_bytes]
    | update id value =>
      simp [Message.kind, Message.body, Checksum.wordBytes, Single.toBytes, read?]
    | remove id => simp [Message.kind, Message.body, Checksum.wordBytes, read?]
    | apply p i d =>
      have last := ControlTerm.take?_bytes d []
      rw [List.append_nil] at last
      simp [Message.kind, Message.body, read?, ControlTerm.take?_bytes, last]
  rw [ofBody, reads]

end SerialLink
