import SerialLink.Proofs.Message.Body

/-!
# Bodies and messages are one to one

Whatever reads a message consumes exactly what writing that message produces, for a number
(`Single.bytes_of_take?`), a term of a controller (`ControlTerm.bytes_of_take?`) and a whole body
(`MessageKind.body_of_read?`); and any bytes of a kind's length are the body of a message of that
kind (`MessageKind.exists_body`). So a kind reads a body exactly when it has the kind's length, and
gives the one message that it is the body of (`messages_are_bodies`).
-/

namespace SerialLink

namespace Single

/-- Four bytes are those of the number that is made of them. -/
theorem toBytes_ofBytes (a b c d : UInt8) : (ofBytes a b c d).toBytes = [a, b, c, d] := by
  have whole := toNat_ofBytes a b c d
  have ha := a.toNat_lt
  have hb := b.toNat_lt
  have hc := c.toNat_lt
  have hd := d.toNat_lt
  have lowest : (ofBytes a b c d).bits.toUInt8 = a := by
    apply UInt8.toNat_inj.1
    rw [UInt32.toNat_toUInt8, whole]
    omega
  have second : ((ofBytes a b c d).bits >>> 8).toUInt8 = b := by
    apply UInt8.toNat_inj.1
    simp [UInt32.toNat_shiftRight, Nat.shiftRight_eq_div_pow, whole]
    omega
  have third : ((ofBytes a b c d).bits >>> 16).toUInt8 = c := by
    apply UInt8.toNat_inj.1
    simp [UInt32.toNat_shiftRight, Nat.shiftRight_eq_div_pow, whole]
    omega
  have highest : ((ofBytes a b c d).bits >>> 24).toUInt8 = d := by
    apply UInt8.toNat_inj.1
    simp [UInt32.toNat_shiftRight, Nat.shiftRight_eq_div_pow, whole]
    omega
  rw [toBytes, lowest, second, third, highest]

/-- A number that was read stands in front of what was left. -/
theorem bytes_of_take? {bytes rest : List UInt8} {x : Single}
    (read : take? bytes = some (x, rest)) : bytes = x.toBytes ++ rest := by
  match bytes with
  | [] | [_] | [_, _] | [_, _, _] => cases read
  | a :: b :: c :: d :: _ =>
    cases read
    rw [toBytes_ofBytes]
    rfl

/-- Four bytes are a number. -/
theorem exists_bytes_append {bytes : List UInt8} (enough : 4 ≤ bytes.length) :
    ∃ (x : Single) (rest : List UInt8), bytes = x.toBytes ++ rest := by
  match bytes, enough with
  | a :: b :: c :: d :: rest, _ => exact ⟨ofBytes a b c d, rest, by rw [toBytes_ofBytes]; rfl⟩

@[simp] theorem length_toBytes (x : Single) : x.toBytes.length = 4 := rfl

end Single

namespace ControlTerm

/-- A term that was read stands in front of what was left. -/
theorem bytes_of_take? {bytes rest : List UInt8} {t : ControlTerm}
    (read : take? bytes = some (t, rest)) : bytes = t.bytes ++ rest := by
  simp only [take?, Option.bind_eq_bind, Option.bind_eq_some_iff, Option.pure_def,
    Prod.exists] at read
  obtain ⟨scale, behind, first, outMax, behind', second, value, behind'', third, same⟩ := read
  cases same
  rw [Single.bytes_of_take? first, Single.bytes_of_take? second, Single.bytes_of_take? third,
    ControlTerm.bytes]
  simp only [List.append_assoc]

@[simp] theorem length_bytes (t : ControlTerm) : t.bytes.length = 12 := rfl

/-- Twelve bytes are a term. -/
theorem exists_bytes_append {bytes : List UInt8} (enough : 12 ≤ bytes.length) :
    ∃ (t : ControlTerm) (rest : List UInt8), bytes = t.bytes ++ rest := by
  obtain ⟨scale, behind, rfl⟩ := Single.exists_bytes_append (by omega : 4 ≤ bytes.length)
  rw [List.length_append, Single.length_toBytes] at enough
  obtain ⟨outMax, behind', rfl⟩ := Single.exists_bytes_append (by omega : 4 ≤ behind.length)
  rw [List.length_append, Single.length_toBytes] at enough
  obtain ⟨value, rest, rfl⟩ := Single.exists_bytes_append (by omega : 4 ≤ behind'.length)
  refine ⟨⟨scale, outMax, value⟩, rest, ?_⟩
  rw [ControlTerm.bytes]
  simp only [List.append_assoc]

end ControlTerm

namespace MessageKind

variable {kind : MessageKind} {bytes : List UInt8} {m : Message}

/-! ### Reading what is there -/

theorem label_of_read? (read : label.read? bytes = some m) : m.kind = .label ∧ m.body = bytes := by
  match bytes with
  | [] | [_] => cases read
  | low :: high :: text =>
    simp only [read?] at read
    split at read
    · cases read
      refine ⟨rfl, ?_⟩
      rw [Message.body, Checksum.wordBytes_wordOf]
      rfl
    · cases read

theorem update_of_read? (read : update.read? bytes = some m) :
    m.kind = .update ∧ m.body = bytes := by
  match bytes with
  | [] | [_] | [_, _] | [_, _, _] | [_, _, _, _] | [_, _, _, _, _] => cases read
  | _ :: _ :: _ :: _ :: _ :: _ :: _ :: _ => cases read
  | [low, high, a, b, c, d] =>
    cases read
    refine ⟨rfl, ?_⟩
    rw [Message.body, Checksum.wordBytes_wordOf, Single.toBytes_ofBytes]
    rfl

theorem remove_of_read? (read : remove.read? bytes = some m) :
    m.kind = .remove ∧ m.body = bytes := by
  match bytes with
  | [] | [_] | _ :: _ :: _ :: _ => cases read
  | [low, high] =>
    cases read
    exact ⟨rfl, Checksum.wordBytes_wordOf low high⟩

theorem apply_of_read? (read : apply.read? bytes = some m) : m.kind = .apply ∧ m.body = bytes := by
  simp only [read?, Option.bind_eq_bind, Option.bind_eq_some_iff, Option.pure_def,
    Prod.exists] at read
  obtain ⟨p, behind, first, i, behind', second, d, rest, third, whole⟩ := read
  split at whole
  · next none =>
    cases whole
    subst none
    refine ⟨rfl, ?_⟩
    rw [ControlTerm.bytes_of_take? first, ControlTerm.bytes_of_take? second,
      ControlTerm.bytes_of_take? third, Message.body]
    simp only [List.append_assoc, List.append_nil]
  · cases whole

/-- A message that was read has the kind that was asked for and the bytes as its body. -/
theorem body_of_read? (read : kind.read? bytes = some m) : m.kind = kind ∧ m.body = bytes := by
  cases kind with
  | label => exact label_of_read? read
  | update => exact update_of_read? read
  | remove => exact remove_of_read? read
  | apply => exact apply_of_read? read

/-! ### Any bytes of the right length -/

theorem exists_label (size : bytes.length = label.size) :
    ∃ m : Message, m.kind = .label ∧ m.body = bytes := by
  match bytes, size with
  | low :: high :: text, size =>
    have room : text.length = labelRoom := by
      simp only [List.length_cons, MessageKind.size] at size
      rw [labelRoom]
      omega
    refine ⟨.label (Checksum.wordOf low high) ⟨text, room⟩, rfl, ?_⟩
    rw [Message.body, Checksum.wordBytes_wordOf]
    rfl

theorem exists_update (size : bytes.length = update.size) :
    ∃ m : Message, m.kind = .update ∧ m.body = bytes := by
  match bytes, size with
  | [low, high, a, b, c, d], _ =>
    refine ⟨.update (Checksum.wordOf low high) (.ofBytes a b c d), rfl, ?_⟩
    rw [Message.body, Checksum.wordBytes_wordOf, Single.toBytes_ofBytes]
    rfl

theorem exists_remove (size : bytes.length = remove.size) :
    ∃ m : Message, m.kind = .remove ∧ m.body = bytes := by
  match bytes, size with
  | [low, high], _ =>
    exact ⟨.remove (Checksum.wordOf low high), rfl, Checksum.wordBytes_wordOf low high⟩

theorem exists_apply (size : bytes.length = apply.size) :
    ∃ m : Message, m.kind = .apply ∧ m.body = bytes := by
  have long : bytes.length = 36 := size
  obtain ⟨p, behind, rfl⟩ := ControlTerm.exists_bytes_append (by omega : 12 ≤ bytes.length)
  rw [List.length_append, ControlTerm.length_bytes] at long
  obtain ⟨i, behind', rfl⟩ := ControlTerm.exists_bytes_append (by omega : 12 ≤ behind.length)
  rw [List.length_append, ControlTerm.length_bytes] at long
  obtain ⟨d, rest, rfl⟩ := ControlTerm.exists_bytes_append (by omega : 12 ≤ behind'.length)
  rw [List.length_append, ControlTerm.length_bytes] at long
  obtain rfl : rest = [] := List.length_eq_zero_iff.1 (by omega)
  refine ⟨.apply p i d, rfl, ?_⟩
  rw [Message.body]
  simp only [List.append_assoc, List.append_nil]

/-- Bytes of the length of a kind are the body of a message of that kind. -/
theorem exists_body (size : bytes.length = kind.size) :
    ∃ m : Message, m.kind = kind ∧ m.body = bytes := by
  cases kind with
  | label => exact exists_label size
  | update => exact exists_update size
  | remove => exact exists_remove size
  | apply => exact exists_apply size

/-- A kind reads a body as the message of that kind whose body it is. -/
theorem ofBody_eq_ok_iff : kind.ofBody bytes = .ok m ↔ m.kind = kind ∧ m.body = bytes := by
  constructor
  · intro read
    unfold ofBody at read
    split at read
    · next found =>
      cases read
      exact body_of_read? found
    · cases read
  · rintro ⟨rfl, rfl⟩
    exact ofBody_body m

/-- A body of another length is refused, and its length is told. -/
theorem ofBody_of_length_ne (other : bytes.length ≠ kind.size) :
    kind.ofBody bytes = .error (.bodySizeMismatch kind.command kind.size bytes.length) := by
  unfold ofBody
  split
  · next m found =>
    obtain ⟨rfl, rfl⟩ := body_of_read? found
    exact absurd m.length_body other
  · rfl

/-- A kind reads the frame of a message as that message, if it is of the kind, and else tells the
two commands apart; what stands behind the frame is not looked at. -/
theorem ofFrame_request (kind : MessageKind) (m : Message) (behind : List UInt8) :
    kind.ofFrame (m.request.bytes ++ behind) =
      if kind = m.kind then .ok m
      else .error (.unexpectedCommand kind.command m.kind.command) := by
  have read := Wire.decode_bytes_append m.accepted_request behind
  have command : m.request.frame.command = m.kind.command := rfl
  have body : m.request.frame.body = m.body := rfl
  rw [ofFrame, read]
  simp only [command, body]
  by_cases same : kind = m.kind
  · rw [same, if_neg (by simp), if_pos rfl, ofBody_body]
  · have differs : m.kind.command ≠ kind.command :=
      fun equal => same (command_injective equal).symm
    rw [if_pos differs, if_neg same]

end MessageKind

/-- **Messages, their bodies and their frames are one to one.** Every message can be encoded, in six
bytes more than its kind's length; its kind reads that frame as the message again, bit for bit and
whatever stands behind it, and any other kind tells the two commands. Conversely, every body of the
length of a kind is read as a message of that kind whose body it is, and no other message of the
kind has that body; a body of another length is refused with both lengths. -/
theorem messages_are_bodies (m : Message) (kind : MessageKind) (bytes : List UInt8) :
    (∃ frame, m.encode = .ok frame ∧ frame.length = 6 + m.kind.size ∧
      ∀ behind, m.kind.ofFrame (frame ++ behind) = .ok m ∧
        (kind ≠ m.kind → kind.ofFrame (frame ++ behind) =
          .error (.unexpectedCommand kind.command m.kind.command))) ∧
    (bytes.length = kind.size → ∃ m', kind.ofBody bytes = .ok m' ∧
      m'.kind = kind ∧ m'.body = bytes ∧ ∀ other, other.kind = kind → other.body = bytes →
        other = m') ∧
    (bytes.length ≠ kind.size → kind.ofBody bytes =
      .error (.bodySizeMismatch kind.command kind.size bytes.length)) := by
  refine ⟨⟨m.request.bytes, m.encode_eq, ?_, fun behind => ⟨?_, fun other => ?_⟩⟩, fun size => ?_,
    MessageKind.ofBody_of_length_ne⟩
  · rw [Wire.Request.bytes, Wire.length_frameBytes]
    show Wire.overhead + m.body.length = 6 + m.kind.size
    rw [m.length_body, Wire.overhead]
  · rw [MessageKind.ofFrame_request, if_pos rfl]
  · rw [MessageKind.ofFrame_request, if_neg other]
  · obtain ⟨m', rfl, rfl⟩ := MessageKind.exists_body size
    have read := MessageKind.ofBody_body m'
    refine ⟨m', read, rfl, rfl, fun other sameKind sameBody => ?_⟩
    have readOther := MessageKind.ofBody_eq_ok_iff.2 ⟨sameKind, sameBody⟩
    exact Except.ok.inj (readOther.symm.trans read)

end SerialLink
