import SerialLink.Proofs.Scan.Chunking

/-!
# Cycles that wait

A read waits only while the transport is open and the other side may still send; one that is closed
under the wait, or was closed before, comes back (`readExact_eq_none`). So a cycle waits only over a
transport that nobody closes (`unclosed_of_step_eq_none`).
-/

namespace SerialLink

namespace Transport

/-- Nobody closes the transport: its owner neither has nor will. -/
structure Unclosed (t : Transport) : Prop where
  isOpen : t.isOpen = true
  never : t.feed.Unclosed

variable {kind : Kind} {live isOpen : Bool} {need n : Nat} {feed : Feed} {t t' : Transport}

theorem fill_eq_none (waits : fill kind live need isOpen feed = none) :
    live = true ∧ isOpen = true ∧ feed.Unclosed := by
  induction feed generalizing need isOpen with
  | nil =>
    rw [fill] at waits
    split at waits
    · next both =>
      obtain ⟨may, stays⟩ := Bool.and_eq_true_iff.1 both
      exact ⟨may, stays, List.not_mem_nil⟩
    · cases waits
  | cons e feed ih =>
    have behind {need : Nat} (other : e ≠ .closed)
        (waits : fill kind live need isOpen feed = none) :
        live = true ∧ isOpen = true ∧ Feed.Unclosed (e :: feed) := by
      obtain ⟨may, stays, never⟩ := ih waits
      exact ⟨may, stays, Feed.unclosed_cons.2 ⟨other, never⟩⟩
    cases e with
    | data bytes =>
      rw [fill] at waits
      split at waits
      · exact behind (by simp) waits
      · split at waits
        · cases waits
        · split at waits
          · exact behind (by simp) (Option.map_eq_none_iff.1 waits)
          · cases waits
    | interrupted | idle =>
      rw [fill] at waits
      split at waits
      · exact behind (by simp) waits
      · cases waits
    | failed | ended => cases waits
    | closed =>
      rw [fill] at waits
      obtain ⟨-, shut, -⟩ := ih waits
      cases shut

/-- A call behind which the transport is open has met nobody closing it. -/
theorem Fills.unclosed_before {i : Intake} (fills : Fills kind live need isOpen feed i)
    (stays : i.isOpen = true) : isOpen = true ∧ (i.feed.Unclosed → feed.Unclosed) := by
  have behind {e : Feed.Event} {rest left : Feed} (other : e ≠ .closed)
      (never : left.Unclosed → rest.Unclosed) (none : left.Unclosed) : Feed.Unclosed (e :: rest) :=
    Feed.unclosed_cons.2 ⟨other, never none⟩
  induction fills with
  | dry => exact ⟨(Bool.and_eq_true_iff.1 stays).1, id⟩
  | none _ ih | part _ _ _ ih =>
    obtain ⟨before, never⟩ := ih stays
    exact ⟨before, behind (by simp) never⟩
  | again vain _ ih =>
    obtain ⟨before, never⟩ := ih stays
    exact ⟨before, behind (by rcases vain with rfl | rfl <;> simp) never⟩
  | enough =>
    exact ⟨stays, behind (by simp) fun none member => none (List.mem_append_right _ member)⟩
  | lost | givenUp => cases stays
  | failed => exact ⟨stays, behind (by simp) id⟩
  | ended => exact ⟨(Bool.and_eq_true_iff.1 stays).1, behind (by simp) id⟩
  | closed _ ih => cases (ih stays).1

theorem readExact_eq_none (waits : t.readExact n = none) : t.live = true ∧ t.Unclosed := by
  unfold readExact at waits
  split at waits
  · cases waits
  · split at waits
    · next isOpen =>
      obtain ⟨may, -, never⟩ := fill_eq_none (Option.map_eq_none_iff.1 waits)
      exact ⟨may, isOpen, never⟩
    · cases waits

theorem Unclosed.of_readExact {result : Except Fault (List UInt8)}
    (read : t.readExact n = some (result, t')) (unclosed : t'.Unclosed) : t.Unclosed := by
  rcases cases_of_readExact read with ⟨-, -, rfl⟩ | ⟨-, isOpen, i, fills, -, rfl⟩ | ⟨-, -, -, rfl⟩
  · exact unclosed
  · exact ⟨isOpen, (fills.unclosed_before unclosed.isOpen).2 unclosed.never⟩
  · exact unclosed

end Transport

namespace Scan

variable {sizes : CommandSizes} {s : Scanner} {t : Transport}

theorem kept_unclosed : Kept fun t t' => t'.Unclosed → t.Unclosed where
  trans first second unclosed := first (second unclosed)
  reads := Transport.Unclosed.of_readExact

theorem Kept.waits_of_seek {R : Transport → Transport → Prop} (kept : Kept R)
    (waits : Scan.seek t = none) : ∃ t₁, R t t₁ ∧ t₁.readExact 1 = none := by
  fun_induction Scan.seek t with
  | case1 t read => exact ⟨t, kept.refl t, read⟩
  | case2 => cases waits
  | case3 => cases waits
  | case4 t bytes t' read _ ih =>
    obtain ⟨t₁, later, none⟩ := ih (Option.map_eq_none_iff.1 waits)
    exact ⟨t₁, kept.trans (kept.reads read) later, none⟩

/-- A cycle that waits waits with a read. -/
theorem Kept.waits {R : Transport → Transport → Prop} (kept : Kept R)
    (waits : s.step sizes t = none) : ∃ t₁ n, R t t₁ ∧ t₁.readExact n = none := by
  cases sought : Scan.seek t with
  | none =>
    obtain ⟨t₁, kept₁, none⟩ := kept.waits_of_seek sought
    exact ⟨t₁, 1, kept₁, none⟩
  | some a =>
    obtain ⟨result, m, t₁⟩ := a
    have kept₁ := kept.seek sought
    cases result with
    | error fault =>
      rw [step_of_course (.unmarked sought)] at waits
      cases waits
    | ok _ =>
      rw [step_of_marker sought] at waits
      cases read : t₁.readExact Wire.headerSize with
      | none => exact ⟨t₁, _, kept₁, read⟩
      | some outcome =>
        obtain ⟨result, t₂⟩ := outcome
        have kept₂ := kept.trans kept₁ (kept.reads read)
        cases result with
        | error fault =>
          rw [readFrame, read] at waits
          cases waits
        | ok bytes =>
          obtain ⟨h, rfl⟩ := exists_header read
          rw [readFrame_of_header read, readRest] at waits
          refine ⟨t₂, h.bodySize + Checksum.size, kept₂, ?_⟩
          split at waits
          · exact Option.map_eq_none_iff.1 waits
          · split at waits
            · cases waits
            · exact Option.map_eq_none_iff.1 waits

/-- A cycle waits only while more may come and nobody closes the transport. -/
theorem unclosed_of_step_eq_none (waits : s.step sizes t = none) :
    t.live = true ∧ t.Unclosed := by
  obtain ⟨t₁, n, live, none⟩ := kept_live.waits waits
  obtain ⟨t₂, m, unclosed, none'⟩ := kept_unclosed.waits waits
  exact ⟨live ▸ (Transport.readExact_eq_none none).1,
    unclosed (Transport.readExact_eq_none none').2⟩

end Scan

end SerialLink
