import SerialLink.Proofs.Scan.Segmentation

/-!
# Transports that yield what another has

A relation is yielding when every read that succeeds on the second of two transports succeeds with
the same bytes on the first, and keeps the relation. What else the first one may meet, be it a
failure or more bytes, is left open. A cycle for which the second transport has all the bytes then
goes the same way on the first (`Yields.step`), in particular one over a piece (`Yields.piece`).
-/

namespace SerialLink

namespace Scan

/-- What is read of the second of two related transports is read of the first. -/
def Yields (R : Transport → Transport → Prop) : Prop :=
  ∀ {t u u' : Transport} {n : Nat} {bytes : List UInt8}, R t u →
    u.readExact n = some (.ok bytes, u') → ∃ t', t.readExact n = some (.ok bytes, t') ∧ R t' u'

variable {R : Transport → Transport → Prop} {sizes : CommandSizes} {s : Scanner}
  {t u u' : Transport}

/-- A marker that is found in the second transport is found in the first, behind as many bytes. -/
theorem Yields.seek {n : Nat} (yields : Yields R) (related : R t u)
    (sought : Scan.seek u = some ⟨.ok (), n, u'⟩) :
    ∃ t', Scan.seek t = some ⟨.ok (), n, t'⟩ ∧ R t' u' := by
  fun_induction Scan.seek u generalizing t n with
  | case1 | case2 => cases sought
  | case3 u v read =>
    cases sought
    obtain ⟨t', read', related'⟩ := yields related read
    exact ⟨t', seek_of_marker read', related'⟩
  | case4 u bytes v read other ih =>
    obtain ⟨⟨result, m, v'⟩, later, told⟩ := Option.map_eq_some_iff.1 sought
    cases told
    obtain ⟨t₁, read', related₁⟩ := yields related read
    obtain ⟨t', sought', related'⟩ := ih related₁ later
    obtain ⟨b, rfl⟩ := List.length_eq_one_iff.1 (Transport.bytes_of_readExact read).2
    have differs : b ≠ Wire.marker := fun is => other (by rw [is])
    refine ⟨t', ?_, related'⟩
    rw [seek_of_other differs read', sought']
    rfl

/-- A cycle in which no read of the second transport fails ends the same way on the first. -/
theorem Yields.step {c : Cycle} {e : Event} (yields : Yields R) (related : R t u)
    (step : s.step sizes u = some c) (ends : c.result = .ok e)
    (complete : ∀ stage reason, e ≠ .discarded (.readFailed stage reason)) :
    ∃ t', s.step sizes t = some { c with transport := t' } ∧ R t' c.transport := by
  have failed {stage : Stage} {fault : Transport.Fault} {s : Scanner} {u : Transport}
      (ends : (readFailed stage fault s u).result = .ok e) : False := by
    unfold readFailed at ends
    split at ends
    · cases ends
    · exact complete stage fault.message (Except.ok.inj ends).symm
  cases course_of_step step with
  | unmarked => cases ends
  | headless | bodiless => exact (failed ends).elim
  | missized sought headed entry differs =>
    obtain ⟨t₁, sought', related₁⟩ := yields.seek related sought
    obtain ⟨t₂, headed', related₂⟩ := yields related₁ headed
    exact ⟨t₂, step_of_course (.missized sought' headed' entry differs), related₂⟩
  | unknown sought headed entry read =>
    obtain ⟨t₁, sought', related₁⟩ := yields.seek related sought
    obtain ⟨t₂, headed', related₂⟩ := yields related₁ headed
    obtain ⟨t₃, read', related₃⟩ := yields related₂ read
    exact ⟨t₃, step_of_course (.unknown sought' headed' entry read'), related₃⟩
  | whole sought headed entry read =>
    obtain ⟨t₁, sought', related₁⟩ := yields.seek related sought
    obtain ⟨t₂, headed', related₂⟩ := yields related₁ headed
    obtain ⟨t₃, read', related₃⟩ := yields related₂ read
    exact ⟨t₃, step_of_course (.whole sought' headed' entry read'), related₃⟩

theorem Piece.ne_readFailed {piece : List UInt8} {e : Event} (h : Piece sizes piece e)
    (stage : Stage) (reason : String) : e ≠ .discarded (.readFailed stage reason) := by
  cases h <;> simp

/-- A cycle takes the noise and the piece that are in front, whatever the transport meets then. -/
theorem Yields.piece {noise piece rest : List UInt8} {e : Event} (yields : Yields R) (s : Scanner)
    (clean : Noise noise) (h : Piece sizes piece e)
    (related : R t (.ofBytes (noise ++ (piece ++ rest)))) :
    ∃ t', s.step sizes t = some (finished e (s.stats.skip noise.length) t') ∧
      R t' (.ofBytes rest) :=
  yields.step related (step_of_piece s clean h rest) rfl h.ne_readFailed

end Scan

end SerialLink
