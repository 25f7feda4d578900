import SerialLink.Dispatch.Table
import SerialLink.Proofs.Message.Body

/-!
# Calls of handlers

A reader acts on the message whose body it is called with (`Reader.handler_body`). Frames are
dispatched one after the other, each handler acting on what the ones before it have left
(`Table.dispatchAll`). A table is calm when none of its handlers panics.
-/

namespace SerialLink

namespace Dispatch

/-- The handler could not do what it was called for. -/
def Reply.isFailure : Reply → Bool
  | .failed _ => true
  | _ => false

variable {σ : Type}

/-- A reader acts on the message whose body it is called with. -/
theorem Reader.handler_body (r : Reader σ) (m : Message) (s : σ) :
    r.handler m.kind m.body s = (if r.panics m then .panicked else .done, r.act m s) := by
  rw [Reader.handler, MessageKind.ofBody_body]

namespace Table

/-- No handler of the table ever panics. -/
def Calm (t : Table σ) : Prop :=
  ∀ e ∈ t.entries, ∀ body s, (e.handler body s).1 ≠ .panicked

/-- No handler panics that is called for one of some frames. -/
def CalmOn (t : Table σ) (frames : List Wire.Frame) : Prop :=
  ∀ f ∈ frames, ∀ s, (t.dispatch f s).1 ≠ .panicked

theorem Calm.calmOn {t : Table σ} (calm : t.Calm) (frames : List Wire.Frame) : t.CalmOn frames := by
  intro f _ s
  unfold Table.dispatch
  split
  · simp
  · next e found => exact calm e (List.mem_of_find?_eq_some found) f.body s

/-- The handlers' calls for some frames, one after the other: their replies and what they leave. -/
def dispatchAll (t : Table σ) (frames : List Wire.Frame) (s : σ) : List Reply × σ :=
  frames.foldl (fun (replies, s) frame =>
    let (reply, s) := t.dispatch frame s
    (replies ++ [reply], s)) ([], s)

@[simp] theorem dispatchAll_nil (t : Table σ) (s : σ) : t.dispatchAll [] s = ([], s) := rfl

@[simp] theorem dispatchAll_snoc (t : Table σ) (frames : List Wire.Frame) (frame : Wire.Frame)
    (s : σ) :
    t.dispatchAll (frames ++ [frame]) s =
      ((t.dispatchAll frames s).1 ++ [(t.dispatch frame (t.dispatchAll frames s).2).1],
        (t.dispatch frame (t.dispatchAll frames s).2).2) := by
  simp [dispatchAll]

/-- How many of the calls for some frames fail. -/
def failures (t : Table σ) (frames : List Wire.Frame) (s : σ) : Nat :=
  (t.dispatchAll frames s).1.countP Reply.isFailure

end Table

end Dispatch

end SerialLink
