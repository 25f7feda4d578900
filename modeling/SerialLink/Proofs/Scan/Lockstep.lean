import Mathlib.Data.List.Forall2
import SerialLink.Proofs.Scan.Course
import SerialLink.Proofs.Transport.Steady

/-!
# Cycles in lockstep

Two transports are in lockstep when every read comes to the same on both and keeps them so. A
scanner then cannot tell them apart: cycle for cycle it ends with the same event or fault, in the
same state and with the same counts (`Lockstep.step`, `Lockstep.cycles`). Transports without
failures that have the same bytes left are in lockstep, however these are cut into chunks
(`lockstep_steady`).
-/

namespace SerialLink

theorem eq_none_of_rel {α β : Type} {r : α → β → Prop} {b : Option β}
    (related : Option.Rel r none b) : b = none := by
  cases related
  rfl

theorem exists_of_rel {α β : Type} {r : α → β → Prop} {x : α} {b : Option β}
    (related : Option.Rel r (some x) b) : ∃ y, b = some y ∧ r x y := by
  cases related with
  | some h => exact ⟨_, rfl, h⟩

/-- What relates any values of two options relates what they are mapped to. -/
theorem rel_map {α β γ δ : Type} {r : α → β → Prop} {q : γ → δ → Prop} {f : α → γ} {g : β → δ}
    {a : Option α} {b : Option β} (related : Option.Rel r a b)
    (each : ∀ x y, r x y → q (f x) (g y)) : Option.Rel q (a.map f) (b.map g) := by
  cases related with
  | none => exact .none
  | some h => exact .some (each _ _ h)

namespace Scan

/-- Two reads come to the same. Whether a transport is open counts only where a read failed that
found no end. -/
structure Alike (R : Transport → Transport → Prop)
    (a b : Except Transport.Fault (List UInt8) × Transport) : Prop where
  result : a.1 = b.1
  transport : R a.2 b.2
  isOpen : ∀ fault, a.1 = .error fault → fault.isClosed = false → a.2.isOpen = b.2.isOpen

/-- A relation under which reads come to the same, and which they keep. -/
def Lockstep (R : Transport → Transport → Prop) : Prop :=
  ∀ {t u : Transport} (n : Nat), R t u → Option.Rel (Alike R) (t.readExact n) (u.readExact n)

/-- Two ways to the next marker tell the same. -/
structure Approach.Alike (R : Transport → Transport → Prop) (a b : Approach) : Prop where
  result : a.result = b.result
  skipped : a.skipped = b.skipped
  transport : R a.transport b.transport

/-- Two cycles tell the same. -/
structure Cycle.Alike (R : Transport → Transport → Prop) (c d : Cycle) : Prop where
  result : c.result = d.result
  scanner : c.scanner = d.scanner
  transport : R c.transport d.transport

variable {R : Transport → Transport → Prop} {t u : Transport} {sizes : CommandSizes}

/-! ## Reads in lockstep -/

/-- Where one of two transports waits, the other does. -/
theorem Lockstep.read_of_none (lockstep : Lockstep R) (related : R t u) {n : Nat}
    (waits : t.readExact n = none) : u.readExact n = none :=
  eq_none_of_rel (waits ▸ lockstep n related)

/-- What one of two transports gives, the other gives. -/
theorem Lockstep.read_of_some (lockstep : Lockstep R) (related : R t u) {n : Nat}
    {result : Except Transport.Fault (List UInt8)} {t' : Transport}
    (read : t.readExact n = some (result, t')) :
    ∃ u', u.readExact n = some (result, u') ∧ Alike R (result, t') (result, u') := by
  obtain ⟨⟨result', u'⟩, same, alike⟩ := exists_of_rel (read ▸ lockstep n related)
  obtain rfl : result = result' := alike.result
  exact ⟨u', same, alike⟩

theorem Lockstep.seek (lockstep : Lockstep R) (related : R t u) :
    Option.Rel (Approach.Alike R) (seek t) (seek u) := by
  fun_induction Scan.seek t generalizing u with
  | case1 t waits =>
    rw [seek_of_none (lockstep.read_of_none related waits)]
    exact .none
  | case2 t fault t' read =>
    obtain ⟨u', same, alike⟩ := lockstep.read_of_some related read
    rw [seek_of_error same]
    exact .some ⟨rfl, rfl, alike.transport⟩
  | case3 t t' read =>
    obtain ⟨u', same, alike⟩ := lockstep.read_of_some related read
    rw [seek_of_marker same]
    exact .some ⟨rfl, rfl, alike.transport⟩
  | case4 t bytes t' read other ih =>
    obtain ⟨u', same, alike⟩ := lockstep.read_of_some related read
    obtain ⟨b, rfl⟩ := List.length_eq_one_iff.1 (Transport.bytes_of_readExact read).2
    have differs : b ≠ Wire.marker := fun is => other (by rw [is])
    rw [seek_of_other differs same]
    refine rel_map (ih alike.transport) fun a b alike => ?_
    exact ⟨alike.result, congrArg (· + 1) alike.skipped, alike.transport⟩

/-! ## Cycles in lockstep -/

theorem alike_finished (event : Event) (stats : Stats) (related : R t u) :
    (finished event stats t).Alike R (finished event stats u) :=
  ⟨rfl, rfl, related⟩

/-- A read that failed costs the same frame on both sides. -/
theorem alike_readFailed {fault : Transport.Fault} (stage : Stage) (s : Scanner)
    (alike : Alike R (.error fault, t) (.error fault, u)) :
    (readFailed stage fault s t).Alike R (readFailed stage fault s u) := by
  cases closed : fault.isClosed with
  | true =>
    simp only [readFailed, closed, Bool.true_or, if_true]
    exact ⟨rfl, rfl, alike.transport⟩
  | false =>
    have isOpen : t.isOpen = u.isOpen := alike.isOpen fault rfl closed
    simp only [readFailed, closed, Bool.false_or, isOpen]
    split
    · exact ⟨rfl, rfl, alike.transport⟩
    · exact alike_finished _ _ alike.transport

/-- What goes on alike behind reads that come to the same comes to the same. -/
theorem Lockstep.reading (lockstep : Lockstep R) (related : R t u) (n : Nat)
    {next : Except Transport.Fault (List UInt8) × Transport → Cycle}
    (each : ∀ result t' u', Alike R (result, t') (result, u') →
      (next (result, t')).Alike R (next (result, u'))) :
    Option.Rel (Cycle.Alike R) ((t.readExact n).map next) ((u.readExact n).map next) := by
  refine rel_map (lockstep n related) ?_
  rintro ⟨result, t'⟩ ⟨_, u'⟩ alike
  obtain rfl : result = _ := alike.result
  exact each result t' u' alike

theorem Lockstep.readRest (lockstep : Lockstep R) (related : R t u) (h : Wire.Header)
    (stats : Stats) :
    Option.Rel (Cycle.Alike R) (readRest sizes h stats t) (readRest sizes h stats u) := by
  unfold Scan.readRest
  split
  · refine lockstep.reading related _ fun result t' u' alike => ?_
    cases result with
    | error fault => exact alike_readFailed .body _ alike
    | ok rest => exact alike_finished _ stats alike.transport
  · split
    · exact .some (alike_finished _ stats related)
    · refine lockstep.reading related _ fun result t' u' alike => ?_
      cases result with
      | error fault => exact alike_readFailed .body _ alike
      | ok rest => exact alike_finished _ stats alike.transport

theorem Lockstep.readFrame (lockstep : Lockstep R) (related : R t u) (stats : Stats) :
    Option.Rel (Cycle.Alike R) (readFrame sizes stats t) (readFrame sizes stats u) := by
  cases read : t.readExact Wire.headerSize with
  | none =>
    rw [Scan.readFrame, read, Scan.readFrame, lockstep.read_of_none related read]
    exact .none
  | some outcome =>
    obtain ⟨result, t'⟩ := outcome
    obtain ⟨u', same, alike⟩ := lockstep.read_of_some related read
    cases result with
    | error fault =>
      rw [Scan.readFrame, read, Scan.readFrame, same]
      exact .some (alike_readFailed .header _ alike)
    | ok bytes =>
      obtain ⟨h, rfl⟩ := exists_header read
      rw [readFrame_of_header read, readFrame_of_header same]
      exact lockstep.readRest alike.transport h stats

/-- Cycles that tell the same, one by one, have the same results and leave the same scanners. -/
theorem told_of_alike {cycles cycles' : List Cycle}
    (alike : List.Forall₂ (Cycle.Alike R) cycles cycles') :
    cycles.map (·.result) = cycles'.map (·.result) ∧
      cycles.map (·.scanner) = cycles'.map (·.scanner) := by
  constructor
  · rw [← List.forall₂_eq_eq_eq, List.forall₂_map_left_iff, List.forall₂_map_right_iff]
    exact alike.imp fun _ _ told => told.result
  · rw [← List.forall₂_eq_eq_eq, List.forall₂_map_left_iff, List.forall₂_map_right_iff]
    exact alike.imp fun _ _ told => told.scanner

/-- A cycle over one of two transports in lockstep is a cycle over the other. -/
theorem Lockstep.step (lockstep : Lockstep R) (related : R t u) (s : Scanner) :
    Option.Rel (Cycle.Alike R) (s.step sizes t) (s.step sizes u) := by
  have same := lockstep.seek related
  unfold Scanner.step
  generalize Scan.seek t = a, Scan.seek u = b at same
  cases same with
  | none => exact .none
  | @some a b alike =>
    obtain ⟨result, skipped, t'⟩ := a
    obtain ⟨_, _, u'⟩ := b
    obtain ⟨rfl, rfl, kept⟩ := alike
    cases result with
    | error fault => exact .some ⟨rfl, rfl, kept⟩
    | ok _ => exact lockstep.readFrame kept _

/-- The cycles over two transports in lockstep tell the same. -/
theorem Lockstep.cycles (lockstep : Lockstep R) (related : R t u) (s : Scanner) :
    List.Forall₂ (Cycle.Alike R) (s.cycles sizes t) (s.cycles sizes u) := by
  induction size : t.feed.bytes.length using Nat.strongRecOn generalizing s t u with
  | ind n ih =>
    have same : Option.Rel (Cycle.Alike R) (s.step sizes t) (s.step sizes u) :=
      lockstep.step related s
    cases step : s.step sizes t with
    | none =>
      rw [Scanner.cycles_of_none step, Scanner.cycles_of_none (eq_none_of_rel (step ▸ same))]
      exact .nil
    | some c =>
      obtain ⟨d, other, alike⟩ := exists_of_rel (step ▸ same)
      cases result : c.result with
      | error fault =>
        rw [Scanner.cycles_of_error step result,
          Scanner.cycles_of_error other (alike.result ▸ result)]
        exact .cons alike .nil
      | ok e =>
        rw [Scanner.cycles_of_event step result,
          Scanner.cycles_of_event other (alike.result ▸ result), ← alike.scanner]
        have shorter : c.transport.feed.bytes.length < n :=
          size ▸ Scanner.length_bytes_step step result
        exact .cons alike (ih _ shorter alike.transport c.scanner rfl)

/-! ## Transports without failures -/

/-- Of transports without failures only the bytes are seen. -/
theorem lockstep_steady :
    Lockstep fun t u => t.Steady ∧ u.Steady ∧ t.feed.bytes = u.feed.bytes := by
  rintro t u n ⟨steady, steady', same⟩
  rcases Nat.lt_or_ge t.feed.bytes.length n with short | enough
  · obtain ⟨t', read, left, empty⟩ := steady.readExact_of_short short
    obtain ⟨u', read', left', empty'⟩ := steady'.readExact_of_short (same ▸ short)
    rw [read, read']
    refine .some ⟨rfl, ⟨left, left', empty.trans empty'.symm⟩, fun fault is notClosed => ?_⟩
    cases is
    cases notClosed
  · obtain ⟨t', read, left, rest⟩ := steady.readExact enough
    obtain ⟨u', read', left', rest'⟩ := steady'.readExact (same ▸ enough)
    rw [read, read', same]
    refine .some ⟨rfl, ⟨left, left', by rw [rest, rest', same]⟩, fun fault is _ => ?_⟩
    cases is

end Scan

/-- The cycles over a transport without failures tell what those over a capture of its bytes do. -/
theorem Transport.Steady.cycles {t : Transport} (steady : t.Steady) (sizes : CommandSizes)
    (s : Scanner) :
    (s.cycles sizes t).map (·.result) = (s.cycles sizes (.ofBytes t.feed.bytes)).map (·.result) ∧
      (s.cycles sizes t).map (·.scanner) =
        (s.cycles sizes (.ofBytes t.feed.bytes)).map (·.scanner) := by
  have same : t.feed.bytes = (Transport.ofBytes t.feed.bytes).feed.bytes :=
    (Feed.bytes_ofBytes _).symm
  have alike : List.Forall₂ (Scan.Cycle.Alike _) (s.cycles sizes t)
      (s.cycles sizes (.ofBytes t.feed.bytes)) :=
    Scan.lockstep_steady.cycles ⟨steady, Transport.steady_ofBytes _, same⟩ s
  exact Scan.told_of_alike alike

end SerialLink
