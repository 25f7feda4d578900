import SerialLink.Proofs.Scan.Accounting
import SerialLink.Proofs.Scan.Chunking
import SerialLink.Proofs.Scan.Yielding

/-!
# Transports that are closed under way

The owner may close a transport at any point of its feed, under a call or between two
(`Feed.CutShort`). What a read of it comes to, the read would also come to without that, or it has
failed and the transport is closed (`CutShort.fill`). So every event that a scanner tells of the
transport that is closed, a failed read among them, it would tell of the other one (`step_of_cutShort`).
-/

namespace SerialLink

/-- The owner closes the transport somewhere in the second feed, which is the first one but for that.
Before that point chunks may be cut. -/
inductive Feed.CutShort : Feed → Feed → Prop where
  /-- under a call, which may still come back with what is ready -/
  | under (feed : Feed) : CutShort feed (.closed :: feed)
  /-- between two calls, so that the next one is in vain -/
  | between (feed : Feed) : CutShort feed (.closed :: .interrupted :: feed)
  | later {feed short : Feed} (e : Event) (stays : e ≠ .closed) (cut : CutShort feed short) :
      CutShort (e :: feed) (e :: short)
  /-- behind a part of a chunk -/
  | within {rest short : Feed} (front : List UInt8) {back : List UInt8} (more : back ≠ [])
      (cut : CutShort (.data back :: rest) short) :
      CutShort (.data (front ++ back) :: rest) (.data front :: short)

theorem Feed.CutShort.cons {feed short : Feed} (cut : feed.CutShort short) (bytes : List UInt8) :
    CutShort (Feed.cons bytes feed) (Feed.cons bytes short) := by
  by_cases none : bytes = []
  · rwa [none, cons_nil, cons_nil]
  · rw [cons_of_ne_nil none, cons_of_ne_nil none]
    exact .later _ (by simp) cut

namespace Transport

/-- The second transport is the first one with its owner closing it at some point, unless that never
happens or has happened already. -/
inductive CutShort (t : Transport) : Transport → Prop where
  | never : CutShort t t
  | ahead {short : Feed} (cut : t.feed.CutShort short) : CutShort t { t with feed := short }
  | closed {u : Transport} (shut : u.isOpen = false) : CutShort t u

variable {kind : Kind} {live : Bool} {need : Nat}

/-- A call under which the transport is closed comes back with what is ready, as it would have, or it
fails. -/
theorem fill_of_closed {feed : Feed} {i : Intake}
    (filled : fill kind live need false feed = some i) :
    i.isOpen = false ∧ ((∃ fault, i.result = .error fault) ∨
      ∃ j, fill kind live need true feed = some j ∧ j.result = i.result) := by
  induction feed with
  | nil =>
    rw [fill, Bool.and_false, if_neg Bool.false_ne_true] at filled
    cases filled
    exact ⟨rfl, .inl ⟨_, rfl⟩⟩
  | cons e feed ih =>
    cases e with
    | data bytes =>
      rw [fill] at filled ⊢
      split at filled
      · next none =>
        rw [if_pos none]
        exact ih filled
      · next some =>
        split at filled
        · next enough =>
          cases filled
          rw [if_neg some, if_pos enough]
          exact ⟨rfl, .inr ⟨_, rfl, rfl⟩⟩
        · cases filled
          exact ⟨rfl, .inl ⟨_, rfl⟩⟩
    | interrupted | idle =>
      cases filled
      exact ⟨rfl, .inl ⟨_, rfl⟩⟩
    | failed | ended =>
      cases filled
      exact ⟨rfl, .inl ⟨_, rfl⟩⟩
    | closed =>
      rw [fill] at filled ⊢
      have shut := (ih filled).1
      exact ⟨shut, .inr ⟨i, filled, rfl⟩⟩

end Transport

namespace Feed

open Transport

variable {kind : Kind} {live : Bool} {need : Nat}

/-- What a read comes to before the transport is closed, it comes to without that. -/
theorem CutShort.fill {feed short : Feed} {i : Intake} (cut : feed.CutShort short)
    (wanted : 0 < need) (filled : Transport.fill kind live need true short = some i) :
    (i.isOpen = false ∧ ∃ fault, i.result = .error fault) ∨
      ∃ j, Transport.fill kind live need true feed = some j ∧ j.result = i.result ∧
        (i.isOpen = false ∨
          j.isOpen = true ∧ i.isOpen = true ∧ CutShort j.feed i.feed) := by
  induction cut generalizing need i with
  | under feed =>
    rw [Transport.fill] at filled
    obtain ⟨shut, fails | ⟨j, same, result⟩⟩ := fill_of_closed filled
    · exact .inl ⟨shut, fails⟩
    · exact .inr ⟨j, same, result, .inl shut⟩
  | between feed =>
    cases filled
    exact .inl ⟨rfl, _, rfl⟩
  | @later feed short e stays cut ih =>
    cases e with
    | data bytes =>
      rcases Nat.lt_or_ge bytes.length need with less | enough
      · rw [fill_data_of_lt less] at filled ⊢
        obtain ⟨i', inner, rfl⟩ := Option.map_eq_some_iff.1 filled
        rcases ih (by omega) inner with ⟨shut, fault, fails⟩ | ⟨j, same, result, kept⟩
        · exact .inl ⟨shut, fault, by rw [Intake.after, fails]; rfl⟩
        · rw [same]
          exact .inr ⟨_, rfl, by rw [Intake.after, Intake.after, result], kept⟩
      · rw [fill_data_of_le wanted enough] at filled ⊢
        cases filled
        exact .inr ⟨_, rfl, rfl, .inr ⟨rfl, rfl, cut.cons _⟩⟩
    | interrupted | idle =>
      rw [Transport.fill, if_pos rfl] at filled ⊢
      exact ih wanted filled
    | failed cause =>
      cases filled
      exact .inr ⟨_, rfl, rfl, .inr ⟨rfl, rfl, cut⟩⟩
    | ended =>
      cases filled
      refine .inr ⟨_, rfl, rfl, ?_⟩
      cases openAfterEnd kind true with
      | false => exact .inl rfl
      | true => exact .inr ⟨rfl, rfl, cut⟩
    | closed => exact absurd rfl stays
  | @within rest short front back more cut ih =>
    rcases Nat.lt_or_ge front.length need with less | enough
    · have joined : Feed.push front (.data back :: rest) = .data (front ++ back) :: rest := rfl
      rw [fill_data_of_lt less] at filled
      rw [← joined, fill_push_of_lt less]
      obtain ⟨i', inner, rfl⟩ := Option.map_eq_some_iff.1 filled
      rcases ih (by omega) inner with ⟨shut, fault, fails⟩ | ⟨j, same, result, kept⟩
      · exact .inl ⟨shut, fault, by rw [Intake.after, fails]; rfl⟩
      · rw [same]
        exact .inr ⟨_, rfl, by rw [Intake.after, Intake.after, result], kept⟩
    · have long : need ≤ (front ++ back).length := by
        rw [List.length_append]
        omega
      rw [fill_data_of_le wanted enough] at filled
      rw [fill_data_of_le wanted long, List.take_append_of_le_length enough,
        List.drop_append_of_le_length enough]
      cases filled
      refine .inr ⟨_, rfl, rfl, .inr ⟨rfl, rfl, ?_⟩⟩
      by_cases none : front.drop need = []
      · rw [none, cons_nil, List.nil_append, cons_of_ne_nil more]
        exact cut
      · rw [cons_of_ne_nil none, cons_of_ne_nil (by simp [none])]
        exact .within _ more cut

end Feed

/-! ## Reads -/

namespace Transport

variable {t u u' : Transport} {n : Nat}

/-- A transport is open as long as it is with its owner closing it at some point. -/
theorem CutShort.isOpen (cut : t.CutShort u) (stays : u.isOpen = true) : t.isOpen = true := by
  cases cut with
  | never | ahead => exact stays
  | closed shut =>
    rw [shut] at stays
    cases stays

theorem readExact_of_closed {result : Except Fault (List UInt8)} (shut : u.isOpen = false)
    (wanted : 0 < n) (read : u.readExact n = some (result, u')) :
    result = .error .closed ∧ u' = u := by
  rw [Transport.readExact, if_neg (Nat.ne_of_gt wanted), shut, if_neg Bool.false_ne_true] at read
  cases read
  exact ⟨rfl, rfl⟩

/-- What is read of the transport that is closed, be it bytes or a failure, is what would be read
without that, or the read has failed and the transport is closed. -/
theorem CutShort.readExact {result : Except Fault (List UInt8)} (cut : t.CutShort u)
    (wanted : 0 < n) (read : u.readExact n = some (result, u')) :
    (u'.isOpen = false ∧ ∃ fault, result = .error fault) ∨
      ∃ t', t.readExact n = some (result, t') ∧ t'.CutShort u' := by
  have closed (shut : u.isOpen = false) : u'.isOpen = false ∧ ∃ fault, result = .error fault := by
    obtain ⟨rfl, rfl⟩ := readExact_of_closed shut wanted read
    exact ⟨shut, _, rfl⟩
  cases cut with
  | never => exact .inr ⟨u', read, .never⟩
  | closed shut => exact .inl (closed shut)
  | @ahead short cut =>
    cases isOpen : t.isOpen with
    | false => exact .inl (closed isOpen)
    | true =>
      unfold Transport.readExact at read ⊢
      rw [if_neg (Nat.ne_of_gt wanted)] at read ⊢
      rw [isOpen, if_pos rfl] at read ⊢
      obtain ⟨i, filled, told⟩ := Option.map_eq_some_iff.1 read
      cases told
      rcases cut.fill wanted filled with fails | ⟨j, same, result, shut | ⟨before, after, cut⟩⟩
      · exact .inl fails
      · rw [same, Option.map_some, result]
        exact .inr ⟨_, rfl, .closed shut⟩
      · rw [same, Option.map_some, result]
        refine .inr ⟨_, rfl, ?_⟩
        rw [before, after]
        exact .ahead cut

end Transport

/-! ## Cycles -/

namespace Scan

open Transport

variable {t u u' : Transport} {sizes : CommandSizes} {s : Scanner} {c : Cycle}
  {noise : List UInt8}

theorem yields_cutShort : Yields Transport.CutShort := by
  intro t u u' n bytes cut read
  rcases Nat.eq_zero_or_pos n with rfl | wanted
  · rw [Transport.readExact, if_pos rfl] at read ⊢
    cases read
    exact ⟨t, rfl, cut⟩
  · rcases cut.readExact wanted read with ⟨-, fault, fails⟩ | same
    · cases fails
    · exact same

theorem Yields.passes {R : Transport → Transport → Prop} (yields : Yields R) (related : R t u)
    (passed : Passes u noise u') : ∃ t', Passes t noise t' ∧ R t' u' := by
  induction passed generalizing t with
  | nil u => exact ⟨t, .nil t, related⟩
  | cons other read _ ih =>
    obtain ⟨t₁, read', related₁⟩ := yields related read
    obtain ⟨t', passed', related'⟩ := ih related₁
    exact ⟨t', .cons other read' passed', related'⟩

/-- A cycle that breaks off on a transport that stays open breaks off with the same read if the
transport is not closed later on. -/
theorem Breaks.of_cutShort {place : State} {fault : Transport.Fault} (cut : t.CutShort u)
    (breaks : Breaks sizes u place noise fault u') (isOpen : u'.isOpen = true) :
    ∃ t', Breaks sizes t place noise fault t' ∧ t'.CutShort u' := by
  have failing {t₁ u₁ : Transport} {n : Nat} (cut : t₁.CutShort u₁) (wanted : 0 < n)
      (read : u₁.readExact n = some (.error fault, u')) :
      ∃ t', t₁.readExact n = some (.error fault, t') ∧ t'.CutShort u' := by
    rcases cut.readExact wanted read with ⟨shut, -⟩ | same
    · rw [shut] at isOpen
      cases isOpen
    · exact same
  cases breaks with
  | seeking passed read =>
    obtain ⟨t₁, passed', cut₁⟩ := yields_cutShort.passes cut passed
    obtain ⟨t', read', cut'⟩ := failing cut₁ Nat.one_pos read
    exact ⟨t', .seeking passed' read', cut'⟩
  | header passed marked read =>
    obtain ⟨t₁, passed', cut₁⟩ := yields_cutShort.passes cut passed
    obtain ⟨t₂, marked', cut₂⟩ := yields_cutShort cut₁ marked
    obtain ⟨t', read', cut'⟩ := failing cut₂ (by decide) read
    exact ⟨t', .header passed' marked' read', cut'⟩
  | body passed marked headed entry read =>
    obtain ⟨t₁, passed', cut₁⟩ := yields_cutShort.passes cut passed
    obtain ⟨t₂, marked', cut₂⟩ := yields_cutShort cut₁ marked
    obtain ⟨t₃, headed', cut₃⟩ := yields_cutShort cut₂ headed
    obtain ⟨t', read', cut'⟩ := failing cut₃ (Nat.succ_pos _) read
    exact ⟨t', .body passed' marked' headed' entry read', cut'⟩

/-- A cycle that ends with an event, although the transport may be closed under way, ends with it
also when the transport is not. -/
theorem step_of_cutShort {e : Event} (cut : t.CutShort u) (step : s.step sizes u = some c)
    (ends : c.result = .ok e) :
    ∃ t', s.step sizes t = some { c with transport := t' } ∧ t'.CutShort c.transport := by
  by_cases failed : ∃ stage reason, e = .discarded (.readFailed stage reason)
  · obtain ⟨stage, reason, rfl⟩ := failed
    obtain ⟨place, noise, cause, breaks, inside, isOpen, -⟩ := breaks_of_readFailed step ends
    obtain ⟨t', breaks', cut'⟩ := breaks.of_cutShort cut isOpen
    refine ⟨t', ?_, cut'⟩
    -- Both transports are open behind the read that failed, so it costs the frame on both.
    have same := eq_brokenOff step breaks
    rw [inside.brokenOff, isOpen] at same
    rw [step_of_breaks breaks', inside.brokenOff, cut'.isOpen isOpen, same]
    rfl
  · refine yields_cutShort.step cut step ends ?_
    rintro stage reason rfl
    exact failed ⟨stage, reason, rfl⟩

end Scan

end SerialLink
