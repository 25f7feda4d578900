import Mathlib.Logic.Relation
import SerialLink.Command.Listen

/-!
# Listening beside a worker

The loop of `listen` and the worker whose records it shows go on side by side. A poll that brings no
record looks at the worker a moment later, and by then the worker may have sent more and ended
(`Listen.Meets`). In whatever order they go on, the loop loses no record and changes no order; it
ends with all of them unless its own polls have brought enough before (`Listen.receive_of_meets`).
-/

namespace SerialLink.Listen

/-- A worker as the loop sees it: the records that it sends before it ends, and those that it has
sent and that were not received. -/
structure Sender where
  unsent : List Record
  queue : List Record := []
  ended : Bool := false

namespace Sender

variable {w w' : Sender}

/-- What the loop has still to receive. -/
def left (w : Sender) : List Record :=
  w.queue ++ w.unsent

/-- Everything was sent before the end. -/
def Sound (w : Sender) : Prop :=
  w.ended = true → w.unsent = []

/-- The worker goes on by one record, or ends. -/
inductive Step : Sender → Sender → Prop where
  | sends {r : Record} {unsent queue : List Record} :
      Step ⟨r :: unsent, queue, false⟩ ⟨unsent, queue ++ [r], false⟩
  | ends {queue : List Record} : Step ⟨[], queue, false⟩ ⟨[], queue, true⟩

/-- The worker goes on. -/
abbrev Steps : Sender → Sender → Prop :=
  Relation.ReflTransGen Step

theorem left_of_steps (steps : Steps w w') : w'.left = w.left := by
  induction steps with
  | refl => rfl
  | tail _ step ih =>
    rw [← ih]
    cases step <;> simp [left]

theorem sound_of_steps (steps : Steps w w') (sound : w.Sound) : w'.Sound := by
  induction steps with
  | refl => exact sound
  | tail _ step _ =>
    cases step with
    | sends => exact nofun
    | ends => exact fun _ => rfl

end Sender

/-- What a loop can meet beside a worker, up to a look that finds it ended. -/
inductive Meets : Sender → List Poll → Prop where
  /-- the loop is not followed any further -/
  | stops {w : Sender} : Meets w []
  | goesOn {w w' : Sender} {polls : List Poll} (step : w.Step w') (later : Meets w' polls) :
      Meets w polls
  | receives {r : Record} {unsent queue : List Record} {ended : Bool} {polls : List Poll}
      (later : Meets ⟨unsent, queue, ended⟩ polls) :
      Meets ⟨unsent, r :: queue, ended⟩ (.record r :: polls)
  /-- the queue is empty when the waiting is over; the worker goes on before it is looked at -/
  | waits {unsent unsent' late : List Record} {ended overdue : Bool} {polls : List Poll}
      (steps : Sender.Steps ⟨unsent, [], ended⟩ ⟨unsent', late, false⟩)
      (later : Meets ⟨unsent', late, false⟩ polls) :
      Meets ⟨unsent, [], ended⟩ (.quiet late false overdue :: polls)
  /-- the same, and the worker ends before it is looked at -/
  | last {unsent unsent' late : List Record} {ended overdue : Bool}
      (steps : Sender.Steps ⟨unsent, [], ended⟩ ⟨unsent', late, true⟩) :
      Meets ⟨unsent, [], ended⟩ [.quiet late true overdue]

namespace Poll

/-- The poll brings a record. -/
def isRecord : Poll → Bool
  | record _ => true
  | quiet .. => false

/-- The look behind the poll finds that the worker has ended. -/
def findsEnd : Poll → Bool
  | record _ => false
  | quiet _ ended _ => ended

end Poll

/-- As many records as the polls themselves bring. -/
def received (polls : List Poll) : Nat :=
  polls.countP Poll.isRecord

/-- What comes of a loop, with `shown` records shown before, beside a worker with `left` to receive. -/
def outcome (count : Option Nat) (shown : Nat) (left : List Record) (polls : List Poll) :
    List Record × Finish :=
  if enough count (shown + received polls) then (left.take (count.getD 0 - shown), .done)
  else if polls.any Poll.findsEnd then (left, .workerEnded)
  else (left.take (received polls), .done)

section

variable {count : Option Nat} {shown : Nat}

theorem enough_add (reached : enough count shown = true) (more : Nat) :
    enough count (shown + more) = true := by
  cases count with
  | none => exact reached
  | some n =>
    simp only [enough, Option.any_some, decide_eq_true_eq] at reached ⊢
    exact Nat.le_add_right_of_le reached

/-- Once enough were shown, no more are. -/
theorem receive_of_enough (reached : enough count shown = true) (polls : List Poll) :
    receive count none shown polls = ([], .done) := by
  cases polls with
  | nil => rfl
  | cons poll polls => simp only [receive, if_pos reached]

theorem outcome_of_enough (reached : enough count shown = true) (left : List Record)
    (polls : List Poll) : outcome count shown left polls = ([], .done) := by
  have none : count.getD 0 - shown = 0 := by
    cases count with
    | none => exact Nat.zero_sub shown
    | some n => simpa [enough, Nat.sub_eq_zero_iff_le] using reached
  rw [outcome, if_pos (enough_add reached _), none, List.take_zero]

/-- Only a loop that has not shown enough is to be looked at. -/
theorem receive_eq_outcome {left : List Record} {polls : List Poll}
    (goesOn : ¬enough count shown = true →
      receive count none shown polls = outcome count shown left polls) :
    receive count none shown polls = outcome count shown left polls := by
  by_cases reached : enough count shown = true
  · rw [receive_of_enough reached, outcome_of_enough reached]
  · exact goesOn reached

/-- A record is shown in front of what comes behind it. -/
theorem outcome_record (more : ¬enough count shown = true) (r : Record) (left : List Record)
    (polls : List Poll) :
    outcome count shown (r :: left) (.record r :: polls) =
      (r :: (outcome count (shown + 1) left polls).1,
        (outcome count (shown + 1) left polls).2) := by
  have one : received (.record r :: polls) = received polls + 1 := List.countP_cons_of_pos rfl
  have all : shown + received (.record r :: polls) = shown + 1 + received polls := by
    rw [one, Nat.add_assoc, Nat.add_comm 1]
  have same : (Poll.record r :: polls).any Poll.findsEnd = polls.any Poll.findsEnd := rfl
  rw [outcome, outcome, all, same]
  split
  · next reached =>
    have room : count.getD 0 - shown = count.getD 0 - (shown + 1) + 1 := by
      cases count with
      | none => cases reached
      | some n =>
        simp only [enough, Option.any_some, decide_eq_true_eq] at more
        simp only [Option.getD_some]
        omega
    rw [room, List.take_succ_cons]
  · split
    · rfl
    · rw [one, List.take_succ_cons]

/-- What the loop shows, and how it ends. -/
theorem receive_of_meets {w : Sender} {polls : List Poll} (meets : Meets w polls)
    (sound : w.Sound) (count : Option Nat) (shown : Nat) :
    receive count none shown polls = outcome count shown w.left polls := by
  -- A step of the worker moves a record within what is left; only a poll takes one off it.
  induction meets generalizing shown with
  | stops => exact receive_eq_outcome fun more => by simp [receive, outcome, received, more]
  | goesOn step _ ih =>
    have steps := Relation.ReflTransGen.single step
    rw [ih (Sender.sound_of_steps steps sound), Sender.left_of_steps steps]
  | @receives r unsent queue ended polls _ ih =>
    refine receive_eq_outcome fun more => ?_
    rw [Sender.left, List.cons_append, outcome_record more]
    simp only [receive, if_neg more, ih sound]
    rfl
  | waits steps _ ih =>
    refine receive_eq_outcome fun more => ?_
    simp only [receive, if_neg more, Bool.false_eq_true, if_false]
    rw [ih nofun, Sender.left_of_steps steps]
    rfl
  | @last unsent unsent' late ended overdue steps =>
    refine receive_eq_outcome fun more => ?_
    have none : unsent' = [] := Sender.sound_of_steps steps sound rfl
    have left := Sender.left_of_steps steps
    rw [none, Sender.left, List.append_nil] at left
    simp only [receive, if_neg more, if_true, ← left]
    simp [outcome, received, Poll.isRecord, Poll.findsEnd, more]

end

/-- **No record is lost, and no order changed.** Let a worker send some records and end, in whatever
order with a loop that is neither interrupted nor limited in its waiting. A loop without a limit that
finds the worker ended has shown all of the records. A loop with a limit has shown as many of them as
the limit says, and succeeds, if its own polls brought so many; if not, and it finds the worker
ended, it has shown all of them, which may be more than the limit. -/
theorem sent_records_are_shown {sent : List Record} {polls : List Poll}
    (meets : Meets ⟨sent, [], false⟩ polls) :
    (polls.any Poll.findsEnd = true → receive none none 0 polls = (sent, .workerEnded)) ∧
      ∀ n, (n ≤ received polls → receive (some n) none 0 polls = (sent.take n, .done)) ∧
        (received polls < n → polls.any Poll.findsEnd = true →
          receive (some n) none 0 polls = (sent, .workerEnded)) := by
  refine ⟨fun ends => ?_, fun n => ⟨fun reached => ?_, fun short ends => ?_⟩⟩
  all_goals rw [receive_of_meets meets nofun, outcome, Nat.zero_add]
  · rw [if_neg (by simp [enough]), if_pos ends]
    rfl
  · rw [if_pos (by simpa [enough] using reached)]
    rfl
  · rw [if_neg (by simpa [enough] using short), if_pos ends]
    rfl

/-- A worker that sends two records and ends while the loop turns from the queue to it has the loop
show both, though one was asked for. -/
theorem two_records_behind_the_last_poll (r r' : Record) (overdue : Bool) :
    Meets ⟨[r, r'], [], false⟩ [.quiet [r, r'] true overdue] ∧
      receive (some 1) none 0 [.quiet [r, r'] true overdue] = ([r, r'], .workerEnded) :=
  ⟨.last (.tail (.tail (.single .sends) .sends) .ends), rfl⟩

/-- The polls that the command goes by are met beside a worker that ends by itself. -/
theorem meets_settledPolls {e : Engine Tap} (ended : e.receiving = false) :
    Meets ⟨e.state.records, [], false⟩ (settledPolls e) := by
  rw [settledPolls, ended]
  induction e.state.records with
  | nil => exact .last (.single .ends)
  | cons r records ih => exact .goesOn .sends (.receives ih)

end SerialLink.Listen
