import SerialLink.Host.Tree
import SerialLink.Proofs.Command.Decoding
import SerialLink.Proofs.Message.Stream

/-!
# Captures that were written by `encode`

`encode` writes a file or behind one, and `decode` reads what was written. Files are a parameter
here: a disk shows a host and is changed by writes (`Host.Disk`), and some of its paths may lead to
one file (`Host.Disk.OneFile`), as those of a tree do that lead to one name
(`Host.Tree.oneFile_of_proper`). The noise of `encode` holds no marker (`Command.noise_clean`), and
a message behind it can always be encoded. One command keeps what the file holds and adds to it
(`Host.Disk.step_append`), so a sequence does (`Host.Disk.holds_of_appends`), and what the file
holds is a stream of messages, of which `decode` has them all (`Command.decoded_of_stream`).
-/

namespace SerialLink

/-! ## Files -/

namespace Host

theorem openForWriting_of_file {host : Host} {path : String} {bytes : List UInt8}
    (bare : withoutEnd path = path) (found : host.find path = .ok (.file bytes)) :
    host.openForWriting path = .ok (.file bytes) := by
  rw [openForWriting, bare, found]
  simp [bind, Except.bind]

/-- Files that can be written, by their states. -/
structure Disk (σ : Type) where
  host : σ → Host
  write : σ → String → List UInt8 → σ

namespace Disk

variable {σ : Type}

/-- Runs a command line over the files, in surroundings that have any host, and writes what it
leaves to be written. -/
def run (d : Disk σ) (s : σ) (around : Surroundings) (i : Invocation) : Outcome × σ :=
  let outcome := CommandLine.execute { around with host := d.host s } i
  match outcome.written with
  | none => (outcome, s)
  | some (path, bytes) => (outcome, d.write s path bytes)

/-- Runs command lines one after the other. -/
def runAll (d : Disk σ) (s : σ) : List (Surroundings × Invocation) → List Outcome × σ
  | [] => ([], s)
  | (around, i) :: later =>
    let (outcome, s) := d.run s around i
    let (outcomes, s) := d.runAll s later
    (outcome :: outcomes, s)

/-- Some paths lead to one file: what is written at one of them is found at all of them. -/
structure OneFile (d : Disk σ) (leads : String → Prop) : Prop where
  bare : ∀ path, leads path → withoutEnd path = path
  finds : ∀ s path other bytes, leads path → leads other →
    (d.host (d.write s path bytes)).find other = .ok (.file bytes)

/-- The file that some paths lead to holds these bytes. -/
def Holds (d : Disk σ) (leads : String → Prop) (s : σ) (bytes : List UInt8) : Prop :=
  ∀ path, leads path → (d.host s).find path = .ok (.file bytes)

end Disk

/-! ### Trees -/

namespace Tree

/-- A tree with what is written to its working directory. -/
def disk : Disk Tree :=
  ⟨host, write⟩

/-- A name that a file can have. -/
structure Proper (name : String) : Prop where
  some : name ≠ ""
  notHere : name ≠ "."
  notAbove : name ≠ ".."
  fits : name.utf8ByteSize ≤ maxName

/-- A path from the working directory that leads to a name in it. -/
structure LeadsTo (name path : String) : Prop where
  noNul : path.toList.any (·.toNat == 0) = false
  fits : path.utf8ByteSize ≤ maxPath
  relative : path.toList.head? ≠ some '/'
  bare : withoutEnd path = path
  ends : ∃ dots, parts path = dots ++ [name] ∧ ∀ dot ∈ dots, dot = "" ∨ dot = "."

/-- Parts that lead nowhere else are passed over. -/
theorem follow_dots (t : Tree) (d : Directory) {dots : List String}
    (stay : ∀ dot ∈ dots, dot = "" ∨ dot = ".") (rest : List String) :
    t.follow d (dots ++ rest) = t.follow d rest := by
  induction dots with
  | nil => rfl
  | cons dot dots ih =>
    rw [List.cons_append, follow, if_pos (stay dot List.mem_cons_self),
      ih fun later member => stay later (List.mem_cons_of_mem dot member)]

theorem write_eq {name path : String} (proper : Proper name) (leads : LeadsTo name path) (t : Tree)
    (bytes : List UInt8) :
    t.write path bytes =
      { t with files := (name, bytes) :: t.files.filter (·.1 != name) } := by
  obtain ⟨dots, ends, stay⟩ := leads.ends
  have named : (parts path).filter (fun part => part ≠ "" ∧ part ≠ ".") = [name] := by
    rw [ends, List.filter_append, List.filter_eq_nil_iff.2, List.nil_append,
      List.filter_singleton]
    · simp [proper.some, proper.notHere]
    · intro dot member
      rcases stay dot member with rfl | rfl <;> decide
  rw [write, if_neg leads.relative, named]

theorem find_eq {name path : String} (proper : Proper name) (leads : LeadsTo name path) {t : Tree}
    {bytes : List UInt8} (there : t.files.lookup name = some bytes) :
    t.host.find path = .ok (.file bytes) := by
  obtain ⟨dots, ends, stay⟩ := leads.ends
  have some : path ≠ "" := by
    rintro rfl
    have nothing : parts "" = [] ++ [""] := rfl
    rw [nothing] at ends
    exact proper.some (List.singleton_inj.1 (List.append_inj_right' ends rfl)).symm
  have followed : t.follow .working [name] = .ok (.file bytes) := by
    rw [follow, if_neg (by simp [proper.some, proper.notHere]), if_neg proper.notAbove,
      if_neg (Nat.not_lt.2 proper.fits), entry, there]
    rfl
  rw [find, leads.noNul, host]
  simp only [Bool.false_eq_true, if_false, if_neg some, if_neg (Nat.not_lt.2 leads.fits),
    if_neg leads.relative]
  rw [ends, follow_dots t .working stay, followed]
  rfl

/-- All paths that lead to a name lead to one file. -/
theorem oneFile_of_proper {name : String} (proper : Proper name) :
    disk.OneFile (LeadsTo name) where
  bare _ leads := leads.bare
  finds t path other bytes leads leads' := by
    refine find_eq proper leads' ?_
    show (t.write path bytes).files.lookup name = some bytes
    rw [write_eq proper leads, List.lookup_cons_self]

end Tree

end Host

/-! ## What `decode` makes of a stream of messages -/

namespace MessageKind

theorem fitting_sizes : Scan.Fitting sizes := by
  intro kind size known
  cases kind <;> exact (Option.some.inj known).symm

theorem known_sizes (m : Message) : m.known sizes = true := by
  rw [Message.known]
  cases m.kind <;> rfl

end MessageKind

namespace Wire.Frame

theorem carries_request (m : Message) : m.request.frame.Carries m :=
  ⟨rfl, rfl⟩

/-- A frame carries one message. -/
theorem Carries.unique {f : Frame} {m m' : Message} (carries : f.Carries m)
    (carries' : f.Carries m') : m = m' := by
  have kind : m.kind = m'.kind :=
    MessageKind.command_injective (carries.command.symm.trans carries'.command)
  have body : m.body = m'.body := carries.body.symm.trans carries'.body
  have reads := MessageKind.ofBody_body m
  rw [kind, body, MessageKind.ofBody_body m'] at reads
  exact (Except.ok.inj reads).symm

end Wire.Frame

namespace Scan

/-- The frames of a stream of messages carry the messages, in order, and nothing is dropped. -/
theorem frames_of_stream {messages : List (List UInt8 × Message)} {last : List UInt8}
    (clean : ∀ p ∈ messages, Noise p.1) (cleanLast : Noise last) {t : Transport}
    (steady : t.Steady) (received : Message.stream messages last = .ok t.feed.bytes) :
    let cycles := Scanner.cycles MessageKind.sizes {} t
    frames cycles = messages.map (·.2.request.frame) ∧
      (scannerBehind {} cycles).stats =
        { frames := messages.length
          bytesSkipped := (messages.flatMap Prod.fst).length + last.length } := by
  intro cycles
  obtain ⟨results, scanner⟩ :=
    cycles_of_stream MessageKind.fitting_sizes clean cleanLast steady received {}
  constructor
  · rw [frames_of_results results, List.filterMap_map, ← List.filterMap_eq_map]
    congr 1
    funext p
    simp [Message.event, MessageKind.known_sizes, Event.frame?]
  · rw [scannerBehind, scanner, foldl_count_event]
    simp [MessageKind.known_sizes, Stats.skip]

end Scan

namespace Command

/-- `decode` has the messages of a stream, in order, and drops nothing. -/
theorem decoded_of_stream {host : Host} {file : String} {bytes : List UInt8}
    (found : host.find file = .ok (.file bytes)) {messages : List (List UInt8 × Message)}
    {last : List UInt8} (clean : ∀ p ∈ messages, Scan.Noise p.1) (cleanLast : Scan.Noise last)
    (written : Message.stream messages last = .ok bytes) (clock : Nat → UInt64) :
    ∃ tap report, receiveCapture host clock file = .ok (tap, report) ∧
      tap.records = Record.handled clock (messages.map Prod.snd) ∧
      tap.store = .replayed tap.records ∧
      report.stats =
        { frames := messages.length
          bytesSkipped := (messages.flatMap Prod.fst).length + last.length } ∧
      report.handlerFailures = 0 := by
  have readable : host.capture file = .ok (.replay file (Feed.ofBytes bytes)) := by
    rw [Host.capture, Host.feedOf, found]
    rfl
  have steady : (Transport.replay file (Feed.ofBytes bytes)).Steady :=
    ⟨fun _ => rfl, rfl, Feed.smooth_ofBytes bytes⟩
  have whole : Message.stream messages last =
      .ok (Transport.replay file (Feed.ofBytes bytes)).feed.bytes := by
    rw [written]
    exact congrArg Except.ok (Feed.bytes_ofBytes bytes).symm
  obtain ⟨frames, stats⟩ := Scan.frames_of_stream clean cleanLast steady whole
  obtain ⟨carried, tap, report, received, decodes⟩ := exists_decoded readable clock
  have carries : List.Forall₂ Wire.Frame.Carries (messages.map (·.2.request.frame))
      (messages.map Prod.snd) := by
    rw [List.forall₂_map_left_iff, List.forall₂_map_right_iff, List.forall₂_same]
    exact fun p _ => Wire.Frame.carries_request p.2
  have same : carried = messages.map Prod.snd :=
    List.right_unique_forall₂' (fun _ _ _ one other => one.unique other) (frames ▸ decodes.carried)
      carries
  exact ⟨tap, report, received, same ▸ decodes.records, decodes.store, decodes.stats.trans stats,
    decodes.failures⟩

/-! ## What `encode` writes -/

@[simp] theorem length_noise (count : Nat) : (noise count).length = count := by
  simp [noise]

theorem noise_clean (count : Nat) : Scan.Noise (noise count) := by
  intro member
  obtain ⟨i, -, isMarker⟩ := List.mem_map.1 member
  dsimp only at isMarker
  -- A marker among the bytes was replaced by a zero.
  split at isMarker
  · exact absurd isMarker (by decide)
  · next other => exact other isMarker

/-- A message that is encoded to a path, with noise in front, by a command line in surroundings of
which any host is taken. -/
structure Writing where
  path : String
  count : Nat
  message : Message
  format : Option Format
  around : Surroundings

namespace Writing

/-- The command line. -/
def call (w : Writing) (append : Bool) : Surroundings × Invocation :=
  (w.around, ⟨.encode (some w.path) append w.count w.message, w.format⟩)

/-- The message behind its noise. -/
def piece (w : Writing) : List UInt8 × Message :=
  (noise w.count, w.message)

/-- What is written. -/
def bytes (w : Writing) : List UInt8 :=
  noise w.count ++ w.message.request.bytes

/-- The noise in front of some messages. -/
def skipped (writings : List Writing) : Nat :=
  writings.foldl (fun total w => total + w.count) 0

theorem stream_pieces (writings : List Writing) :
    Message.stream (writings.map piece) [] = .ok (writings.flatMap bytes) := by
  rw [Scan.stream_eq, List.append_nil, Scan.Cut.join, Scan.pieces, List.map_map,
    List.flatMap_map]
  rfl

theorem clean_pieces (writings : List Writing) :
    ∀ p ∈ writings.map piece, Scan.Noise p.1 := by
  intro p member
  obtain ⟨w, -, rfl⟩ := List.mem_map.1 member
  exact noise_clean w.count

theorem length_noise_pieces (writings : List Writing) :
    ((writings.map piece).flatMap Prod.fst).length = skipped writings := by
  have behind (total : Nat) : writings.foldl (fun total w => total + w.count) total =
      total + ((writings.map piece).flatMap Prod.fst).length := by
    induction writings generalizing total with
    | nil => rfl
    | cons w writings ih => simp [ih, piece, Nat.add_assoc]
  rw [skipped, behind, Nat.zero_add]

end Writing

end Command

namespace Host.Disk

open Command

variable {σ : Type} {d : Disk σ} {leads : String → Prop} {s : σ} {w : Writing} {bytes : List UInt8}

/-- `encode` writes and succeeds where its path can be opened. -/
theorem run_call {append : Bool}
    (opened : contents (d.host s) w.path append w.bytes = .ok bytes) :
    (d.run s (w.call append).1 (w.call append).2).1.code = 0 ∧
      (d.run s (w.call append).1 (w.call append).2).2 = d.write s w.path bytes := by
  have ran (format : Format) : runEncode (d.host s) format (some w.path) append w.count w.message =
      .ok { output := Encoded.shown ⟨w.message.kind.name, w.message.kind.command, w.bytes⟩ format
            written := some (w.path, bytes) } := by
    rw [Writing.bytes] at opened
    simp only [runEncode, w.message.encode_eq, Except.mapError, bind, Except.bind, opened]
    rfl
  rw [run, Writing.call, CommandLine.execute]
  simp only [ran]
  exact ⟨rfl, rfl⟩

/-- The file then holds what the command was to write. -/
theorem holds_of_call (one : d.OneFile leads) (named : leads w.path) {append : Bool}
    (opened : contents (d.host s) w.path append w.bytes = .ok bytes) :
    (d.run s (w.call append).1 (w.call append).2).1.code = 0 ∧
      d.Holds leads (d.run s (w.call append).1 (w.call append).2).2 bytes := by
  obtain ⟨code, state⟩ := run_call opened
  refine ⟨code, fun path other => ?_⟩
  rw [state]
  exact one.finds s w.path path bytes named other

/-- A first `encode` has the file hold what it writes. -/
theorem step_first (one : d.OneFile leads) (named : leads w.path)
    (opens : (d.host s).openForWriting w.path = .ok .vacant ∨
      ∃ old, (d.host s).openForWriting w.path = .ok (.file old)) :
    (d.run s (w.call false).1 (w.call false).2).1.code = 0 ∧
      d.Holds leads (d.run s (w.call false).1 (w.call false).2).2 w.bytes := by
  refine holds_of_call one named ?_
  rcases opens with new | ⟨old, there⟩
  · rw [contents, new]
    rfl
  · rw [contents, there]
    rfl

/-- An `encode` that appends has the file hold what it writes behind what was there. -/
theorem step_append (one : d.OneFile leads) (named : leads w.path)
    (holds : d.Holds leads s bytes) :
    (d.run s (w.call true).1 (w.call true).2).1.code = 0 ∧
      d.Holds leads (d.run s (w.call true).1 (w.call true).2).2 (bytes ++ w.bytes) := by
  refine holds_of_call one named ?_
  rw [contents, openForWriting_of_file (one.bare w.path named) (holds w.path named)]
  rfl

theorem holds_of_appends (one : d.OneFile leads) {others : List Writing}
    (named : ∀ w ∈ others, leads w.path) (holds : d.Holds leads s bytes) :
    (∀ outcome ∈ (d.runAll s (others.map (·.call true))).1, outcome.code = 0) ∧
      d.Holds leads (d.runAll s (others.map (·.call true))).2
        (bytes ++ others.flatMap Writing.bytes) := by
  -- Each command finds the file as those before it have left it.
  induction others generalizing s bytes with
  | nil => exact ⟨nofun, by simpa [runAll] using holds⟩
  | cons w others ih =>
    obtain ⟨code, holds⟩ := step_append one (named w List.mem_cons_self) holds
    obtain ⟨codes, holds⟩ := ih (fun w later => named w (List.mem_cons_of_mem _ later)) holds
    refine ⟨?_, ?_⟩
    · intro outcome member
      rcases List.mem_cons.1 member with rfl | later
      · exact code
      · exact codes outcome later
    · rw [List.flatMap_cons, ← List.append_assoc]
      exact holds

/-- `decode` shows what it has of the files and writes nothing. -/
theorem run_decode {around : Surroundings} {asked : Option Format} {file text : String}
    {series strict : Bool}
    (decodes : runDecode (d.host s) around.clock (asked.getD around.format) file series strict =
      .ok { output := text }) :
    d.run s around ⟨.decode file series strict, asked⟩ = ({ output := text }, s) := by
  rw [run, CommandLine.execute]
  simp only [decodes]
  rfl

end Host.Disk

namespace Command

/-- **What is captured is decoded.** Let some messages be encoded to one file, at whatever of its
paths and behind as much noise as is asked for, first to a new file or in place of an old one and
then behind what is there. All of the commands succeed, and the file holds the noise and the frames,
one behind the other. `decode` with `strict` or without then has of the file a record for each
message, in order, with the message's identifier, its text, the bits of its numbers and the moment
at which it was handled. It prints these records, the series if asked for and its report, and
succeeds; the report counts as many frames, the noise as skipped, and nothing else. -/
theorem captures_are_decoded {σ : Type} {d : Host.Disk σ} {leads : String → Prop}
    (one : d.OneFile leads) {s : σ} {first : Writing} (others : List Writing)
    (named : ∀ w ∈ first :: others, leads w.path)
    (opens : (d.host s).openForWriting first.path = .ok .vacant ∨
      ∃ old, (d.host s).openForWriting first.path = .ok (.file old)) :
    let ran := d.runAll s (first.call false :: others.map (·.call true))
    (∀ outcome ∈ ran.1, outcome.code = 0) ∧
      (∃ bytes, Message.stream ((first :: others).map Writing.piece) [] = .ok bytes ∧
        d.Holds leads ran.2 bytes) ∧
      ∀ (file : String) (around : Surroundings) (asked : Option Format) (series strict : Bool),
        leads file →
          let outcome := (d.run ran.2 around ⟨.decode file series strict, asked⟩).1
          let records := Record.handled around.clock ((first :: others).map Writing.message)
          ∃ tap report, receiveCapture (d.host ran.2) around.clock file = .ok (tap, report) ∧
            tap.records = records ∧
            Prints (asked.getD around.format) file records report series outcome.output ∧
            outcome.code = 0 ∧
            report.stats =
              { frames := (first :: others).length
                bytesSkipped := Writing.skipped (first :: others) } ∧
            report.handlerFailures = 0 := by
  intro ran
  obtain ⟨code, holds⟩ := Host.Disk.step_first one (named first List.mem_cons_self) opens
  obtain ⟨codes, holds⟩ := Host.Disk.holds_of_appends one
    (fun w later => named w (List.mem_cons_of_mem first later)) holds
  have written := Writing.stream_pieces (first :: others)
  rw [List.flatMap_cons] at written
  refine ⟨?_, ⟨_, written, holds⟩, ?_⟩
  · intro outcome member
    rcases List.mem_cons.1 member with rfl | later
    · exact code
    · exact codes outcome later
  · intro file around asked series strict leadsFile outcome records
    obtain ⟨tap, report, received, kept, store, stats, failures⟩ :=
      decoded_of_stream (holds file leadsFile) (Writing.clean_pieces (first :: others))
        Scan.noise_nil written around.clock
    have messages : ((first :: others).map Writing.piece).map Prod.snd =
        (first :: others).map Writing.message := List.map_map
    have count : ((first :: others).map Writing.piece).length = (first :: others).length :=
      List.length_map Writing.piece
    rw [messages] at kept
    rw [Writing.length_noise_pieces, count] at stats
    have none : report.stats.discarded = 0 := by
      rw [stats]
      rfl
    have shown := runDecode_of_received received (asked.getD around.format) series strict
    rw [verdict, none] at shown
    simp only [bne_self_eq_false, Bool.and_false, Bool.false_eq_true, if_false] at shown
    have left := congrArg Prod.fst (Host.Disk.run_decode shown)
    refine ⟨tap, report, received, kept, ?_, congrArg Outcome.code left, stats, failures⟩
    have output : outcome.output = _ := congrArg Outcome.output left
    have printed := prints_decoded store (asked.getD around.format) file report series
    rw [kept] at printed
    exact output ▸ printed

/-- A label, a value that is no number and has marker bytes in it, and an apply message take the
place of an old file, at two paths that lead to it, and are decoded under a clock that goes on. -/
theorem captures_are_decoded_of_two_paths :
    let tree : Host.Tree := { files := [("b", [Wire.marker, 1])] }
    let around : Surroundings := { host := tree.host, clock := fun i => UInt64.ofNat (5 + i) }
    let term : ControlTerm := ⟨⟨1⟩, ⟨2⟩, ⟨3⟩⟩
    let first : Writing := ⟨"b", 7, .label 7 (.ofText "temp"), none, around⟩
    let others : List Writing :=
      [⟨"./b", 0, .update 7 ⟨0xFFC0A5A5⟩, some .table, around⟩,
        ⟨"b", 300, .apply term term term, none, around⟩]
    let ran := Host.Tree.disk.runAll tree (first.call false :: others.map (·.call true))
    let outcome := (Host.Tree.disk.run ran.2 around ⟨.decode "./b" false true, none⟩).1
    let records := [Record.label 7 "temp", .update 7 ⟨6, ⟨0xFFC0A5A5⟩⟩, .apply term term term]
    ∃ tap report, receiveCapture ran.2.host around.clock "./b" = .ok (tap, report) ∧
      tap.records = records ∧ Prints .json "./b" records report false outcome.output ∧
      outcome.code = 0 ∧ report.stats = { frames := 3, bytesSkipped := 307 } := by
  intro tree around term first others
  -- With the runs written out they are compared as they stand and not carried out.
  dsimp only
  have proper : Host.Tree.Proper "b" := ⟨by decide, by decide, by decide, by decide⟩
  have here : Host.Tree.LeadsTo "b" "b" :=
    ⟨by decide, by decide, by decide, by decide +kernel, [], by decide +kernel, nofun⟩
  have dotted : Host.Tree.LeadsTo "b" "./b" :=
    ⟨by decide, by decide, by decide, by decide +kernel, ["."], by decide +kernel, by simp⟩
  have named : ∀ w ∈ first :: others, Host.Tree.LeadsTo "b" w.path := by
    simp [first, others, here, dotted]
  have opens := Host.openForWriting_of_file here.bare
    (Host.Tree.find_eq proper here (t := tree) rfl)
  obtain ⟨-, -, decodes⟩ := captures_are_decoded (Host.Tree.oneFile_of_proper proper) others named
    (.inr ⟨_, opens⟩)
  obtain ⟨tap, report, received, kept, output, code, stats, -⟩ :=
    decodes "./b" around none false true dotted
  have records : Record.handled around.clock ((first :: others).map Writing.message) =
      [.label 7 "temp", .update 7 ⟨6, ⟨0xFFC0A5A5⟩⟩, .apply term term term] := by decide +kernel
  rw [records] at kept output
  exact ⟨tap, report, received, kept, output, code, stats⟩

end Command

end SerialLink
