import TrustRouter.Audit.Log
import TrustRouter.Proofs.Document.Reading
import TrustRouter.Proofs.Json.RoundTrip
import TrustRouter.Proofs.Text.Lines
import TrustRouter.Proofs.Text.Lossless

/-!
# Audit logs line by line

An audit log can be neither forged nor split: what a file sink writes is a line for each event that
passes, and these events can be had back from the lines (`Sink.unforgeable_of_file`). Events quote
names and texts of documents that nobody has checked, so this is about texts of all kinds.

* **Which events pass** does not depend on how a log is run. `AuditEvent.passing` judges every event
  by the threshold last published before it; a log that carries the threshold along takes the same
  events (`Sink.taken_file`).
* **A line has no line feed in it.** Its characters are those of an object, all from the space on,
  and the byte of the line feed is in the UTF-8 of no other character
  (`Utf8.lineFeed_notMem_utf8EncodeChar`). So line feeds are where lines end, and nowhere else.
* **A line is read as its event**, by way of `Json.Scans.ofText?`. Its time alone may come back
  rounded, and is left aside.
-/

namespace TrustRouter

/-! ### Thresholds in force -/

/-- The thresholds published by a signal, if any. -/
def Signal.thresholds? : Signal → Option Thresholds
  | record _ => none
  | publish t => some t

namespace Thresholds

/-- The thresholds in force after signals: the last that were published, or else what they were
before. -/
def after (t : Thresholds) (signals : List Signal) : Thresholds :=
  (signals.filterMap Signal.thresholds?).getLast?.getD t

theorem after_record (t : Thresholds) (e : AuditEvent) (signals : List Signal) :
    t.after (.record e :: signals) = t.after signals :=
  rfl

theorem after_publish (t t' : Thresholds) (signals : List Signal) :
    t.after (.publish t' :: signals) = t'.after signals := by
  show (t' :: signals.filterMap Signal.thresholds?).getLast?.getD t = _
  rw [List.getLast?_cons, Option.getD_some]
  rfl

end Thresholds

namespace Sink

/-- **A log goes on** with the thresholds in force: what it takes of further signals is added to
what it has taken. -/
theorem taken_append (sink : Sink) (t : Thresholds) (signals rest : List Signal) :
    sink.taken t (signals ++ rest) = sink.taken t signals ++ sink.taken (t.after signals) rest := by
  induction signals generalizing t with
  | nil => rfl
  | cons s signals ih =>
    cases s with
    | record e =>
      rw [List.cons_append, taken, taken, ih, Thresholds.after_record]
      split <;> rfl
    | publish t' => rw [List.cons_append, taken, taken, ih, Thresholds.after_publish]

/-- What is written stays as it is: further signals only add to it. -/
theorem writtenBy_append (sink : Sink) (clock : ℕ → Milliseconds) (t : Thresholds)
    (signals rest : List Signal) :
    sink.writtenBy clock t (signals ++ rest) = sink.writtenBy clock t signals ++
      sink.writtenBy (fun n ↦ clock (n + (sink.taken t signals).length)) (t.after signals)
        rest := by
  rw [writtenBy, taken_append, List.mapIdx_append, ← String.toList_inj]
  simp only [String.toList_append, String.toList_join, List.flatMap_append, writtenBy]

end Sink

/-! ### Events that pass -/

/-- The events that pass: each is judged by the threshold of the log that is in force when it is
recorded. -/
def AuditEvent.passing (t : Thresholds) (signals : List Signal) : List AuditEvent :=
  signals.zipIdx.filterMap fun (s, i) ↦
    s.event?.filter fun e ↦ e.severity.passes (t.after (signals.take i)).log

namespace AuditEvent

/-- The first signal is judged by the thresholds before it, the others with those that it leaves in
force. -/
theorem passing_cons {t t' : Thresholds} {s : Signal} (h : ∀ l, t.after (s :: l) = t'.after l)
    (signals : List Signal) :
    passing t (s :: signals) =
      (s.event?.filter fun e ↦ e.severity.passes t.log).toList ++ passing t' signals := by
  simp only [passing, List.filterMap_eq_flatMap_toList, List.zipIdx_cons, List.flatMap_cons,
    List.zipIdx_succ, List.flatMap_map, List.take_succ_cons, h]
  rfl

end AuditEvent

/-- **A log takes the events that pass.** -/
theorem Sink.taken_file (t : Thresholds) (signals : List Signal) :
    file.taken t signals = AuditEvent.passing t signals := by
  induction signals generalizing t with
  | nil => rfl
  | cons s signals ih =>
    cases s with
    | record e =>
      have hfirst : (Signal.record e).event?.filter (fun e ↦ e.severity.passes t.log) =
          if file.allows t e.severity = true then some e else none :=
        Option.filter_some
      rw [AuditEvent.passing_cons (t.after_record e), hfirst, taken, ih]
      split <;> rfl
    | publish t' =>
      rw [AuditEvent.passing_cons (t.after_publish t'), taken, ih]
      rfl

/-! ### Bytes -/

namespace Utf8

/-- The bytes of a text. -/
def encode (s : String) : List UInt8 := s.toUTF8.data.toList

theorem encode_eq (s : String) : encode s = s.toList.flatMap String.utf8EncodeChar :=
  Name.bytes_ofString s

theorem lineFeed_notMem_map_ofNat (numbers : List ℕ) (h : ∀ n ∈ numbers, 10 < n ∧ n < 256) :
    10 ∉ numbers.map UInt8.ofNat := by
  intro hmem
  obtain ⟨n, hn, heq⟩ := List.mem_map.1 hmem
  obtain ⟨hlow, hhigh⟩ := h n hn
  have hten : n % 256 = 10 := UInt8.toNat_inj.2 heq
  omega

/-- Of the characters from the space on, none has the byte of the line feed: either it is the only
byte and at least that of the space, or there are several and all are greater. -/
theorem lineFeed_notMem_utf8EncodeChar {c : Char} (h : ' '.toNat ≤ c.toNat) :
    10 ∉ String.utf8EncodeChar c := by
  have hlow : 32 ≤ c.val.toNat := h
  rw [String.utf8EncodeChar]
  generalize c.val.toNat = v at hlow
  show 10 ∉ (if v ≤ 127 then _ else _ : List UInt8)
  split_ifs
  · exact lineFeed_notMem_map_ofNat [v] (by simp; omega)
  · exact lineFeed_notMem_map_ofNat [v / 64 % 32 + 192, v % 64 + 128] (by simp; omega)
  · exact lineFeed_notMem_map_ofNat [v / 4096 % 16 + 224, v / 64 % 64 + 128, v % 64 + 128]
      (by simp; omega)
  · exact lineFeed_notMem_map_ofNat
      [v / 262144 % 8 + 240, v / 4096 % 64 + 128, v / 64 % 64 + 128, v % 64 + 128]
      (by simp; omega)

theorem lineFeed_notMem_encode {l : List Char} (h : Json.Unbroken l) :
    10 ∉ encode (String.ofList l) := by
  rw [encode_eq, String.toList_ofList, List.mem_flatMap]
  rintro ⟨c, hc, hmem⟩
  exact lineFeed_notMem_utf8EncodeChar (h c hc) hmem

end Utf8

/-! ### Lines -/

/-- What a line says of an event, apart from its time. -/
structure AuditEntry where
  label : String
  severity : Severity
  file : Option String
  serialNumber : Option Json.Number
  message : String

namespace AuditEntry

/-- The entry of an object. -/
def ofJson? (v : Json) : Option AuditEntry := do
  let label ← v.stringAt? "event"
  let severity ← v.stringAt? "severity"
  let message ← v.stringAt? "message"
  return {
    label
    severity := .ofLabel severity
    file := v.stringAt? "file"
    serialNumber := (v.member? "serial_number").bind Json.number?
    message }

/-- The entry of a line. -/
def ofLine? (line : List UInt8) : Option AuditEntry := do
  ofJson? (← Json.ofText? (← String.fromUTF8? ⟨line.toArray⟩))

end AuditEntry

namespace AuditEvent

variable (e : AuditEvent) (now : Milliseconds)

/-- What a line is to say of an event. -/
def entry : AuditEntry := ⟨e.kind.label, e.severity, e.file, e.serialNumber, e.message⟩

/-- The members of an event as values, its time as it is read. -/
def values (time : Json.Number) : Json.Members := [
  ("event", .string e.kind.label),
  ("timestamp_ms", .number time),
  ("severity", .string e.severity.label),
  ("file", e.file.elim .null .string),
  ("serial_number", e.serialNumber.elim .null .number),
  ("message", .string e.message)]

theorem depth_values (time : Json.Number) : (Json.object (e.values time)).depth = 1 := by
  obtain ⟨_, _, _ | _, _ | _, _⟩ := e <;> rfl

/-- The members are scanned as these values. -/
theorem scans_members {time : Json.Number}
    (h : Json.Number.Spells (Nat.toDigits 10 now.toNat) time) :
    Json.Members.Scans (e.members now) (e.values time) := by
  have htime := Json.scans_number h
  exact .cons ⟨rfl, Json.scans _⟩ <| .cons ⟨rfl, htime⟩ <| .cons ⟨rfl, Json.scans _⟩ <|
    .cons ⟨rfl, Json.scans _⟩ <| .cons ⟨rfl, Json.scans _⟩ <| .cons ⟨rfl, Json.scans _⟩ .nil

/-- **A line is a JSON text**, of the object of the event. -/
theorem exists_ofText?_line :
    ∃ time, Json.ofText? (e.line now) = some (.object (e.values time)) := by
  obtain ⟨time, htime⟩ := Json.Number.exists_spells_toDigits now.isLt
  have hscans := Json.scans_writtenObject (e.scans_members now htime)
  refine ⟨time, hscans.ofText? ?_⟩
  rw [depth_values]
  decide

/-- The values of an event say of it what is to be said. -/
theorem ofJson?_values (time : Json.Number) :
    AuditEntry.ofJson? (.object (e.values time)) = some e.entry := by
  obtain ⟨kind, severity, _ | file, _ | n, message⟩ := e
  all_goals
    show some (AuditEntry.mk kind.label (.ofLabel severity.label) _ _ message) = _
    rw [Severity.ofLabel_label]
    rfl

/-- **No line has a line feed in it.** -/
theorem lineFeed_notMem_line : 10 ∉ Utf8.encode (e.line now) := by
  obtain ⟨time, htime⟩ := Json.Number.exists_spells_toDigits now.isLt
  have hvalue (v : Json) : Json.Unbroken v.chars := v.unbroken_chars
  have hmembers : ∀ w ∈ e.members now, Json.Unbroken w.2 := by
    simp only [members, List.forall_mem_cons]
    exact ⟨hvalue _, htime.unbroken, hvalue _, hvalue _, hvalue _, hvalue _, List.forall_mem_nil _⟩
  exact Utf8.lineFeed_notMem_encode (Json.unbroken_writtenObject hmembers)

/-- **A line is read as its event.** -/
theorem ofLine?_line : AuditEntry.ofLine? (Utf8.encode (e.line now)) = some e.entry := by
  obtain ⟨time, htime⟩ := e.exists_ofText?_line now
  have htext : String.fromUTF8? ⟨(Utf8.encode (e.line now)).toArray⟩ = some (e.line now) :=
    Name.text?_ofString (e.line now)
  simp only [AuditEntry.ofLine?, htext, htime, Option.bind_eq_bind, Option.bind_some,
    ofJson?_values]

end AuditEvent

namespace Sink

/-- The bytes that a log writes are those of its lines, each with a line feed behind it. -/
theorem encode_writtenBy (sink : Sink) (clock : ℕ → Milliseconds) (t : Thresholds)
    (signals : List Signal) :
    Utf8.encode (sink.writtenBy clock t signals) =
      ((sink.taken t signals).mapIdx fun n e ↦ Utf8.encode (e.line (clock n))).flatMap
        fun line ↦ line ++ [10] := by
  have hline (e : AuditEvent) (now : Milliseconds) :
      (e.line now ++ "\n").toList.flatMap String.utf8EncodeChar =
        Utf8.encode (e.line now) ++ [10] := by
    rw [String.toList_append, List.flatMap_append, ← Utf8.encode_eq]
    rfl
  simp only [writtenBy, Utf8.encode_eq, String.toList_join, List.mapIdx_eq_zipIdx_map,
    List.flatMap_map, List.flatMap_assoc] at hline ⊢
  simp only [hline]

/-- **An audit log can be neither forged nor split.** Whatever events are recorded and thresholds
published, in whatever order, and whatever texts the events hold: the bytes that a file sink writes
are a line for each event that passes the threshold in force when it is recorded, in order, and a
line feed behind each line; a line never has a line feed in it; so splitting the bytes at line feeds
gives the lines, with nothing after the last of them, and each is read as its event. -/
theorem unforgeable_of_file (clock : ℕ → Milliseconds) (t : Thresholds) (signals : List Signal) :
    let passing := AuditEvent.passing t signals
    let lines := passing.mapIdx fun n e ↦ Utf8.encode (e.line (clock n))
    let log := Utf8.encode (file.writtenBy clock t signals)
    log = lines.flatMap (fun line ↦ line ++ [10]) ∧
      (∀ (e : AuditEvent) (now : Milliseconds), 10 ∉ Utf8.encode (e.line now)) ∧
      log.splitOn 10 = lines ++ [[]] ∧
      (log.splitOn 10).dropLast.map AuditEntry.ofLine? = passing.map fun e ↦ some e.entry := by
  intro passing lines log
  have hlog : log = lines.flatMap fun line ↦ line ++ [10] := by
    have hwritten := encode_writtenBy file clock t signals
    rwa [taken_file] at hwritten
  have hlines : ∀ line ∈ lines, 10 ∉ line := by
    intro line hline
    obtain ⟨n, hn, rfl⟩ := List.mem_mapIdx.1 hline
    exact AuditEvent.lineFeed_notMem_line _ _
  have hsplit : log.splitOn 10 = lines ++ [[]] := by
    rw [hlog]
    exact splitOn_flatMap_concat hlines
  refine ⟨hlog, AuditEvent.lineFeed_notMem_line, hsplit, ?_⟩
  rw [hsplit, List.dropLast_concat]
  refine List.ext_getElem (by simp [lines]) fun n hn hn' ↦ ?_
  simp [lines, AuditEvent.ofLine?_line]

end Sink

end TrustRouter
