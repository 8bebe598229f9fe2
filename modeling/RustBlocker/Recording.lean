import RustBlocker.Library.Histories
import RustBlocker.Library.Tasks
import RustBlocker.LogWriter

/-!
# The recording of queries

`QueryLog::record` is called by every handler at once.  It counts the query, counts its action,
shows the entry to those who watch, and offers it to the channel of the writer.  Each of these
is atomic; the call as a whole is not.

* **A call** is at one of its points, and any call may be the next to go on (`Recording.step`).
* **The writer** takes its own steps in between.  Whatever the handlers do, what it does is a run
  of `logWriting` (`Tallied.writer`), so that what `LogWriter.LosesNothing` says holds here too.
* **The account**, read by no step, is the entries whose calls have returned, those that the
  channel did not take, and those that nobody watched.
* **What a call finds** as it comes to the live feed or to the channel, a receiver or room, is
  noted by an observer of the run (`passes`, `offers`).

`accounted_of_exec` says what the counters, the channel and the rows have to do with each other
in every interleaving.

### What is load-bearing

The counters are sums over calls that are at different points, and they wrap.  So the invariant
(`Tallied`) does not speak of what a counter should be at the end but of what it is now: as many
as there are returned calls and running calls past the increment, modulo `2^64`.  The order of
the increments does not matter for it, which is why nothing is assumed of the schedule.

The lists of the account would say little by themselves: a feed to which nothing is ever sent
has a fine account too.  They are tied to the run by its histories, in which each call stands
with what it found at the moment it came by.  An entry was sent to the live feed exactly if there
was a receiver then, and dropped exactly if the channel was full then.
-/

namespace RustBlocker

namespace QueryLog

variable (log : QueryLog)

/-- `total.fetch_add(1)` -/
def countTotal : QueryLog := { log with total := log.total + 1 }

/-- `fetch_add(1)` of the counter of an action. -/
def countAction : QueryAction → QueryLog
  | .blocked => { log with blocked := log.blocked + 1 }
  | .allowed => { log with allowed := log.allowed + 1 }
  | .rewritten => { log with rewritten := log.rewritten + 1 }
  | .forwarded => { log with forwarded := log.forwarded + 1 }

/-- The counter of an action. -/
def counter : QueryAction → UInt64
  | .blocked => log.blocked
  | .allowed => log.allowed
  | .rewritten => log.rewritten
  | .forwarded => log.forwarded

/-- The handler's `record` is the two increments, with nothing in between. -/
theorem record_eq (entry : QueryEntry) :
    log.record entry = log.countTotal.countAction entry.action := by
  cases action : entry.action <;> simp only [record, countTotal, countAction, action]

@[simp] theorem counter_countTotal (action : QueryAction) :
    log.countTotal.counter action = log.counter action := by
  cases action <;> rfl

@[simp] theorem total_countAction (action : QueryAction) :
    (log.countAction action).total = log.total := by
  cases action <;> rfl

theorem counter_countAction (action action' : QueryAction) :
    (log.countAction action).counter action' =
      log.counter action' + if action' = action then 1 else 0 := by
  cases action <;> cases action' <;> simp [countAction, counter]

/-- The counters are known by what they hold. -/
theorem eq_of_counters {log log' : QueryLog} (total : log.total = log'.total)
    (counters : ∀ action, log.counter action = log'.counter action) : log = log' := by
  obtain ⟨t, b, a, r, f⟩ := log
  obtain ⟨t', b', a', r', f'⟩ := log'
  obtain rfl : t = t' := total
  obtain rfl : b = b' := counters .blocked
  obtain rfl : a = a' := counters .allowed
  obtain rfl : r = r' := counters .rewritten
  obtain rfl : f = f' := counters .forwarded
  rfl

end QueryLog

/-! ## Calls

A call of `record` adds to two counters, shows its entry and offers it to the channel, and
anything may come between.  What it finds at the latter two steps is noted, in the order in which
it happens. -/

/-- What a call of `record` does next.  Each point is one atomic operation, or the offer to the
channel. -/
inductive RecordPoint where
  | total
  | action
  /-- Show the entry to the receivers of the live feed, if there are any. -/
  | live
  /-- `try_send`, after which the call returns. -/
  | send
deriving DecidableEq, Repr

/-- A call of `record` that has not returned. -/
structure RecordCall where
  entry : QueryEntry
  point : RecordPoint := .total

/-- The query is counted. -/
def RecordCall.counted (call : RecordCall) : Bool := call.point ≠ .total

/-- The query is counted under its action. -/
def RecordCall.attributed (call : RecordCall) : Bool := call.point = .live ∨ call.point = .send

/-- The entry was shown, if anybody watched. -/
def RecordCall.shown (call : RecordCall) : Bool := call.point = .send

/-- The counters, the calls that run and the writer.  The last four fields are an account of what
became of the entries. -/
structure Recording where
  log : QueryLog := {}
  /-- `live_tx.receiver_count()` -/
  receivers : Nat := 0
  calls : List RecordCall := []
  writer : LogWriter := {}
  /-- What was sent to the live feed. -/
  live : List QueryEntry := []
  /-- The entries that passed the live feed and were not sent. -/
  unwatched : List QueryEntry := []
  /-- The entries that were offered to the channel and not taken. -/
  dropped : List QueryEntry := []
  /-- The entries whose calls have returned, in the order in which they did. -/
  returned : List QueryEntry := []

inductive RecordingEvent where
  /-- A handler calls `record`. -/
  | begin (entry : QueryEntry)
  /-- The call at a position takes its next step. -/
  | advance (index : Nat)
  | subscribe
  /-- A receiver of the live feed is dropped. -/
  | unsubscribe
  | writer (event : WriterEvent)

namespace Recording

variable (s : Recording)

/-- The increments and the live feed, which leave the call running. -/
def counts (index : Nat) (call : RecordCall) : Recording :=
  let goOn (point : RecordPoint) := s.calls.set index { call with point }
  match call.point with
  | .total => { s with log := s.log.countTotal, calls := goOn .action }
  | .action => { s with log := s.log.countAction call.entry.action, calls := goOn .live }
  | .live =>
      if 0 < s.receivers then { s with live := s.live ++ [call.entry], calls := goOn .send }
      else { s with unwatched := s.unwatched ++ [call.entry], calls := goOn .send }
  | .send => s

/-- `try_send`: the entry is dropped where the channel is full. -/
def trySend (index : Nat) (entry : QueryEntry) : Option Recording :=
  (s.writer.step (.record entry)).map fun writer =>
    { s with
      writer
      calls := s.calls.eraseIdx index
      dropped := if s.writer.channel.length < logChannelCapacity then s.dropped
        else s.dropped ++ [entry]
      returned := s.returned ++ [entry] }

/-- The steps of the writer; the channel is closed when its sender is, which no call holds. -/
def writes (event : WriterEvent) : Option Recording :=
  match event with
  | .record _ => none
  | .close =>
      if s.calls.isEmpty then (s.writer.step .close).map fun writer => { s with writer } else none
  | event => (s.writer.step event).map fun writer => { s with writer }

def step : RecordingEvent → Option Recording
  | .begin entry =>
      if s.writer.closed then none else some { s with calls := s.calls ++ [{ entry }] }
  | .advance index =>
      match s.calls[index]? with
      | none => none
      | some call =>
          if call.point = .send then s.trySend index call.entry else some (s.counts index call)
  | .subscribe => some { s with receivers := s.receivers + 1 }
  | .unsubscribe =>
      if 0 < s.receivers then some { s with receivers := s.receivers - 1 } else none
  | .writer event => s.writes event

/-- The queries that are counted. -/
def started : Nat := s.returned.length + s.calls.countP RecordCall.counted

/-- The queries that are counted under an action. -/
def attributed (action : QueryAction) : Nat :=
  s.returned.countP (fun entry => entry.action = action) +
    s.calls.countP fun call => call.attributed && call.entry.action = action

/-- The entries of the calls that came past the live feed. -/
def shown : List QueryEntry :=
  s.returned ++ (s.calls.filter RecordCall.shown).map RecordCall.entry

/-- The entry of the call that goes on from the point, with what it finds there. -/
def notes (point : RecordPoint) (found : Bool) : RecordingEvent → Option (QueryEntry × Bool)
  | .advance index =>
      s.calls[index]?.bind fun call =>
        if call.point = point then some (call.entry, found) else none
  | _ => none

/-- A call passes the live feed: is anybody watching? -/
def passes : RecordingEvent → Option (QueryEntry × Bool) :=
  s.notes .live (decide (0 < s.receivers))

/-- A call offers its entry to the channel: is there room? -/
def offers : RecordingEvent → Option (QueryEntry × Bool) :=
  s.notes .send (decide (s.writer.channel.length < logChannelCapacity))

end Recording

/-- The entries of the notes in which this was found. -/
def entriesThatFound (found : Bool) (noted : List (QueryEntry × Bool)) : List QueryEntry :=
  (noted.filter fun note => note.2 = found).map Prod.fst

/-- The recording, from its start on. -/
def recording : StateMachine Recording RecordingEvent where
  init s := s = {}
  step s event := s.step event

/-! ## What a step does

The step function turned round, so that each lemma below goes by the same few cases. -/

/-- The channel takes an entry where it has room, and no entry where it is full. -/
theorem LogWriter.record_cases {s t : LogWriter} {entry : QueryEntry}
    (one : s.step (.record entry) = some t) :
    (s.channel.length < logChannelCapacity ∧
      t = { s with channel := s.channel ++ [entry], accepted := s.accepted ++ [entry] }) ∨
    (logChannelCapacity ≤ s.channel.length ∧ t = s) := by
  unfold LogWriter.step at one
  simp only at one
  split at one
  · cases one
  · split at one
    next room => exact Or.inl ⟨room, (Option.some.inj one).symm⟩
    next full => exact Or.inr ⟨not_lt.mp full, (Option.some.inj one).symm⟩

namespace Recording

variable {s t : Recording}

/-- **What a step can do.** -/
theorem step_cases {event : RecordingEvent} (one : s.step event = some t) :
    (∃ entry, event = .begin entry ∧ t = { s with calls := s.calls ++ [{ entry }] }) ∨
    (∃ index call, s.calls[index]? = some call ∧ event = .advance index ∧ call.point ≠ .send ∧
      t = s.counts index call) ∨
    (∃ index call, s.calls[index]? = some call ∧ event = .advance index ∧ call.point = .send ∧
      s.trySend index call.entry = some t) ∨
    (∃ receivers, (∀ index, event ≠ .advance index) ∧ t = { s with receivers }) ∨
    (∃ event' writer, event = .writer event' ∧ (∀ entry, event' ≠ .record entry) ∧
      (event' = .close → s.calls = []) ∧ s.writer.step event' = some writer ∧
      t = { s with writer }) := by
  cases event with
  | begin entry =>
      simp only [step] at one
      split at one
      · cases one
      · exact Or.inl ⟨entry, rfl, (Option.some.inj one).symm⟩
  | advance index =>
      simp only [step] at one
      split at one
      next => cases one
      next call here =>
        split at one
        next send => exact Or.inr (Or.inr (Or.inl ⟨index, call, here, rfl, send, one⟩))
        next goesOn =>
          exact Or.inr (Or.inl ⟨index, call, here, rfl, goesOn, (Option.some.inj one).symm⟩)
  | subscribe =>
      exact Or.inr (Or.inr (Or.inr (Or.inl ⟨_, fun _ => RecordingEvent.noConfusion,
        (Option.some.inj one).symm⟩)))
  | unsubscribe =>
      simp only [step] at one
      split at one
      · exact Or.inr (Or.inr (Or.inr (Or.inl ⟨_, fun _ => RecordingEvent.noConfusion,
          (Option.some.inj one).symm⟩)))
      · cases one
  | writer event =>
      simp only [step, writes] at one
      split at one
      next => cases one
      next =>
        split at one
        next idle =>
          obtain ⟨writer, stepped, rfl⟩ := Option.map_eq_some_iff.mp one
          exact Or.inr (Or.inr (Or.inr (Or.inr ⟨_, writer, rfl, fun _ => WriterEvent.noConfusion,
            fun _ => List.isEmpty_iff.mp idle, stepped, rfl⟩)))
        next => cases one
      next other opened =>
        obtain ⟨writer, stepped, rfl⟩ := Option.map_eq_some_iff.mp one
        exact Or.inr (Or.inr (Or.inr (Or.inr
          ⟨_, writer, rfl, other, fun close => absurd close opened, stepped, rfl⟩)))

/-- **`try_send`** hands the entry to the writer, or drops it where the channel is full. -/
theorem trySend_spec {index : Nat} {entry : QueryEntry} (sent : s.trySend index entry = some t) :
    ∃ writer dropped, s.writer.step (.record entry) = some writer ∧
      (s.writer.channel.length < logChannelCapacity ∧
          writer.accepted = s.writer.accepted ++ [entry] ∧ dropped = s.dropped ∨
        ¬ s.writer.channel.length < logChannelCapacity ∧
          writer.accepted = s.writer.accepted ∧ dropped = s.dropped ++ [entry]) ∧
      t = { s with
        writer
        dropped
        calls := s.calls.eraseIdx index
        returned := s.returned ++ [entry] } := by
  obtain ⟨writer, stepped, rfl⟩ := Option.map_eq_some_iff.mp sent
  refine ⟨writer, _, stepped, ?_, rfl⟩
  rcases LogWriter.record_cases stepped with ⟨room, rfl⟩ | ⟨full, rfl⟩
  · exact Or.inl ⟨room, rfl, if_pos room⟩
  · exact Or.inr ⟨not_lt.mpr full, rfl, if_neg (not_lt.mpr full)⟩

end Recording

/-! ## What waits to be stored

An entry that was accepted is in the channel, in the batch or in the flush that runs, and these
hold only so many.  Nothing is accepted after the channel was closed. -/

namespace LogWriter

variable {s t : LogWriter}

theorem channel_flush (s : LogWriter) (retentionDays : UInt64) (returns : Bool) :
    (s.flush retentionDays returns).channel = s.channel := by
  rcases s.flush_cases retentionDays returns with ⟨-, same⟩ | ⟨-, same⟩ <;> rw [same]

theorem accepted_flush (s : LogWriter) (retentionDays : UInt64) (returns : Bool) :
    (s.flush retentionDays returns).accepted = s.accepted := by
  rcases s.flush_cases retentionDays returns with ⟨-, same⟩ | ⟨-, same⟩ <;> rw [same]

/-- Entries are accepted as they are offered, and at no other time. -/
theorem accepted_step {event : WriterEvent} (one : s.step event = some t)
    (other : ∀ entry, event ≠ .record entry) : t.accepted = s.accepted := by
  rcases step_cases one with ⟨entry, same, -, -⟩ | ⟨-, rfl⟩ |
    ⟨retentionDays, entry, rest, -, -, -, rfl⟩ | ⟨retentionDays, -, -, -, -, rfl⟩ |
    ⟨retentionDays, -, -, rfl⟩ | ⟨entries, retentionDays, returns, weather, -, -, rfl⟩
  · exact absurd same (other entry)
  · rfl
  · unfold LogWriter.push
    simp only
    split
    · exact accepted_flush _ _ _
    · rfl
  · exact accepted_flush _ _ _
  · exact accepted_flush _ _ _
  · rfl

theorem closed_flush (s : LogWriter) (retentionDays : UInt64) (returns : Bool) :
    (s.flush retentionDays returns).closed = s.closed := by
  rcases s.flush_cases retentionDays returns with ⟨-, same⟩ | ⟨-, same⟩ <;> rw [same]

/-- Nothing but its end closes the channel. -/
theorem closed_step {event : WriterEvent} (one : s.step event = some t)
    (closed : t.closed = true) : event = .close ∨ s.closed = true := by
  rcases step_cases one with ⟨entry, -, -, rfl | rfl⟩ | ⟨same, -⟩ |
    ⟨retentionDays, entry, rest, -, -, -, rfl⟩ | ⟨retentionDays, -, -, closed, -, -⟩ |
    ⟨retentionDays, -, -, rfl⟩ | ⟨entries, retentionDays, returns, weather, -, -, rfl⟩
  · exact Or.inr closed
  · exact Or.inr closed
  · exact Or.inl same
  · unfold LogWriter.push at closed
    simp only at closed
    split at closed
    · rw [closed_flush] at closed
      exact Or.inr closed
    · exact Or.inr closed
  · exact Or.inr closed
  · rw [closed_flush] at closed
    exact Or.inr closed
  · exact Or.inr closed

/-- A flush takes no more than there is in the batch. -/
theorem length_taken_flush (s : LogWriter) (retentionDays : UInt64) (returns : Bool) :
    (s.flush retentionDays returns).taken.length ≤ s.batch.length := by
  rcases s.flush_cases retentionDays returns with ⟨-, same⟩ | ⟨-, same⟩
  · rw [same]
    cases returns <;> exact Nat.zero_le _
  · rw [same]
    exact le_refl _

/-- **The channel and the flush that runs hold so many entries at most.**  The batch is bounded by
the task itself. -/
structure Bounded (s : LogWriter) : Prop where
  sound : s.Sound
  channel : s.channel.length ≤ logChannelCapacity
  taken : s.taken.length ≤ batchSize

theorem Bounded.push (bounded : Bounded s) (waits : s.phase = .waits) {entry : QueryEntry}
    {rest : List QueryEntry} (here : s.channel = entry :: rest) (retentionDays : UInt64) :
    Bounded (s.push entry rest retentionDays) := by
  have shorter : rest.length ≤ logChannelCapacity := by
    have room := bounded.channel
    rw [here, List.length_cons] at room
    omega
  refine ⟨bounded.sound.push waits here retentionDays, ?_, ?_⟩
  · unfold LogWriter.push
    simp only
    split
    · rw [channel_flush]
      exact shorter
    · exact shorter
  · unfold LogWriter.push
    simp only
    split
    · refine (length_taken_flush _ retentionDays false).trans ?_
      show (s.batch ++ [entry]).length ≤ batchSize
      rw [List.length_append, List.length_singleton]
      exact bounded.sound.short waits
    · exact bounded.taken

theorem Bounded.step (bounded : Bounded s) {event : WriterEvent} (one : s.step event = some t) :
    Bounded t := by
  have sound := bounded.sound.step one
  refine ⟨sound, ?_, ?_⟩
  · rcases step_cases one with ⟨entry, rfl, -, -⟩ | ⟨-, rfl⟩ |
      ⟨retentionDays, entry, rest, waits, here, -, rfl⟩ | ⟨retentionDays, -, -, -, -, rfl⟩ |
      ⟨retentionDays, -, -, rfl⟩ | ⟨entries, retentionDays, returns, weather, -, -, rfl⟩
    · rcases record_cases one with ⟨room, rfl⟩ | ⟨-, rfl⟩
      · show (s.channel ++ [entry]).length ≤ _
        rw [List.length_append, List.length_singleton]
        exact room
      · exact bounded.channel
    · exact bounded.channel
    · exact (bounded.push waits here retentionDays).channel
    · rw [channel_flush]
      exact bounded.channel
    · rw [channel_flush]
      exact bounded.channel
    · exact bounded.channel
  · rcases step_cases one with ⟨entry, -, -, rfl | rfl⟩ | ⟨-, rfl⟩ |
      ⟨retentionDays, entry, rest, waits, here, -, rfl⟩ | ⟨retentionDays, waits, -, -, -, rfl⟩ |
      ⟨retentionDays, waits, -, rfl⟩ | ⟨entries, retentionDays, returns, weather, -, -, rfl⟩
    · exact bounded.taken
    · exact bounded.taken
    · exact bounded.taken
    · exact (bounded.push waits here retentionDays).taken
    · exact (length_taken_flush s retentionDays true).trans (bounded.sound.short waits).le
    · exact (length_taken_flush s retentionDays false).trans (bounded.sound.short waits).le
    · cases returns <;> exact Nat.zero_le _

theorem bounded_of_reachable (reach : logWriting.Reachable s) : Bounded s := by
  refine reach.invariant ?_ fun s event t bounded one => bounded.step one
  rintro _ rfl
  exact ⟨sound_empty, Nat.zero_le _, Nat.zero_le _⟩

/-- In memory are a batch and a full channel at most. -/
theorem Bounded.held (bounded : Bounded s) :
    s.taken.length + s.batch.length + s.channel.length ≤ batchSize + logChannelCapacity := by
  have ⟨sound, channel, taken⟩ := bounded
  by_cases waits : s.phase = .waits
  · have short := sound.short waits
    have idle : s.taken = [] := by rw [LogWriter.taken, waits]
    rw [idle, List.length_nil]
    omega
  · rw [sound.emptied waits, List.length_nil]
    omega

end LogWriter

/-! ## The account

The counters are compared with the calls, as numbers: how many have passed each of their steps.
The lemmas say by how much each number moves as a call goes on. -/

namespace Recording

variable {s t : Recording}

/-- The counters and the places of the entries agree with the calls: each counter is the number of
calls that have passed its step. -/
structure Tallied (s : Recording) : Prop where
  writer : logWriting.Reachable s.writer
  total : s.log.total = UInt64.ofNat s.started
  counter : ∀ action, s.log.counter action = UInt64.ofNat (s.attributed action)
  offered : (s.writer.accepted ++ s.dropped).Perm s.returned
  watched : (s.live ++ s.unwatched).Perm s.shown

theorem tallied_empty : Tallied {} where
  writer := .of_init rfl
  total := rfl
  counter action := by cases action <;> rfl
  offered := .nil
  watched := .nil

/-- A call that has just begun counts for nothing yet. -/
theorem Tallied.begin (tallied : Tallied s) (entry : QueryEntry) :
    Tallied { s with calls := s.calls ++ [{ entry }] } := by
  have ⟨writer, total, counter, offered, watched⟩ := tallied
  refine ⟨writer, ?_, fun action => ?_, offered, ?_⟩
  · simpa [started, List.countP_append, RecordCall.counted] using total
  · simpa [attributed, List.countP_append, RecordCall.attributed] using counter action
  · simpa [shown, RecordCall.shown] using watched

section Advance

variable {index : Nat} {call : RecordCall} (here : s.calls[index]? = some call)

include here

/-- How far the number of counted queries moves as a call goes on. -/
theorem started_set (next : RecordCall) :
    ({ s with calls := s.calls.set index next } : Recording).started + call.counted.toNat =
      s.started + next.counted.toNat := by
  have moved := Tasks.countP_set RecordCall.counted here next
  simp only [started]
  omega

theorem attributed_set (next : RecordCall) (action : QueryAction) :
    ({ s with calls := s.calls.set index next } : Recording).attributed action +
        (call.attributed && call.entry.action = action).toNat =
      s.attributed action + (next.attributed && next.entry.action = action).toNat := by
  have moved := Tasks.countP_set
    (fun call : RecordCall => call.attributed && call.entry.action = action) here next
  simp only [attributed]
  omega

theorem shown_set (next : RecordCall) (kept : next.shown = call.shown)
    (same : next.entry = call.entry) :
    (({ s with calls := s.calls.set index next } : Recording).shown).Perm s.shown :=
  (Tasks.map_filter_set_of_kept RecordCall.shown RecordCall.entry here kept same).append_left _

/-- `total.fetch_add` -/
theorem Tallied.countTotal (tallied : Tallied s) (point : call.point = .total) :
    Tallied { s with
      log := s.log.countTotal
      calls := s.calls.set index { call with point := .action } } := by
  have ⟨writer, total, counter, offered, watched⟩ := tallied
  have more := started_set here { call with point := .action }
  have same := attributed_set here { call with point := .action }
  have kept := shown_set here { call with point := .action }
    (by simp [RecordCall.shown, point]) rfl
  simp [RecordCall.counted, RecordCall.attributed, point] at more same
  refine ⟨writer, ?_, fun action => ?_, offered, watched.trans kept.symm⟩
  · show s.log.total + 1 = _
    rw [total, ← UInt64.ofNat_one, ← UInt64.ofNat_add, ← more]
    rfl
  · show s.log.countTotal.counter action = _
    rw [QueryLog.counter_countTotal, counter, ← same action]
    rfl

/-- `fetch_add` of the action. -/
theorem Tallied.countAction (tallied : Tallied s) (point : call.point = .action) :
    Tallied { s with
      log := s.log.countAction call.entry.action
      calls := s.calls.set index { call with point := .live } } := by
  have ⟨writer, total, counter, offered, watched⟩ := tallied
  have same := started_set here { call with point := .live }
  have more := attributed_set here { call with point := .live }
  have kept := shown_set here { call with point := .live } (by simp [RecordCall.shown, point]) rfl
  simp [RecordCall.counted, RecordCall.attributed, point] at more same
  refine ⟨writer, ?_, fun action => ?_, offered, watched.trans kept.symm⟩
  · show (s.log.countAction call.entry.action).total = _
    rw [QueryLog.total_countAction, total, ← same]
    rfl
  · show (s.log.countAction call.entry.action).counter action = UInt64.ofNat
      (({ s with calls := s.calls.set index { call with point := .live } } : Recording).attributed
        action)
    rw [QueryLog.counter_countAction, counter, more action, UInt64.ofNat_add]
    by_cases own : action = call.entry.action
    · simp [own]
    · have other : ¬ call.entry.action = action := fun same => own same.symm
      simp [own, other]

/-- `send` of the live feed, which keeps all counts. -/
theorem Tallied.showLive (tallied : Tallied s) (point : call.point = .live)
    {live unwatched : List QueryEntry}
    (sent : (live ++ unwatched).Perm (call.entry :: (s.live ++ s.unwatched))) :
    Tallied { s with
      live
      unwatched
      calls := s.calls.set index { call with point := .send } } := by
  have ⟨writer, total, counter, offered, watched⟩ := tallied
  have same := started_set here { call with point := .send }
  have kept := attributed_set here { call with point := .send }
  have more : (((s.calls.set index { call with point := .send }).filter RecordCall.shown).map
      RecordCall.entry).Perm _ :=
    Tasks.map_filter_set RecordCall.shown RecordCall.entry here
      (by simp [RecordCall.shown, point]) rfl
  simp [RecordCall.counted, RecordCall.attributed, point] at same kept
  refine ⟨writer, ?_, fun action => ?_, offered, ?_⟩
  · show s.log.total = _
    rw [total, ← same]
    rfl
  · show s.log.counter action = _
    rw [counter, ← kept action]
    rfl
  · exact sent.trans ((watched.cons _).trans
      (List.perm_middle.symm.trans (more.symm.append_left _)))

theorem Tallied.counts (tallied : Tallied s) (goesOn : call.point ≠ .send) :
    Tallied (s.counts index call) := by
  unfold Recording.counts
  extract_lets goOn
  cases point : call.point with
  | total => exact tallied.countTotal here point
  | action => exact tallied.countAction here point
  | live =>
      show Tallied (if 0 < s.receivers then _ else _)
      split
      · exact tallied.showLive here point (List.perm_append_comm.trans (by
          rw [← List.append_assoc]
          exact (List.perm_append_singleton _ _).trans (List.perm_append_comm.cons _)))
      · exact tallied.showLive here point (by
          rw [← List.append_assoc]
          exact List.perm_append_singleton _ _)
  | send => exact absurd point goesOn

/-- The call returns, and what it counted for stays. -/
theorem Tallied.ended (tallied : Tallied s) (point : call.point = .send) {writer : LogWriter}
    {dropped : List QueryEntry} (reach : logWriting.Reachable writer)
    (sent : (writer.accepted ++ dropped).Perm
      (s.writer.accepted ++ s.dropped ++ [call.entry])) :
    Tallied { s with
      writer
      dropped
      calls := s.calls.eraseIdx index
      returned := s.returned ++ [call.entry] } := by
  obtain ⟨-, total, counter, offered, watched⟩ := tallied
  have counted : call.counted = true := by simp [RecordCall.counted, point]
  have attributed : call.attributed = true := by simp [RecordCall.attributed, point]
  have shown : call.shown = true := by simp [RecordCall.shown, point]
  refine ⟨reach, ?_, fun action => ?_, sent.trans (offered.append_right _), ?_⟩
  · have fewer := Tasks.countP_eraseIdx RecordCall.counted here
    rw [counted] at fewer
    refine total.trans (congrArg UInt64.ofNat ?_)
    simp only [started, List.length_append, List.length_singleton, ← fewer, Bool.toNat_true]
    omega
  · have fewer := Tasks.countP_eraseIdx
      (fun call : RecordCall => call.attributed && call.entry.action = action) here
    rw [attributed, Bool.true_and] at fewer
    refine (counter action).trans (congrArg UInt64.ofNat ?_)
    simp only [Recording.attributed, List.countP_append, ← fewer]
    rw [List.countP_singleton]
    by_cases own : call.entry.action = action
    · simp [own]
      omega
    · simp [own]
  · have moved := Tasks.map_filter_eraseIdx RecordCall.shown RecordCall.entry here shown
    refine watched.trans ((moved.append_left s.returned).trans ?_)
    rw [List.append_cons]
    exact List.Perm.refl _

end Advance

theorem Tallied.step (tallied : Tallied s) {event : RecordingEvent} (one : s.step event = some t) :
    Tallied t := by
  rcases step_cases one with ⟨entry, -, rfl⟩ | ⟨index, call, here, -, goesOn, rfl⟩ |
    ⟨index, call, here, -, point, sent⟩ | ⟨receivers, -, rfl⟩ |
    ⟨event', writer, -, other, -, wrote, rfl⟩
  · exact tallied.begin entry
  · exact tallied.counts here goesOn
  · obtain ⟨writer, dropped, stepped, places, rfl⟩ := trySend_spec sent
    refine tallied.ended here point (tallied.writer.step (a := .record call.entry) stepped) ?_
    rcases places with ⟨-, accepted, rfl⟩ | ⟨-, accepted, rfl⟩
    · rw [accepted, List.append_assoc, List.append_assoc]
      exact List.perm_append_comm.append_left _
    · rw [accepted, List.append_assoc]
  · exact ⟨tallied.writer, tallied.total, tallied.counter, tallied.offered, tallied.watched⟩
  · refine ⟨tallied.writer.step wrote, tallied.total, tallied.counter, ?_, tallied.watched⟩
    rw [LogWriter.accepted_step wrote other]
    exact tallied.offered

theorem tallied_of_exec {events : List RecordingEvent} (run : recording.exec {} events = some s) :
    Tallied s :=
  recording.exec_invariant (fun _ _ _ tallied _ one => tallied.step one) tallied_empty
    (recording.stepsMeet_true events _) run

theorem writer_counts (s : Recording) (index : Nat) (call : RecordCall) :
    (s.counts index call).writer = s.writer := by
  unfold counts
  extract_lets goOn
  split
  · rfl
  · rfl
  · split <;> rfl
  · rfl

/-- **The channel outlives the calls**: it is closed when its sender is, which no call holds. -/
def Outlived (s : Recording) : Prop := s.writer.closed = true → s.calls = []

theorem Outlived.step (outlived : Outlived s) {event : RecordingEvent}
    (one : s.step event = some t) : Outlived t := by
  -- while there is a call, the channel is open
  have opened {index : Nat} {call : RecordCall} (here : s.calls[index]? = some call) :
      s.writer.closed ≠ true := by
    intro closed
    rw [outlived closed] at here
    cases here
  rcases step_cases one with ⟨entry, rfl, rfl⟩ | ⟨index, call, here, -, -, rfl⟩ |
    ⟨index, call, here, -, -, sent⟩ | ⟨receivers, -, rfl⟩ |
    ⟨event', writer, rfl, other, last, wrote, rfl⟩
  · intro closed
    simp only [Recording.step] at one
    rw [if_pos closed] at one
    cases one
  · intro closed
    rw [writer_counts] at closed
    exact absurd closed (opened here)
  · obtain ⟨writer, dropped, stepped, -, rfl⟩ := trySend_spec sent
    intro closed
    rcases LogWriter.closed_step stepped closed with close | closed
    · cases close
    · exact absurd closed (opened here)
  · exact outlived
  · intro closed
    rcases LogWriter.closed_step wrote closed with close | closed
    · exact last close
    · exact outlived closed

theorem outlived_of_exec {events : List RecordingEvent} (run : recording.exec {} events = some s) :
    Outlived s := by
  have start : Outlived ({} : Recording) := fun closed => by cases closed
  exact recording.exec_invariant (fun _ _ _ outlived _ one => outlived.step one) start
    (recording.stepsMeet_true events _) run

end Recording

/-! ## What the calls found

The live feed got the entries of the calls that found a receiver, and the channel those of the
calls that found room, each once and in order. -/

theorem entriesThatFound_append (found : Bool) (noted later : List (QueryEntry × Bool)) :
    entriesThatFound found (noted ++ later) =
      entriesThatFound found noted ++ entriesThatFound found later := by
  rw [entriesThatFound, List.filter_append, List.map_append]
  rfl

namespace Recording

variable {s t : Recording}

theorem notes_advance {index : Nat} {call : RecordCall} (here : s.calls[index]? = some call)
    (point : RecordPoint) (found : Bool) :
    s.notes point found (.advance index) =
      if call.point = point then some (call.entry, found) else none := by
  rw [notes, here, Option.bind_some]

theorem notes_eq_none {event : RecordingEvent} (other : ∀ index, event ≠ .advance index)
    (point : RecordPoint) (found : Bool) : s.notes point found event = none := by
  cases event with
  | advance index => exact absurd rfl (other index)
  | _ => rfl

/-- The live feed got what was noted: the entries of the calls that found a receiver, and no
others, in order. -/
structure Watched (noted : List (QueryEntry × Bool)) (s : Recording) : Prop where
  live : s.live = entriesThatFound true noted
  unwatched : s.unwatched = entriesThatFound false noted

/-- One more note, of a call that found a receiver or none. -/
theorem Watched.counts {noted : List (QueryEntry × Bool)} (watched : Watched noted s) {index : Nat}
    {call : RecordCall} (here : s.calls[index]? = some call) :
    Watched (noted ++ (s.passes (.advance index)).toList) (s.counts index call) := by
  rw [passes, notes_advance here]
  unfold Recording.counts
  extract_lets goOn
  cases point : call.point with
  | live =>
      rw [if_pos rfl]
      show Watched _ (if 0 < s.receivers then _ else _)
      by_cases watching : 0 < s.receivers
      · rw [if_pos watching, decide_eq_true watching]
        constructor
        · rw [entriesThatFound_append, ← watched.live]
          rfl
        · rw [entriesThatFound_append, ← watched.unwatched]
          exact (List.append_nil _).symm
      · rw [if_neg watching, decide_eq_false watching]
        constructor
        · rw [entriesThatFound_append, ← watched.live]
          exact (List.append_nil _).symm
        · rw [entriesThatFound_append, ← watched.unwatched]
          rfl
  | _ =>
      rw [if_neg RecordPoint.noConfusion, Option.toList_none, List.append_nil]
      exact ⟨watched.live, watched.unwatched⟩

theorem Watched.step {noted : List (QueryEntry × Bool)} (watched : Watched noted s)
    {event : RecordingEvent} (one : s.step event = some t) :
    Watched (noted ++ (s.passes event).toList) t := by
  have unnoted (other : ∀ index, event ≠ .advance index) :
      Watched (noted ++ (s.passes event).toList) s := by
    rw [passes, notes_eq_none other, Option.toList_none, List.append_nil]
    exact watched
  rcases step_cases one with ⟨entry, rfl, rfl⟩ | ⟨index, call, here, rfl, -, rfl⟩ |
    ⟨index, call, here, rfl, point, sent⟩ | ⟨receivers, other, rfl⟩ |
    ⟨event', writer, rfl, -, -, -, rfl⟩
  · have same := unnoted fun _ => RecordingEvent.noConfusion
    exact ⟨same.live, same.unwatched⟩
  · exact watched.counts here
  · obtain ⟨writer, dropped, -, -, rfl⟩ := trySend_spec sent
    rw [passes, notes_advance here, point, if_neg RecordPoint.noConfusion, Option.toList_none,
      List.append_nil]
    exact ⟨watched.live, watched.unwatched⟩
  · exact ⟨(unnoted other).live, (unnoted other).unwatched⟩
  · have same := unnoted fun _ => RecordingEvent.noConfusion
    exact ⟨same.live, same.unwatched⟩

theorem watched_of_exec {events : List RecordingEvent} (run : recording.exec {} events = some s) :
    Watched (recording.history passes {} events) s :=
  recording.exec_history (fun _ _ _ _ watched _ one => watched.step one) ⟨rfl, rfl⟩
    (recording.stepsMeet_true events _) run

/-- The channel took what was noted, and the calls that offered it have returned, in the order of
their offers. -/
structure Offered (noted : List (QueryEntry × Bool)) (s : Recording) : Prop where
  accepted : s.writer.accepted = entriesThatFound true noted
  dropped : s.dropped = entriesThatFound false noted
  returned : s.returned = noted.map Prod.fst

theorem Offered.step {noted : List (QueryEntry × Bool)} (offered : Offered noted s)
    {event : RecordingEvent} (one : s.step event = some t) :
    Offered (noted ++ (s.offers event).toList) t := by
  have ⟨accepted, dropped, returned⟩ := offered
  have unnoted (other : ∀ index, event ≠ .advance index) :
      Offered (noted ++ (s.offers event).toList) s := by
    rw [offers, notes_eq_none other, Option.toList_none, List.append_nil]
    exact offered
  rcases step_cases one with ⟨entry, rfl, rfl⟩ | ⟨index, call, here, rfl, goesOn, rfl⟩ |
    ⟨index, call, here, rfl, point, sent⟩ | ⟨receivers, other, rfl⟩ |
    ⟨event', writer, rfl, other, -, wrote, rfl⟩
  · have same := unnoted fun _ => RecordingEvent.noConfusion
    exact ⟨same.accepted, same.dropped, same.returned⟩
  · rw [offers, notes_advance here, if_neg goesOn, Option.toList_none, List.append_nil]
    unfold Recording.counts
    extract_lets goOn
    split
    · exact ⟨accepted, dropped, returned⟩
    · exact ⟨accepted, dropped, returned⟩
    · split <;> exact ⟨accepted, dropped, returned⟩
    · exact offered
  · obtain ⟨writer, dropped', -, places, rfl⟩ := trySend_spec sent
    rw [offers, notes_advance here, if_pos point]
    have ended : s.returned ++ [call.entry] = (noted ++ [(call.entry,
        decide (s.writer.channel.length < logChannelCapacity))]).map Prod.fst := by
      rw [List.map_append, ← returned]
      rfl
    refine ⟨?_, ?_, ended⟩
    · rw [Option.toList_some, entriesThatFound_append, ← accepted]
      rcases places with ⟨room, took, -⟩ | ⟨full, took, -⟩
      · rw [decide_eq_true room]
        exact took
      · rw [decide_eq_false full]
        exact took.trans (List.append_nil _).symm
    · rw [Option.toList_some, entriesThatFound_append, ← dropped]
      rcases places with ⟨room, -, rfl⟩ | ⟨full, -, rfl⟩
      · rw [decide_eq_true room]
        exact (List.append_nil _).symm
      · rw [decide_eq_false full]
        rfl
  · exact ⟨(unnoted other).accepted, (unnoted other).dropped, (unnoted other).returned⟩
  · have same := unnoted fun _ => RecordingEvent.noConfusion
    refine ⟨?_, same.dropped, same.returned⟩
    show writer.accepted = _
    rw [LogWriter.accepted_step wrote other]
    exact same.accepted

theorem offered_of_exec {events : List RecordingEvent} (run : recording.exec {} events = some s) :
    Offered (recording.history offers {} events) s :=
  recording.exec_history (fun _ _ _ _ offered _ one => offered.step one) ⟨rfl, rfl, rfl⟩
    (recording.stepsMeet_true events _) run

end Recording

/-! ## Calls that run one after the other -/

namespace QueryLog

theorem total_foldl (entries : List QueryEntry) (log : QueryLog) :
    (entries.foldl record log).total = log.total + UInt64.ofNat entries.length := by
  induction entries generalizing log with
  | nil => simp
  | cons entry rest ih =>
      rw [List.foldl_cons, ih, record_eq, total_countAction, List.length_cons, UInt64.ofNat_add]
      show log.total + 1 + _ = _
      rw [UInt64.add_assoc, UInt64.add_comm 1]
      rfl

theorem counter_foldl (entries : List QueryEntry) (log : QueryLog) (action : QueryAction) :
    (entries.foldl record log).counter action =
      log.counter action + UInt64.ofNat (entries.countP fun entry => entry.action = action) := by
  induction entries generalizing log with
  | nil => simp
  | cons entry rest ih =>
      rw [List.foldl_cons, ih, record_eq, counter_countAction, counter_countTotal,
        List.countP_cons]
      by_cases own : entry.action = action
      · subst own
        simp [UInt64.ofNat_add, UInt64.add_assoc, UInt64.add_comm 1]
      · have other : ¬ action = entry.action := fun same => own same.symm
        simp [own, other]

/-- The counters do not depend on the order of the calls. -/
theorem foldl_record_of_perm {entries entries' : List QueryEntry}
    (perm : entries.Perm entries') (log : QueryLog) :
    entries.foldl record log = entries'.foldl record log := by
  refine eq_of_counters ?_ fun action => ?_
  · rw [total_foldl, total_foldl, perm.length_eq]
  · rw [counter_foldl, counter_foldl, perm.countP_eq]

end QueryLog

/-! ## What the counters, the channel and the rows have to do with each other

The two accounts are put together.  In every state an entry has one place; in the end, if no flush
failed, the places are two, inserted or dropped. -/

namespace Recording

variable {s : Recording}

/-- Some entries by their actions. -/
theorem length_eq_countP (entries : List QueryEntry) :
    entries.length = entries.countP (fun entry => entry.action = .blocked) +
      entries.countP (fun entry => entry.action = .allowed) +
      entries.countP (fun entry => entry.action = .rewritten) +
      entries.countP fun entry => entry.action = .forwarded := by
  induction entries with
  | nil => rfl
  | cons entry rest ih =>
      simp only [List.length_cons, List.countP_cons]
      cases entry.action <;> simp <;> omega

/-- The counted calls by their actions, and those that are not counted under one yet. -/
theorem countP_counted (calls : List RecordCall) :
    calls.countP RecordCall.counted =
      calls.countP (fun call => call.attributed && call.entry.action = .blocked) +
      calls.countP (fun call => call.attributed && call.entry.action = .allowed) +
      calls.countP (fun call => call.attributed && call.entry.action = .rewritten) +
      calls.countP (fun call => call.attributed && call.entry.action = .forwarded) +
      calls.countP fun call => call.point = .action := by
  induction calls with
  | nil => rfl
  | cons call rest ih =>
      obtain ⟨entry, point⟩ := call
      simp only [List.countP_cons, ih, RecordCall.counted, RecordCall.attributed]
      cases point <;> cases entry.action <;> simp <;> omega

/-- **The counters are those of calls that run one after the other, and every entry has one
place**, which is what its call found as it came by. -/
structure Accounted (events : List RecordingEvent) (s : Recording) : Prop where
  /-- The total is ahead of the four actions by the calls between their two increments. -/
  balanced : s.log.total = s.log.blocked + s.log.allowed + s.log.rewritten + s.log.forwarded +
    UInt64.ofNat (s.calls.countP fun call => call.point = .action)
  atomic : s.calls = [] → s.log = s.returned.foldl QueryLog.record {}
  /-- An entry whose call has returned is with the writer or was dropped. -/
  offered : (s.writer.accepted ++ s.dropped).Perm s.returned
  /-- The writer has the entries that were offered while the channel had room, in order. -/
  accepted : s.writer.accepted = entriesThatFound true (recording.history offers {} events)
  /-- Dropped are the entries that were offered while the channel was full. -/
  dropped : s.dropped = entriesThatFound false (recording.history offers {} events)
  /-- An entry that came past the live feed was sent once or not at all. -/
  watched : (s.live ++ s.unwatched).Perm s.shown
  /-- It was sent if somebody watched as its call came by, and the feed is in that order. -/
  live : s.live = entriesThatFound true (recording.history passes {} events)
  unwatched : s.unwatched = entriesThatFound false (recording.history passes {} events)
  /-- In memory are a batch and a full channel at most. -/
  held : s.writer.taken.length + s.writer.batch.length + s.writer.channel.length ≤
    batchSize + logChannelCapacity
  /-- What the writer has taken is in the table, in a flush, in the batch or in the channel. -/
  writer : s.writer.LosesNothing
  /-- In the end, if the database never failed, the rows that were inserted and the entries
  that were dropped are what the counters count. -/
  stored : s.writer.phase = .returned → (∀ flush ∈ s.writer.flushes, flush.Succeeded) →
    (s.writer.inserted ++ s.dropped).Perm s.returned ∧
      s.log = (s.writer.inserted ++ s.dropped).foldl QueryLog.record {}

theorem Tallied.balanced (tallied : Tallied s) :
    s.log.total = s.log.blocked + s.log.allowed + s.log.rewritten + s.log.forwarded +
      UInt64.ofNat (s.calls.countP fun call => call.point = .action) := by
  have whole : s.started = s.attributed .blocked + s.attributed .allowed +
      s.attributed .rewritten + s.attributed .forwarded +
        s.calls.countP fun call => call.point = .action := by
    simp only [started, attributed, length_eq_countP s.returned, countP_counted s.calls]
    omega
  rw [tallied.total, whole]
  simp only [UInt64.ofNat_add, ← tallied.counter]
  rfl

theorem Tallied.atomic (tallied : Tallied s) (rest : s.calls = []) :
    s.log = s.returned.foldl QueryLog.record {} := by
  refine QueryLog.eq_of_counters ?_ fun action => ?_
  · rw [QueryLog.total_foldl, tallied.total, started, rest]
    simp
  · rw [QueryLog.counter_foldl, tallied.counter, attributed, rest]
    cases action <;> simp [QueryLog.counter]

end Recording

/-- **In the end**, if no flush failed, each entry was inserted or dropped, and the counters are
those of these entries. -/
theorem Recording.stored_of_exec {events : List RecordingEvent} {s : Recording}
    (run : recording.exec {} events = some s) (ended : s.writer.phase = .returned)
    (succeeded : ∀ flush ∈ s.writer.flushes, flush.Succeeded) :
    (s.writer.inserted ++ s.dropped).Perm s.returned ∧
      s.log = (s.writer.inserted ++ s.dropped).foldl QueryLog.record {} := by
  have tallied := tallied_of_exec run
  have bounded := LogWriter.bounded_of_reachable tallied.writer
  have ⟨order, short, emptied, last, returned⟩ := bounded.sound
  have idle : s.writer.taken = [] := by rw [LogWriter.taken, ended]
  have batch : s.writer.batch = [] := emptied (by rw [ended]; exact WriterPhase.noConfusion)
  have inserted : s.writer.inserted = s.writer.accepted := by
    rw [LogWriter.inserted, LogWriter.flatMap_inserted succeeded, ← order, idle, batch,
      (returned ended).1, List.append_nil, List.append_nil, List.append_nil]
  rw [inserted, QueryLog.foldl_record_of_perm tallied.offered]
  exact ⟨tallied.offered, tallied.atomic (outlived_of_exec run (returned ended).2)⟩

/-- **Recording accounts for every query**, in every interleaving of the handlers' calls, of
those who watch and of the writer. -/
theorem accounted_of_exec {events : List RecordingEvent} {s : Recording}
    (run : recording.exec {} events = some s) : s.Accounted events := by
  have tallied := Recording.tallied_of_exec run
  have offered := Recording.offered_of_exec run
  have watched := Recording.watched_of_exec run
  have bounded := LogWriter.bounded_of_reachable tallied.writer
  exact
    { balanced := tallied.balanced
      atomic := tallied.atomic
      offered := tallied.offered
      accepted := offered.accepted
      dropped := offered.dropped
      watched := tallied.watched
      live := watched.live
      unwatched := watched.unwatched
      held := bounded.held
      writer := LogWriter.losesNothing_of_reachable tallied.writer
      stored := Recording.stored_of_exec run }

/-- Two calls, of which the second one overtakes the first, up to the end of the writer. -/
def overtakingEvents : List RecordingEvent :=
  [.begin (loggedQuery "a".toList), .begin (loggedQuery "b".toList), .advance 0, .advance 1,
    .advance 1, .subscribe, .advance 1, .advance 1, .writer (.receive 30), .unsubscribe,
    .advance 0, .advance 0, .advance 0, .writer .close, .writer (.receive 30), .writer (.ends 30),
    .writer (.flushed { now := fun _ => epoch, prunedAt := epoch })]

theorem accounted_of_exec_overtaking :
    ∃ s, recording.exec {} overtakingEvents = some s ∧ s.Accounted overtakingEvents := by
  have runs : (recording.exec {} overtakingEvents).isSome = true := rfl
  obtain ⟨s, run⟩ := Option.isSome_iff_exists.mp runs
  exact ⟨s, run, accounted_of_exec run⟩

end RustBlocker
