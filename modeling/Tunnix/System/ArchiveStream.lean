import Tunnix.Archive

namespace Tunnix.ArchiveStream
open Archive PushRelay

/-- A call of `read` has a buffer of some length, and it has received these chunks so far. -/
structure Call where
  room : Nat
  chunks : List Bytes
deriving DecidableEq, Repr

/-- The state joins the writer's channel, the way between the channels and the reader's channel. The
last two fields record the bytes that were written and what each ended call has returned. -/
structure State where
  output : Channel channelCap Bytes
  writing : Bool
  /-- These bytes have left the first channel and have not entered the second one. -/
  carried : Bytes
  /-- The way has lost one of its ends before everything was sent on. -/
  abandoned : Bool
  input : Channel channelCap Bytes
  sending : Bool
  reader : ChannelReader
  reading : Option Call
  panicked : Bool
  written : Bytes
  ended : List (Call × Bytes)
deriving DecidableEq

/-- `spawn_compress` and `spawn_decompress` create one channel each. -/
def start : State where
  output := .empty _ _
  writing := true
  carried := []
  abandoned := false
  input := .empty _ _
  sending := true
  reader := .new
  reading := none
  panicked := false
  written := []
  ended := []

/-- The first group of actions belongs to the compressor, the next one to the way, and the last one
to the decompressor. -/
inductive Action where
  | write (buf : Bytes)
  | dropWriter
  | take
  | send (count : Nat)
  | finish
  | cut
  | hangUp
  | read (room : Nat)
  | receive
deriving DecidableEq, Repr

/-- These steps are the reader's own. -/
def Action.reads : Action → Bool
  | .read _ | .receive => true
  | .write _ | .dropWriter | .take | .send _ | .finish | .cut | .hangUp => false

/-- A call that ends returns its bytes. -/
def State.endCall (state : State) (call : Call) (bytes : Bytes) : State :=
  { state with reading := none, ended := state.ended ++ [(call, bytes)] }

/-- After a pass the call has ended, or it waits for a chunk. -/
def State.pass (state : State) (call : Call) : State :=
  match state.reader.pass call.room with
  | .copied bytes reader => { state with reader }.endCall call bytes
  | .outOfRange => { state with reading := none, panicked := true }
  | .exhausted => { state with reading := some call }

/-- The archive moves by one action, or refuses one that its state does not allow. -/
def step (state : State) : Action → Option State
  | .write buf =>
      if state.writing then
        (ChannelWriter.write state.output buf).map fun (result, output) => { state with
          output
          written := state.written ++ counted buf result }
      else none
  | .dropWriter => if state.writing then some { state with writing := false } else none
  | .take =>
      state.output.receive.map fun (chunk, output) =>
        { state with output, carried := state.carried ++ chunk }
  -- The way may split and join chunks, and it sends an empty chunk when the count is zero.
  | .send count =>
      if state.sending then
        (state.input.send (state.carried.take count)).map fun input =>
          { state with input, carried := state.carried.drop count }
      else none
  | .finish =>
      if state.sending ∧ state.writing = false ∧ state.output.items = [] ∧ state.carried = [] then
        some { state with sending := false }
      else none
  -- A session that ends early drops its sender or its receiver.
  | .cut => if state.sending then some { state with sending := false, abandoned := true } else none
  | .hangUp =>
      some { state with
        output := state.output.drop
        abandoned := state.abandoned || state.sending }
  | .read room =>
      if state.reading = none ∧ state.panicked = false then
        if room = 0 then some (state.endCall ⟨room, []⟩ []) else some (state.pass ⟨room, []⟩)
      else none
  | .receive =>
      match state.reading with
      | none => none
      | some call =>
          match state.input.receive with
          | some (chunk, input) =>
              some ({ state with input, reader := .load chunk }.pass
                { call with chunks := call.chunks ++ [chunk] })
          | none => if state.sending then none else some (state.endCall call [])

/-- These are the possible steps of the archive, one for each branch of the source. -/
inductive Move (state : State) : Action → State → Prop
  | write {buf result output} : state.writing = true →
      ChannelWriter.write state.output buf = some (result, output) →
      Move state (.write buf) { state with output, written := state.written ++ counted buf result }
  | dropWriter : state.writing = true → Move state .dropWriter { state with writing := false }
  | take {chunk output} : state.output.receive = some (chunk, output) →
      Move state .take { state with output, carried := state.carried ++ chunk }
  | send {count input} : state.sending = true →
      state.input.send (state.carried.take count) = some input →
      Move state (.send count) { state with input, carried := state.carried.drop count }
  | finish : state.sending = true → state.writing = false → state.output.items = [] →
      state.carried = [] → Move state .finish { state with sending := false }
  | cut : state.sending = true → Move state .cut { state with sending := false, abandoned := true }
  | hangUp : Move state .hangUp
      { state with output := state.output.drop, abandoned := state.abandoned || state.sending }
  | readNothing : state.reading = none → Move state (.read 0) (state.endCall ⟨0, []⟩ [])
  | read {room} : state.reading = none → room ≠ 0 →
      Move state (.read room) (state.pass ⟨room, []⟩)
  | receive {call chunk input} : state.reading = some call →
      state.input.receive = some (chunk, input) →
      Move state .receive ({ state with input, reader := .load chunk }.pass
        { call with chunks := call.chunks ++ [chunk] })
  | endOfStream {call} : state.reading = some call → state.input.receive = none →
      state.sending = false → Move state .receive (state.endCall call [])

/-- Each accepted action is one of the possible steps. -/
theorem step_move {state next : State} {action : Action}
    (moved : step state action = some next) : Move state action next := by
  cases action with
  | write buf =>
      rw [step, Option.ite_none_right_eq_some] at moved
      obtain ⟨writing, moved⟩ := moved
      obtain ⟨⟨result, output⟩, wrote, rfl⟩ := Option.map_eq_some_iff.mp moved
      exact .write writing wrote
  | dropWriter =>
      rw [step, Option.ite_none_right_eq_some, Option.some.injEq] at moved
      obtain ⟨writing, rfl⟩ := moved
      exact .dropWriter writing
  | take =>
      obtain ⟨⟨chunk, output⟩, taken, rfl⟩ := Option.map_eq_some_iff.mp moved
      exact .take taken
  | send count =>
      rw [step, Option.ite_none_right_eq_some] at moved
      obtain ⟨sending, moved⟩ := moved
      obtain ⟨input, sent, rfl⟩ := Option.map_eq_some_iff.mp moved
      exact .send sending sent
  | finish =>
      rw [step, Option.ite_none_right_eq_some, Option.some.injEq] at moved
      obtain ⟨⟨sending, gone, drained, idle⟩, rfl⟩ := moved
      exact .finish sending gone drained idle
  | cut =>
      rw [step, Option.ite_none_right_eq_some, Option.some.injEq] at moved
      obtain ⟨sending, rfl⟩ := moved
      exact .cut sending
  | hangUp =>
      cases moved
      exact .hangUp
  | read room =>
      rw [step, Option.ite_none_right_eq_some] at moved
      obtain ⟨⟨idle, _⟩, moved⟩ := moved
      split at moved
      · next empty =>
          cases moved
          rw [empty]
          exact .readNothing idle
      · next room =>
          cases moved
          exact .read idle room
  | receive =>
      simp only [step] at moved
      split at moved
      · contradiction
      · next call reading =>
          split at moved
          · next chunk input received =>
              cases moved
              exact .receive reading received
          · next drained =>
              rw [Option.ite_none_left_eq_some, Option.some.injEq] at moved
              obtain ⟨dropped, rfl⟩ := moved
              exact .endOfStream reading drained (Bool.eq_false_iff.mpr dropped)

namespace State

/-- These bytes were returned by the calls that have ended. -/
def returned (state : State) : Bytes := state.ended.flatMap Prod.snd

/-- The way feeds a source of bytes, which the reader takes in order. -/
def source (state : State) : Source where
  taken := state.returned
  left := state.reader.unread ++ state.input.items.flatten
  closed := !state.sending

/-- These bytes are still on their way to the second channel. -/
def remaining (state : State) : Bytes := state.carried ++ state.output.items.flatten

/-- Every byte that was sent to the reader is returned, and unless the way was abandoned these are
all bytes that were written by a writer that is gone. -/
def Complete (state : State) : Prop :=
  state.sending = false ∧ state.returned = state.source.sent ∧
    (state.abandoned = false → state.writing = false ∧ state.returned = state.written)

variable {state : State} {call : Call} {bytes : Bytes}

@[simp] theorem endCall_returned :
    (state.endCall call bytes).returned = state.returned ++ bytes := by
  simp [returned, endCall]

/-- A call that ends takes its bytes from the source. -/
theorem endCall_sent (reader : ChannelReader)
    (split : state.reader.unread = bytes ++ reader.unread) :
    ({ state with reader }.endCall call bytes).source.sent = state.source.sent := by
  rw [Source.sent, Source.sent]
  change ({ state with reader }.endCall call bytes).returned ++
      (reader.unread ++ state.input.items.flatten) =
    state.returned ++ (state.reader.unread ++ state.input.items.flatten)
  rw [endCall_returned, split]
  simp only [List.append_assoc]
  rfl

end State

/-- The bytes that were written are returned, or left at the reader, or still on their way. A call
returns nothing into a nonempty buffer only at the end of the source. -/
structure Sound (state : State) : Prop where
  within : state.reader.pos ≤ state.reader.leftover.length
  intact : state.panicked = false
  solid : ∀ chunk ∈ state.output.items, chunk ≠ []
  waiting : ∀ call, state.reading = some call →
    call.room ≠ 0 ∧ state.reader.unread = [] ∧ ∀ chunk ∈ call.chunks, chunk = []
  flow : state.source.sent ++ state.remaining <+: state.written
  exact : state.output.receiving = true ∨ state.abandoned = false →
    state.source.sent ++ state.remaining = state.written
  closed : state.sending = false → state.abandoned = false →
    state.writing = false ∧ state.remaining = []
  fits : ∀ entry ∈ state.ended, entry.2.length ≤ entry.1.room
  brief : ∀ entry ∈ state.ended, (entry.1.chunks.filter (· ≠ [])).length ≤ 1
  zero : ∀ entry ∈ state.ended, entry.1.room ≠ 0 → entry.2 = [] →
    state.sending = false ∧ state.source.left = []

namespace Sound
variable {state next : State} {call : Call} {bytes : Bytes}

theorem start : Sound start where
  within := Nat.le_refl _
  intact := rfl
  solid _ member := nomatch member
  waiting _ reading := nomatch reading
  flow := List.nil_prefix
  exact _ := rfl
  closed sending := nomatch sending
  fits _ member := nomatch member
  brief _ member := nomatch member
  zero _ member := nomatch member

/-- A call ends soundly with the next bytes of the source if it has received at most one chunk with
bytes, and with none only if the source is at its end. -/
theorem endCall (sound : Sound state) {reader : ChannelReader}
    (split : state.reader.unread = bytes ++ reader.unread)
    (within : reader.pos ≤ reader.leftover.length) (fits : bytes.length ≤ call.room)
    (brief : (call.chunks.filter (· ≠ [])).length ≤ 1)
    (zero : call.room ≠ 0 → bytes = [] → state.sending = false ∧ state.source.left = []) :
    Sound ({ state with reader }.endCall call bytes) where
  within := within
  intact := sound.intact
  solid := sound.solid
  waiting _ reading := nomatch reading
  flow := by
    rw [State.endCall_sent reader split]
    exact sound.flow
  exact := by
    rw [State.endCall_sent reader split]
    exact sound.exact
  closed := sound.closed
  fits entry member := by
    rcases List.mem_append.mp member with earlier | last
    · exact sound.fits entry earlier
    · rw [List.mem_singleton.mp last]
      exact fits
  brief entry member := by
    rcases List.mem_append.mp member with earlier | last
    · exact sound.brief entry earlier
    · rw [List.mem_singleton.mp last]
      exact brief
  zero entry member := by
    intro room nothing
    have before : state.sending = false ∧ state.source.left = [] := by
      rcases List.mem_append.mp member with earlier | last
      · exact sound.zero entry earlier room nothing
      · rw [List.mem_singleton.mp last] at room nothing
        exact zero room nothing
    -- Nothing is left after this call if nothing was left before it.
    obtain ⟨unread, queued⟩ := List.append_eq_nil_iff.mp before.2
    rw [split, List.append_eq_nil_iff] at unread
    exact ⟨before.1, List.append_eq_nil_iff.mpr ⟨unread.2, queued⟩⟩

/-- A pass never leaves the range of the leftover chunk, and it ends the call unless that chunk is
used up. -/
theorem pass (sound : Sound state) (room : call.room ≠ 0)
    (empties : state.reader.unread = [] → ∀ chunk ∈ call.chunks, chunk = [])
    (brief : (call.chunks.filter (· ≠ [])).length ≤ 1) : Sound (state.pass call) := by
  by_cases used : state.reader.unread = []
  · rw [State.pass, ChannelReader.pass_exhausted used]
    exact { sound with
      waiting := by
        rintro _ ⟨⟩
        exact ⟨room, used, empties used⟩ }
  · obtain ⟨reader, copied, rest, within⟩ := ChannelReader.pass_copied call.room used
    rw [State.pass, copied]
    refine sound.endCall ?_ within ?_ brief ?_
    · rw [rest, List.take_append_drop]
    · exact List.length_take_le _ _
    · intro _ nothing
      rcases List.take_eq_nil_iff.mp nothing with absent | nothing
      · exact absurd absent room
      · exact absurd nothing used

/-- A chunk that the reader loads was the next one of the source. -/
theorem load_source (sound : Sound state) (reading : state.reading = some call) {chunk : Bytes}
    {input : Channel channelCap Bytes} (received : state.input.receive = some (chunk, input)) :
    ({ state with input, reader := .load chunk, reading := none } : State).source =
      state.source := by
  simp only [State.source, State.returned, (sound.waiting call reading).2.1,
    (Channel.receive_some received).1, ChannelReader.load_unread]
  rfl

/-- A chunk moves from the channel to the reader that has used up its last one. -/
theorem load (sound : Sound state) (reading : state.reading = some call) {chunk : Bytes}
    {input : Channel channelCap Bytes} (received : state.input.receive = some (chunk, input)) :
    Sound { state with input, reader := .load chunk, reading := none } := by
  have same := sound.load_source reading received
  exact { sound with
    within := Nat.zero_le _
    waiting := nofun
    flow := by
      rw [same]
      exact sound.flow
    exact := by
      rw [same]
      exact sound.exact
    zero := by
      rw [same]
      exact sound.zero }

/-- A call that waits has received no bytes. -/
theorem silent {chunks : List Bytes} (empties : ∀ chunk ∈ chunks, chunk = []) :
    chunks.filter (· ≠ []) = [] := by
  rw [List.filter_eq_nil_iff]
  intro chunk member
  simp [empties chunk member]

/-- The bytes of the first channel that are still on their way do not change as they move on. -/
theorem take_remaining {chunk : Bytes} {output : Channel channelCap Bytes}
    (taken : state.output.receive = some (chunk, output)) :
    ({ state with output, carried := state.carried ++ chunk } : State).remaining =
      state.remaining := by
  simp only [State.remaining, (Channel.receive_some taken).1, List.flatten_cons, List.append_assoc]

/-- A chunk that the way sends on moves from the way to the source. -/
theorem send_remaining {count : Nat} {input : Channel channelCap Bytes}
    (sent : state.input.send (state.carried.take count) = some input) :
    ({ state with input, carried := state.carried.drop count } : State).source.sent ++
        ({ state with input, carried := state.carried.drop count } : State).remaining =
      state.source.sent ++ state.remaining := by
  simp only [State.source, State.returned, State.remaining, Source.sent,
    (Channel.send_some sent).2.1, List.flatten_append, List.flatten_singleton, List.append_assoc]
  rw [← List.append_assoc (List.take count state.carried), List.take_append_drop]

/-- A successful write adds the same bytes to the first channel and to those that were written. -/
theorem write (sound : Sound state) (writing : state.writing = true) {buf : Bytes}
    {result : Except IoError Nat} {output : Channel channelCap Bytes}
    (wrote : ChannelWriter.write state.output buf = some (result, output)) :
    Sound { state with output, written := state.written ++ counted buf result } := by
  obtain ⟨items, receiving, refused, solid⟩ := ChannelWriter.write_some wrote
  have grown : ({ state with output, written := state.written ++ counted buf result } :
      State).remaining = state.remaining ++ counted buf result := by
    simp only [State.remaining, items, List.append_assoc]
  have whole (held : state.output.receiving = true ∨ state.abandoned = false) :
      state.source.sent ++ (state.remaining ++ counted buf result) =
        state.written ++ counted buf result := by
    rw [← List.append_assoc, sound.exact held]
  exact { sound with
    solid := solid sound.solid
    flow := by
      rw [grown]
      cases held : state.output.receiving with
      | true =>
          exact ⟨[], (List.append_nil _).trans (whole (.inl held))⟩
      | false =>
          rw [refused held, List.append_nil, List.append_nil]
          exact sound.flow
    exact := by
      intro held
      rw [receiving] at held
      rw [grown]
      exact whole held
    closed := by
      intro dropped kept
      have gone := (sound.closed dropped kept).1
      rw [writing] at gone
      cases gone }

/-- A receiver that is dropped after the way has finished loses nothing. -/
theorem hangUp (sound : Sound state) : Sound { state with
    output := state.output.drop, abandoned := state.abandoned || state.sending } := by
  have lessRemains : ({ state with
      output := state.output.drop, abandoned := state.abandoned || state.sending } :
        State).remaining = state.carried := List.append_nil _
  have finished (kept : (state.abandoned || state.sending) = false) :
      state.writing = false ∧ state.remaining = [] ∧ state.abandoned = false := by
    rw [Bool.or_eq_false_iff] at kept
    obtain ⟨gone, none⟩ := sound.closed kept.2 kept.1
    exact ⟨gone, none, kept.1⟩
  exact { sound with
    solid := nofun
    flow := by
      rw [lessRemains]
      refine List.IsPrefix.trans ?_ sound.flow
      exact (List.prefix_append_right_inj _).mpr (List.prefix_append _ _)
    exact := by
      intro held
      obtain ⟨_, none, kept⟩ := finished (held.resolve_left Bool.false_ne_true)
      have whole := sound.exact (.inr kept)
      rw [none] at whole
      rw [lessRemains, (List.append_eq_nil_iff.mp none).1]
      exact whole
    closed := by
      intro _ kept
      obtain ⟨gone, none, _⟩ := finished kept
      rw [lessRemains]
      exact ⟨gone, (List.append_eq_nil_iff.mp none).1⟩ }

theorem step {action : Action} (sound : Sound state) (moved : step state action = some next) :
    Sound next := by
  cases step_move moved with
  | write writing wrote => exact sound.write writing wrote
  | dropWriter writing =>
      exact { sound with closed := fun dropped kept => ⟨rfl, (sound.closed dropped kept).2⟩ }
  | take taken =>
      have same := take_remaining taken
      exact { sound with
        solid := by
          intro chunk member
          apply sound.solid chunk
          rw [(Channel.receive_some taken).1]
          exact List.mem_cons_of_mem _ member
        flow := by
          rw [same]
          exact sound.flow
        exact := by
          intro _
          rw [same]
          exact sound.exact (.inl (Channel.receive_some taken).2.1)
        closed := by
          intro dropped kept
          rw [same]
          exact sound.closed dropped kept }
  | send sending sent =>
      have same := send_remaining sent
      exact { sound with
        flow := by
          rw [same]
          exact sound.flow
        exact := by
          rw [same]
          exact sound.exact
        closed := by
          intro dropped
          rw [sending] at dropped
          cases dropped
        zero := by
          intro entry member room nothing
          have dropped := (sound.zero entry member room nothing).1
          rw [sending] at dropped
          cases dropped }
  | finish sending gone drained idle =>
      exact { sound with
        closed := by
          intro _ _
          refine ⟨gone, ?_⟩
          rw [State.remaining, idle, drained]
          rfl
        zero := fun entry member room nothing => ⟨rfl, (sound.zero entry member room nothing).2⟩ }
  | cut sending =>
      exact { sound with
        exact := by
          intro held
          exact sound.exact (.inl (held.resolve_right nofun))
        closed := nofun
        zero := fun entry member room nothing => ⟨rfl, (sound.zero entry member room nothing).2⟩ }
  | hangUp => exact sound.hangUp
  | readNothing idle =>
      refine sound.endCall rfl sound.within (Nat.zero_le _) (Nat.zero_le _) ?_
      exact fun room => absurd rfl room
  | read idle room => exact sound.pass room (fun _ _ member => nomatch member) (Nat.zero_le _)
  | @receive call chunk input reading received =>
      obtain ⟨room, used, empties⟩ := sound.waiting call reading
      refine (sound.load reading received).pass room ?_ ?_
      · intro nothing entry member
        rcases List.mem_append.mp member with before | last
        · exact empties entry before
        · rw [List.mem_singleton.mp last]
          exact nothing
      · rw [List.filter_append, silent empties, List.nil_append]
        exact List.length_filter_le _ [chunk]
  | endOfStream reading drained dropped =>
      obtain ⟨room, used, empties⟩ := sound.waiting _ reading
      refine sound.endCall rfl sound.within (Nat.zero_le _) ?_ ?_
      · rw [silent empties]
        exact Nat.zero_le _
      · intro _ _
        refine ⟨dropped, ?_⟩
        change state.reader.unread ++ state.input.items.flatten = []
        rw [used, Channel.receive_none.mp drained]
        rfl

/-- At the end of the source everything has been returned. -/
theorem complete (sound : Sound state) (dropped : state.sending = false)
    (nothing : state.source.left = []) : state.Complete := by
  have all : state.returned = state.source.sent := by
    rw [Source.sent, nothing, List.append_nil]
    rfl
  refine ⟨dropped, all, fun kept => ?_⟩
  obtain ⟨gone, none⟩ := sound.closed dropped kept
  have whole := sound.exact (.inr kept)
  rw [none, List.append_nil, ← all] at whole
  exact ⟨gone, whole⟩

end Sound

/-- The reader alone leads from one state to another, and between them calls with these buffer
lengths have ended. -/
structure Reads (state final : State) (rooms : List Nat) (actions : List Action) : Prop where
  ran : Machine.run step state actions = some final
  own : ∀ action ∈ actions, action.reads = true
  ended : ∃ entries, final.ended = state.ended ++ entries ∧
    entries.map (fun entry => entry.1.room) = rooms
  idle : final.reading = none
  sending : final.sending = state.sending

section Progress
variable {state middle next final : State} {call : Call} {rooms others : List Nat}
  {actions later : List Action}

theorem Reads.append (first : Reads state middle rooms actions)
    (second : Reads middle final others later) :
    Reads state final (rooms ++ others) (actions ++ later) where
  ran := Machine.run_append.mpr ⟨middle, first.ran, second.ran⟩
  own action member := (List.mem_append.mp member).elim (first.own action) (second.own action)
  ended := by
    obtain ⟨before, earlier, same⟩ := first.ended
    obtain ⟨after, last, also⟩ := second.ended
    refine ⟨before ++ after, ?_, ?_⟩
    · rw [last, earlier, List.append_assoc]
    · rw [List.map_append, same, also]
  idle := second.idle
  sending := second.sending.trans first.sending

/-- A call that ends in one step of the reader is a run of the reader. -/
theorem Reads.single {action : Action} {room : Nat} (entry : Call × Bytes)
    (own : action.reads = true) (moved : step state action = some next)
    (same : entry.1.room = room) (ended : next.ended = state.ended ++ [entry])
    (idle : next.reading = none) (sending : next.sending = state.sending) :
    Reads state next [room] [action] where
  ran := Machine.run_cons.mpr ⟨next, moved, rfl⟩
  own _ member := (List.mem_singleton.mp member) ▸ own
  ended := ⟨[entry], ended, congrArg (fun room => [room]) same⟩
  idle := idle
  sending := sending

/-- One more step of the reader comes first if it ends no call. -/
theorem Reads.cons {action : Action} (own : action.reads = true)
    (moved : step state action = some next) (ended : next.ended = state.ended)
    (sending : next.sending = state.sending) (rest : Reads next final rooms actions) :
    Reads state final rooms (action :: actions) where
  ran := Machine.run_cons.mpr ⟨next, moved, rest.ran⟩
  own := List.forall_mem_cons.mpr ⟨own, rest.own⟩
  ended := ended ▸ rest.ended
  idle := rest.idle
  sending := rest.sending.trans sending

/-- A pass over unread bytes ends the call. -/
theorem pass_ends (state : State) (call : Call) (left : state.reader.unread ≠ []) :
    ∃ reader bytes, state.pass call = { state with reader }.endCall call bytes := by
  obtain ⟨reader, copied, _⟩ := ChannelReader.pass_copied call.room left
  exact ⟨reader, _, by rw [State.pass, copied]⟩

theorem pass_waits (state : State) (call : Call) (used : state.reader.unread = []) :
    state.pass call = { state with reading := some call } := by
  rw [State.pass, ChannelReader.pass_exhausted used]

/-- A call that waits skips empty chunks and ends with the first other chunk or with the last one
before the sender was dropped. -/
theorem Sound.ends (sound : Sound state) (reading : state.reading = some call)
    (fed : state.sending = false ∨ ∃ chunk ∈ state.input.items, chunk ≠ []) :
    ∃ count ≤ state.input.items.length + 1, ∃ final,
      Reads state final [call.room] (List.replicate count .receive) := by
  induction items : state.input.items generalizing state call with
  | nil =>
      have dropped : state.sending = false := by
        rw [items] at fed
        exact fed.resolve_right nofun
      have moved : ArchiveStream.step state .receive = some (state.endCall call []) := by
        simp [ArchiveStream.step, reading, Channel.receive_none.mpr items, dropped]
      exact ⟨1, Nat.le_refl _, _, .single (call, []) rfl moved rfl rfl rfl rfl⟩
  | cons chunk rest ih =>
      have received : ∃ input, state.input.receive = some (chunk, input) := by
        simp [Channel.receive, items]
      obtain ⟨input, received⟩ := received
      have queued : input.items = rest := by
        have both := (Channel.receive_some received).1
        rw [items] at both
        exact (List.cons.inj both).2.symm
      have moved : ArchiveStream.step state .receive =
          some ({ state with input, reader := .load chunk }.pass
            { call with chunks := call.chunks ++ [chunk] }) := by
        simp [ArchiveStream.step, reading, received]
      by_cases empty : chunk = []
      · rw [pass_waits { state with input, reader := .load chunk } _ empty] at moved
        have others : state.sending = false ∨ ∃ chunk ∈ rest, chunk ≠ [] := by
          refine fed.imp_right ?_
          rw [items]
          rintro ⟨other, member, filled⟩
          rcases List.mem_cons.mp member with rfl | later
          · exact absurd empty filled
          · exact ⟨other, later, filled⟩
        obtain ⟨count, few, final, reads⟩ :=
          ih (sound.step moved) rfl (queued.symm ▸ others) queued
        exact ⟨count + 1, Nat.succ_le_succ few, final, .cons rfl moved rfl rfl reads⟩
      · obtain ⟨reader, bytes, ends⟩ := pass_ends { state with input, reader := .load chunk }
          { call with chunks := call.chunks ++ [chunk] } empty
        rw [ends] at moved
        exact ⟨1, Nat.le_add_left _ _, _, .single
          ({ call with chunks := call.chunks ++ [chunk] }, bytes) rfl moved rfl rfl rfl rfl⟩

/-- Once the sender is dropped, every further call with a nonempty buffer ends. -/
theorem Sound.read (sound : Sound state) (idle : state.reading = none)
    (dropped : state.sending = false) {room : Nat} (positive : room ≠ 0) :
    ∃ actions final, Reads state final [room] actions := by
  have moved : ArchiveStream.step state (.read room) = some (state.pass ⟨room, []⟩) := by
    simp [ArchiveStream.step, idle, sound.intact, positive]
  by_cases used : state.reader.unread = []
  · rw [pass_waits _ _ used] at moved
    obtain ⟨count, _, final, reads⟩ := (sound.step moved).ends rfl (.inl dropped)
    exact ⟨_, final, .cons rfl moved rfl rfl reads⟩
  · obtain ⟨reader, bytes, ends⟩ := pass_ends state ⟨room, []⟩ used
    rw [ends] at moved
    exact ⟨_, _, .single (⟨room, []⟩, bytes) rfl moved rfl rfl rfl rfl⟩

/-- A pass sends nothing to the reader. -/
theorem pass_sent (state : State) (call : Call) :
    (state.pass call).source.sent = state.source.sent := by
  by_cases used : state.reader.unread = []
  · rw [pass_waits state call used]
    rfl
  · obtain ⟨reader, copied, rest, _⟩ := ChannelReader.pass_copied call.room used
    rw [State.pass, copied]
    apply State.endCall_sent
    rw [rest, List.take_append_drop]

/-- The reader's own steps send nothing to it. -/
theorem Sound.reads_sent (sound : Sound state) {action : Action} (own : action.reads = true)
    (moved : ArchiveStream.step state action = some next) :
    next.source.sent = state.source.sent := by
  cases step_move moved with
  | write | dropWriter | take | send | finish | cut | hangUp => cases own
  | readNothing idle => exact State.endCall_sent state.reader rfl
  | read idle room => exact pass_sent _ _
  | receive reading received =>
      rw [← sound.load_source reading received]
      exact pass_sent _ _
  | endOfStream reading drained dropped => exact State.endCall_sent state.reader rfl

/-- Once the sender is dropped, the call that waits ends, and so do any further calls with nonempty
buffers. -/
theorem Sound.reads (sound : Sound state) (dropped : state.sending = false)
    (positive : ∀ room ∈ rooms, room ≠ 0) : ∃ actions final,
      Reads state final ((state.reading.map Call.room).toList ++ rooms) actions := by
  induction rooms using List.reverseRecOn with
  | nil =>
      cases reading : state.reading with
      | none => exact ⟨[], state, rfl, nofun, ⟨[], (List.append_nil _).symm, rfl⟩, reading, rfl⟩
      | some call =>
          obtain ⟨count, _, final, reads⟩ := sound.ends reading (.inl dropped)
          exact ⟨_, final, reads⟩
  | append_singleton before room ih =>
      rw [List.forall_mem_append] at positive
      obtain ⟨actions, middle, first⟩ := ih positive.1
      have there := Machine.run_invariant Sound.step sound first.ran
      obtain ⟨later, final, last⟩ := there.read first.idle (first.sending.trans dropped)
        (positive.2 room (List.mem_singleton_self room))
      exact ⟨_, final, List.append_assoc _ _ _ ▸ first.append last⟩

/-- Calls that return at least one byte each return at least as many bytes as they are. -/
theorem length_le_returned {entries : List (Call × Bytes)}
    (some_ : ∀ entry ∈ entries, entry.1.room ≠ 0 → entry.2 ≠ []) :
    (entries.filter fun entry => entry.1.room ≠ 0).length ≤ (entries.flatMap Prod.snd).length := by
  induction entries with
  | nil => exact Nat.le_refl _
  | cons entry rest ih =>
      obtain ⟨first, others⟩ := List.forall_mem_cons.mp some_
      have shorter := ih others
      rw [List.flatMap_cons, List.length_append]
      by_cases room : entry.1.room = 0
      · rw [List.filter_cons_of_neg (by simpa using room)]
        omega
      · have filled := List.length_pos_iff.mpr (first room)
        rw [List.filter_cons_of_pos (by simpa using room), List.length_cons]
        omega

/-- The reader's own runs send nothing to it. -/
theorem Sound.run_sent (sound : Sound state) (reads : Reads state final rooms actions) :
    Sound final ∧ final.source.sent = state.source.sent := by
  have keeps {before next : State} {action : Action}
      (held : Sound before ∧ before.source.sent = state.source.sent) (own : action.reads = true)
      (moved : ArchiveStream.step before action = some next) :
      Sound next ∧ next.source.sent = state.source.sent :=
    ⟨held.1.step moved, (held.1.reads_sent own moved).trans held.2⟩
  exact Machine.run_along keeps ⟨sound, rfl⟩
    (Machine.along_of_forall (fun action member _ => reads.own action member) state) reads.ran

/-- As many calls with nonempty buffers as bytes are left return all of them. -/
theorem Sound.exhausts (sound : Sound state) (dropped : state.sending = false)
    (reads : Reads state final rooms actions)
    (enough : state.source.left.length ≤ (rooms.filter (· ≠ 0)).length) : final.Complete := by
  obtain ⟨there, sent⟩ := sound.run_sent reads
  obtain ⟨entries, ended, same⟩ := reads.ended
  apply there.complete (reads.sending.trans dropped)
  by_cases short : ∃ entry ∈ entries, entry.1.room ≠ 0 ∧ entry.2 = []
  · obtain ⟨entry, member, room, nothing⟩ := short
    have latest : entry ∈ final.ended := by
      rw [ended]
      exact List.mem_append_right _ member
    exact (there.zero entry latest room nothing).2
  · push Not at short
    have many := length_le_returned short
    rw [← same, List.filter_map, List.length_map] at enough
    have split : entries.flatMap Prod.snd ++ final.source.left = state.source.left := by
      have whole : (state.returned ++ entries.flatMap Prod.snd) ++ final.source.left =
          state.returned ++ state.source.left := by
        rw [State.returned, ← List.flatMap_append, ← ended]
        exact sent
      rw [List.append_assoc] at whole
      exact List.append_cancel_left whole
    have lengths := congrArg List.length split
    rw [List.length_append] at lengths
    apply List.eq_nil_of_length_eq_zero
    change state.source.left.length ≤
      (entries.filter fun entry => entry.1.room ≠ 0).length at enough
    omega

end Progress

/-- The reader never leaves the range of its chunk, no empty chunk is written, and what the reader
returns is the beginning of what was written. A call with a nonempty buffer returns nothing only at
the end, it receives at most one chunk with bytes, and it ends as soon as there is one or the sender
is dropped. Once the sender is dropped, further calls return everything. -/
structure Faithful (state : State) : Prop where
  inRange : state.reader.pos ≤ state.reader.leftover.length ∧ state.panicked = false
  solid : ∀ chunk ∈ state.output.items, chunk ≠ []
  inOrder : state.returned <+: state.written
  fits : ∀ entry ∈ state.ended, entry.2.length ≤ entry.1.room
  onlyAtEnd : ∀ entry ∈ state.ended, entry.1.room ≠ 0 → entry.2 = [] → state.Complete
  longEnough : state.returned.length < (state.ended.filter fun entry => entry.1.room ≠ 0).length →
    state.Complete
  brief : ∀ entry ∈ state.ended, (entry.1.chunks.filter (· ≠ [])).length ≤ 1
  skips : ∀ call, state.reading = some call → ∀ chunk ∈ call.chunks, chunk = []
  ends : ∀ call, state.reading = some call →
    (state.sending = false ∨ ∃ chunk ∈ state.input.items, chunk ≠ []) →
      ∃ count ≤ state.input.items.length + 1, ∃ final,
        Reads state final [call.room] (List.replicate count .receive)
  continues : state.sending = false → ∀ rooms : List Nat, (∀ room ∈ rooms, room ≠ 0) →
    ∃ actions final,
      Reads state final ((state.reading.map Call.room).toList ++ rooms) actions ∧
        (state.source.left.length ≤ rooms.length → final.Complete)

/-- The archive channel is a faithful byte stream along every run. -/
theorem archive_faithful {actions : List Action} {state : State}
    (ran : Machine.run step start actions = some state) : Faithful state := by
  have sound := Machine.run_invariant Sound.step Sound.start ran
  have atEnd (entry : Call × Bytes) (member : entry ∈ state.ended) (room : entry.1.room ≠ 0)
      (nothing : entry.2 = []) : state.Complete := by
    obtain ⟨dropped, empty⟩ := sound.zero entry member room nothing
    exact sound.complete dropped empty
  constructor
  case inRange => exact ⟨sound.within, sound.intact⟩
  case solid => exact sound.solid
  case inOrder =>
    have first : state.returned <+: state.source.sent := List.prefix_append _ _
    exact (first.trans (List.prefix_append _ _)).trans sound.flow
  case fits => exact sound.fits
  case onlyAtEnd => exact atEnd
  case longEnough =>
    intro many
    by_contra incomplete
    have few := length_le_returned fun entry member room nothing =>
      incomplete (atEnd entry member room nothing)
    exact absurd many (Nat.not_lt.mpr few)
  case brief => exact sound.brief
  case skips =>
    intro call reading
    exact (sound.waiting call reading).2.2
  case ends =>
    intro call reading fed
    exact sound.ends reading fed
  case continues =>
    intro dropped rooms positive
    obtain ⟨later, final, reads⟩ := sound.reads dropped positive
    refine ⟨later, final, reads, fun enough => sound.exhausts dropped reads ?_⟩
    have kept : rooms.filter (· ≠ 0) = rooms := by
      rw [List.filter_eq_self]
      intro room member
      exact decide_eq_true (positive room member)
    rw [List.filter_append, List.length_append, kept]
    exact Nat.le_add_left_of_le enough

/-- One write is split around an empty chunk, and short reads return it whole. -/
theorem archive_faithful_split : ∃ state,
    Machine.run step start [.write [1, 2, 3], .write [], .dropWriter, .read 2, .take, .send 0,
        .receive, .send 2, .receive, .read 2, .send 1, .finish, .receive, .read 1, .receive] =
      some state ∧
      state.returned = [1, 2, 3] ∧ Faithful state := by
  obtain ⟨state, ran, returned⟩ := Option.map_eq_some_iff.mp (show
    (Machine.run step start [.write [1, 2, 3], .write [], .dropWriter, .read 2, .take, .send 0,
        .receive, .send 2, .receive, .read 2, .send 1, .finish, .receive, .read 1, .receive]).map
      State.returned = some [1, 2, 3] by decide)
  exact ⟨state, ran, returned, archive_faithful ran⟩

end Tunnix.ArchiveStream
