import ProfileLexer.Log.Journal

/-!
What is recorded of an entry. A context stands over the details that an event has of its own, and
an entry keeps the innermost of its contexts. A journal that is written to takes the events of its
entries in their order; its buffer holds all of them as long as it has room.
-/

namespace ProfileLexer

namespace Details

@[simp] theorem lookup_insert_self (details : Details) (name value : String) :
    (insert details name value).lookup name = some value := by
  induction details with
  | nil => simp [insert]
  | cons detail details ih =>
    obtain ⟨first, old⟩ := detail
    unfold insert
    by_cases before : name < first
    · rw [if_pos before, List.lookup_cons_self]
    · rw [if_neg before]
      by_cases same : name = first
      · rw [if_pos same, List.lookup_cons_self]
      · rw [if_neg same, List.lookup_cons, beq_false_of_ne same]
        exact ih

theorem lookup_insert_of_ne (details : Details) {name other : String} (value : String)
    (apart : other ≠ name) : (insert details name value).lookup other = details.lookup other := by
  have passed (rest : Details) : List.lookup other ((name, value) :: rest) = rest.lookup other := by
    rw [List.lookup_cons, beq_false_of_ne apart]
  induction details with
  | nil => exact passed []
  | cons detail details ih =>
    obtain ⟨first, old⟩ := detail
    unfold insert
    by_cases before : name < first
    · rw [if_pos before, passed]
    · rw [if_neg before]
      by_cases same : name = first
      · subst same
        rw [if_pos rfl, passed, List.lookup_cons, beq_false_of_ne apart]
      · rw [if_neg same, List.lookup_cons, List.lookup_cons, ih]

end Details

namespace EventBuffer

/-- A buffer with room for some events holds them all behind those that it had. Without room it
drops its oldest events, and which those are depends on the order. -/
theorem events_foldl_add_of_room {buffer : EventBuffer} {events : List Event}
    (room : buffer.events.length + events.length ≤ buffer.capacity) :
    (events.foldl add buffer).events = buffer.events ++ events := by
  induction events generalizing buffer with
  | nil => rw [List.foldl_nil, List.append_nil]
  | cons event events ih =>
    rw [List.length_cons] at room
    have dropped : buffer.events.length + 1 - buffer.capacity = 0 := by omega
    have added : (buffer.add event).events = buffer.events ++ [event] := by
      unfold add
      rw [dropped, List.drop_zero]
    have left : (buffer.add event).events.length + events.length ≤ (buffer.add event).capacity := by
      rw [added, List.length_append, List.length_singleton]
      show buffer.events.length + 1 + events.length ≤ buffer.capacity
      omega
    rw [List.foldl_cons, ih left, added, List.append_assoc, List.singleton_append]

end EventBuffer

/-- What an event tells of: the run, the worker and the chunk, each where the details have it. -/
def Event.subject (event : Event) : Option String × Option String × Option String :=
  (event.details.lookup "run", event.details.lookup "worker", event.details.lookup "chunk")

namespace RunContext

/-- An event as a context hands it on: with the code that it had, and with the details of the
context before those of its own. -/
structure Names (context : RunContext) (event original : Event) : Prop where
  code : event.code = original.code
  run : event.details.lookup "run" = some context.label
  worker : event.details.lookup "worker" =
    (context.worker.map toString).or (original.details.lookup "worker")
  chunk : event.details.lookup "chunk" =
    (context.chunk.map toString).or (original.details.lookup "chunk")

theorem level_attach (context : RunContext) (event : Event) :
    (context.attach event).level = event.level := by
  obtain ⟨label, worker, chunk⟩ := context
  cases worker <;> cases chunk <;> rfl

theorem names_attach (context : RunContext) (event : Event) :
    context.Names (context.attach event) event := by
  obtain ⟨label, worker, chunk⟩ := context
  cases worker <;> cases chunk <;>
    constructor <;> simp [attach, Event.withDetail, Details.lookup_insert_of_ne]

end RunContext

namespace Entry

@[simp] theorem inside_event (context : RunContext) (entry : Entry) :
    (entry.inside context).event = entry.event := rfl

theorem inside_context_of_bare {entry : Entry} (bare : entry.context = none) (context : RunContext) :
    (entry.inside context).context = some context := by
  unfold inside
  rw [bare, Option.none_or]

/-- An entry keeps the first context that it is logged in, which is the innermost one. -/
theorem inside_inside (outer inner : RunContext) (entry : Entry) :
    (entry.inside inner).inside outer = entry.inside inner := by
  obtain ⟨event, timed, context⟩ := entry
  cases context <;> rfl

end Entry

namespace Journal

/-- The event that a journal records for an entry, if it records one. The preferences may leave it
out or change it, and then the limit of the journal is asked. -/
def event? (journal : Journal) (entry : Entry) : Option Event :=
  (journal.preferences.deliver
    { entry with context := entry.context.or journal.context }).filter (·.level.within journal.limit)

/-- The events that a journal records for some entries. -/
def events (journal : Journal) (entries : List Entry) : List Event :=
  entries.filterMap journal.event?

/-- The journal with some more events, oldest first. Neither its limit nor its preferences look at
them again. -/
def addAll (journal : Journal) (events : List Event) : Journal :=
  { journal with buffer := events.foldl EventBuffer.add journal.buffer }

/-- The journal after some entries have been written to it, oldest first. Full buffers drop events
on the way. -/
def writeAll (journal : Journal) (entries : List Entry) : Journal :=
  entries.foldl write journal

theorem write_eq (journal : Journal) (entry : Entry) :
    journal.write entry = journal.addAll (journal.event? entry).toList := by
  unfold write event?
  cases journal.preferences.deliver { entry with context := entry.context.or journal.context } with
  | none => rfl
  | some event =>
    unfold record
    cases within : event.level.within journal.limit with
    | true => simp [Option.filter, within, addAll]
    | false => simp [Option.filter, within, addAll]

/-- A journal that is written to takes the events of the entries, in their order. That its buffer
may drop events does not change which ones it takes later. -/
theorem writeAll_eq (journal : Journal) (entries : List Entry) :
    journal.writeAll entries = journal.addAll (journal.events entries) := by
  unfold writeAll
  induction entries generalizing journal with
  | nil => rfl
  | cons entry entries ih =>
    have split : journal.events (entry :: entries) =
        (journal.event? entry).toList ++ journal.events entries := by
      unfold events
      cases recorded : journal.event? entry <;> simp [recorded]
    rw [List.foldl_cons, ih, write_eq, split]
    unfold addAll
    rw [List.foldl_append]
    rfl

/-- Entries in another order leave events in another order, and none is left out or recorded
twice. -/
theorem events_perm (journal : Journal) {entries others : List Entry} (perm : entries.Perm others) :
    (journal.events entries).Perm (journal.events others) :=
  perm.filterMap _

/-- A buffer with room holds the events of all entries behind its own. -/
theorem events_writeAll_of_room {journal : Journal} {entries : List Entry}
    (room : journal.buffer.events.length + (journal.events entries).length ≤
      journal.buffer.capacity) :
    (journal.writeAll entries).buffer.events = journal.buffer.events ++ journal.events entries := by
  rw [writeAll_eq]
  exact EventBuffer.events_foldl_add_of_room room

/-- With room for its events, a buffer holds the same events whatever the order of the entries. -/
theorem events_writeAll_perm {journal : Journal} {entries others : List Entry}
    (perm : entries.Perm others)
    (room : journal.buffer.events.length + (journal.events entries).length ≤
      journal.buffer.capacity) :
    (journal.writeAll entries).buffer.events.Perm (journal.writeAll others).buffer.events := by
  have same := journal.events_perm perm
  rw [events_writeAll_of_room room, events_writeAll_of_room (same.length_eq ▸ room)]
  exact same.append_left _

/-- Errors are recorded by every journal, unless they report how long something took. No limit
leaves them out. -/
theorem exists_event?_of_error (journal : Journal) (entry : Entry) (untimed : entry.timed = false)
    (urgent : entry.event.level = .error) : ∃ event, journal.event? entry = some event := by
  have delivered : ∃ event, journal.preferences.deliver
      { entry with context := entry.context.or journal.context } = some event ∧
        event.level = .error := by
    unfold LogPreferences.deliver
    simp only [untimed, Bool.false_and, Bool.false_eq_true, if_false]
    split
    · refine ⟨_, rfl, ?_⟩
      split
      · rw [RunContext.level_attach]
        exact urgent
      · exact urgent
    · exact ⟨_, rfl, urgent⟩
  obtain ⟨event, found, level⟩ := delivered
  refine ⟨event, Option.filter_eq_some_iff.mpr ⟨found, ?_⟩⟩
  simp [level, LogLevel.within, LogLevel.rank]

/-- Where run contexts are recorded, an event names the context of its entry. Entries that have a
context already are left out here, as they keep it. -/
theorem names_of_event? {journal : Journal} (attaches : journal.preferences.runContext = true)
    {entry : Entry} (bare : entry.context = none) {context : RunContext} {event : Event}
    (recorded : journal.event? (entry.inside context) = some event) :
    context.Names event entry.event := by
  unfold event? at recorded
  obtain ⟨delivered, _⟩ := Option.filter_eq_some_iff.mp recorded
  rw [Entry.inside_context_of_bare bare, Option.some_or] at delivered
  unfold LogPreferences.deliver at delivered
  by_cases silent : (entry.timed && !journal.preferences.performance) = true
  · have nothing : none = some event := (if_pos silent).symm.trans delivered
    cases nothing
  · have attached := (if_neg silent).symm.trans delivered
    simp only [attaches, Entry.inside_event, if_true, Option.some.injEq] at attached
    subst attached
    obtain ⟨code, run, worker, chunk⟩ := context.names_attach
      { entry.event with message := shortenMessage entry.event.message }
    exact ⟨code, run, worker, chunk⟩

end Journal

end ProfileLexer
