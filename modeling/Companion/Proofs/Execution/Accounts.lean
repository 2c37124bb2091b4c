import Companion.Proofs.Execution.Streams

/-!
The accounts of the streams: the table, the ledger and the trace tell the same story after whatever was
done, `Accounted`. Main statement: `accounted_step`, each operation keeps them in step, whether it succeeds
or not.
-/
set_option autoImplicit false

namespace Companion

def Event.opened? : Event → Option StreamId
  | .opened id _ _ => some id
  | _ => none

def Event.released? : Event → Option StreamId
  | .released id => some id
  | _ => none

namespace Streams

-- What happens to streams and to the files below them.
inductive Action
  | openRead (path : Path)
  | create (path : Path)
  | readText (id : StreamId)
  | write (id : StreamId) (bytes : Bytes)
  | flush (id : StreamId)
  | release (id : StreamId)
  | enterFinally (member : String)
  -- The files change without the streams.
  | elsewhere (files : FileSystem)
  -- An error while reading or writing leaves an open stream at any position.
  | disturb (id : StreamId) (handle : Handle)

def act (streams : Streams) : Action → Streams
  | .openRead path => (streams.openRead path).1
  | .create path => (streams.create path).1
  | .readText id => (streams.readText id).1
  | .write id bytes => (streams.write id bytes).1
  | .flush id => (streams.flush id).1
  | .release id => (streams.release id).1
  | .enterFinally member => streams.enterFinally member
  | .elsewhere files => { streams with files }
  | .disturb id handle =>
    match streams.handle id with
    | .ok _ => streams.withHandle id (some handle)
    | .error _ => streams

def actAll (streams : Streams) (actions : List Action) : Streams := actions.foldl act streams

-- The releases among the actions of streams that were released before.
def repeats (streams : Streams) : Action → Nat
  | .release id => if .released id ∈ streams.trace then 1 else 0
  | _ => 0

def repeatsAll (streams : Streams) : List Action → Nat
  | [] => 0
  | action :: rest => streams.repeats action + (streams.act action).repeatsAll rest

/-! ## One action -/

def releasing (streams : Streams) (files : FileSystem) (id : StreamId) : Streams :=
  ({ streams with
    files := files
    ledger := { streams.ledger with released := streams.ledger.released + 1 } }.withHandle id none).record
      (.released id)

-- All that an action may do, and whether it released something again.
inductive Step (streams : Streams) : Nat → Streams → Prop
  | idle (files : FileSystem) : Step streams 0 { streams with files }
  | opened (files : FileSystem) (path : Path) (access : Access) (handle : Handle) :
      Step streams 0 (streams.opening files path access handle)
  | moved (files : FileSystem) {id : StreamId} {path : Path} {access : Access} {held : Handle}
      (there : streams.table[id]? = some ⟨path, access, some held⟩) (handle : Handle) :
      Step streams 0 ({ streams with files }.withHandle id (some handle))
  | released (files : FileSystem) {id : StreamId} {path : Path} {access : Access} {held : Handle}
      (there : streams.table[id]? = some ⟨path, access, some held⟩) : Step streams 0 (streams.releasing files id)
  | repeated {id : StreamId} {path : Path} {access : Access}
      (there : streams.table[id]? = some ⟨path, access, none⟩) :
      Step streams 1 { streams with
        ledger := { streams.ledger with doubleReleased := streams.ledger.doubleReleased + 1 } }
  | entered (member : String) : Step streams 0 (streams.enterFinally member)

structure Accounted (streams : Streams) : Prop where
  acquired : streams.ledger.acquired = streams.table.length
  opened : streams.trace.filterMap Event.opened? = List.range streams.ledger.acquired
  released : streams.ledger.released = (streams.trace.filterMap Event.released?).length
  balance : streams.openCount + streams.ledger.released = streams.ledger.acquired
  once : (streams.trace.filterMap Event.released?).Nodup
  ordered : ∀ before after id, streams.trace = before ++ .released id :: after →
    ∃ path access, .opened id path access ∈ before
  closed : ∀ id, .released id ∈ streams.trace ↔
    ∃ path access, streams.table[id]? = some ⟨path, access, none⟩

variable {streams after : Streams} {id : StreamId}

theorem there_of_handle {handle : Handle} (held : streams.handle id = .ok handle) :
    ∃ path access, streams.table[id]? = some ⟨path, access, some handle⟩ := by
  unfold Streams.handle at held
  split at held
  · cases held
  · cases held
  · cases held
    exact ⟨_, _, by assumption⟩

theorem step_idle : Step streams 0 streams := .idle streams.files

theorem step_open_read (path : Path) : Step streams 0 (streams.openRead path).1 := by
  cases resolved : streams.files.resolve path with
  | error error =>
      rw [open_read_of_error resolved]
      exact step_idle
  | ok found =>
      rw [open_read_of_ok resolved]
      exact .opened _ _ _ _

theorem step_create (path : Path) : Step streams 0 (streams.create path).1 := by
  cases made : streams.files.createFile path with
  | error error =>
      rw [create_of_error made]
      exact step_idle
  | ok target =>
      rw [create_of_ok made]
      exact .opened _ _ _ _

theorem step_read_text (id : StreamId) : Step streams 0 (streams.readText id).1 := by
  unfold readText
  split
  · exact step_idle
  · exact step_idle
  · rename_i held
    obtain ⟨path, access, there⟩ := there_of_handle held
    split
    · exact step_idle
    · exact .moved streams.files there _

theorem step_write (id : StreamId) (bytes : Bytes) : Step streams 0 (streams.write id bytes).1 := by
  unfold write
  split
  · exact step_idle
  · exact step_idle
  · rename_i held
    obtain ⟨path, access, there⟩ := there_of_handle held
    exact .moved _ there _

theorem step_flush (id : StreamId) : Step streams 0 (streams.flush id).1 := by
  unfold flush
  split
  · exact step_idle
  · exact step_idle
  · rename_i held
    obtain ⟨path, access, there⟩ := there_of_handle held
    exact .moved _ there _

theorem step_disturb (id : StreamId) (handle : Handle) : Step streams 0 (streams.act (.disturb id handle)) := by
  rw [act]
  split
  · rename_i held
    obtain ⟨path, access, there⟩ := there_of_handle held
    exact .moved streams.files there handle
  · exact step_idle

theorem step_release (accounted : streams.Accounted) (id : StreamId) :
    Step streams (streams.repeats (.release id)) (streams.release id).1 := by
  have closed := accounted.closed id
  cases found : streams.table[id]? with
  | none =>
      have unreleased : Event.released id ∉ streams.trace := by
        rw [closed, found]
        rintro ⟨path, access, there⟩
        cases there
      rw [repeats, if_neg unreleased, release, found]
      exact step_idle
  | some entry =>
      obtain ⟨path, access, handle⟩ := entry
      cases handle with
      | none =>
          rw [repeats, if_pos (closed.mpr ⟨path, access, found⟩), release, found]
          exact .repeated found
      | some held =>
          have unreleased : Event.released id ∉ streams.trace := by
            rw [closed, found]
            rintro ⟨path, access, other⟩
            cases other
          rw [repeats, if_neg unreleased, release, found]
          exact .released _ found

theorem step_act (accounted : streams.Accounted) (action : Action) :
    Step streams (streams.repeats action) (streams.act action) := by
  cases action with
  | openRead path => exact step_open_read path
  | create path => exact step_create path
  | readText id => exact step_read_text id
  | write id bytes => exact step_write id bytes
  | flush id => exact step_flush id
  | release id => exact step_release accounted id
  | enterFinally member => exact .entered member
  | elsewhere files => exact .idle files
  | disturb id handle => exact step_disturb id handle

/-! ## The accounts after it -/

section

variable {count : Nat}

theorem repeats_of_step (step : Step streams count after) :
    after.ledger.doubleReleased = streams.ledger.doubleReleased + count := by
  cases step <;> rfl

theorem grown_of_step (step : Step streams count after) : ∃ events, after.trace = streams.trace ++ events := by
  cases step with
  | idle files => exact ⟨[], (List.append_nil _).symm⟩
  | opened files path access handle => exact ⟨_, rfl⟩
  | moved files there handle => exact ⟨[], (List.append_nil _).symm⟩
  | released files there => exact ⟨_, rfl⟩
  | repeated there => exact ⟨[], (List.append_nil _).symm⟩
  | entered member => exact ⟨_, rfl⟩

end

-- The table around one of its streams.
theorem split_table {entries : List StreamEntry} {entry : StreamEntry} (there : entries[id]? = some entry) :
    ∃ front back, entries = front ++ entry :: back ∧ front.length = id := by
  obtain ⟨within, found⟩ := List.getElem?_eq_some_iff.mp there
  refine ⟨entries.take id, entries.drop (id + 1), ?_, List.length_take_of_le (Nat.le_of_lt within)⟩
  rw [← found, List.getElem_cons_drop, List.take_append_drop]

theorem modify_at (front back : List StreamEntry) (entry : StreamEntry) (change : StreamEntry → StreamEntry) :
    (front ++ entry :: back).modify front.length change = front ++ change entry :: back :=
  List.modifyTailIdx_add _ 0 front (entry :: back)

theorem open_count_modify {entries : List StreamEntry} {entry : StreamEntry}
    (there : entries[id]? = some entry) (change : StreamEntry → StreamEntry) :
    ((entries.modify id change).filter fun entry => entry.handle.isSome).length +
        (if entry.handle.isSome then 1 else 0) =
      (entries.filter fun entry => entry.handle.isSome).length +
        (if (change entry).handle.isSome then 1 else 0) := by
  obtain ⟨front, back, rfl, rfl⟩ := split_table there
  rw [modify_at, List.filter_append, List.filter_append, List.filter_cons, List.filter_cons]
  split <;> split <;> simp <;> omega

-- Where a list ends with an item, what stands in front of an item of its own ends there or earlier.
theorem split_of_concat {α : Type} {before after items : List α} {item last : α}
    (same : items ++ [last] = before ++ item :: after) :
    (∃ rest, items = before ++ item :: rest) ∨ items = before ∧ last = item := by
  rcases List.eq_nil_or_concat after with rfl | ⟨rest, other, rfl⟩
  · obtain ⟨front, final⟩ := List.append_inj' same rfl
    cases final
    exact .inr ⟨front, rfl⟩
  · rw [List.concat_eq_append, ← List.cons_append, ← List.append_assoc] at same
    exact .inl ⟨rest, (List.append_inj' same rfl).1⟩

-- Another event keeps the order if, for the release of a stream, the opening stands in front.
theorem ordered_concat {trace : List Event} {event : Event}
    (ordered : ∀ before after id, trace = before ++ .released id :: after →
      ∃ path access, .opened id path access ∈ before)
    (opening : ∀ id, event = .released id → ∃ path access, .opened id path access ∈ trace) :
    ∀ before after id, trace ++ [event] = before ++ .released id :: after →
      ∃ path access, .opened id path access ∈ before := by
  intro before after id same
  rcases split_of_concat same with ⟨rest, within⟩ | ⟨rfl, last⟩
  · exact ordered before rest id within
  · exact opening id last

theorem mem_released {trace : List Event} : id ∈ trace.filterMap Event.released? ↔ .released id ∈ trace := by
  rw [List.mem_filterMap]
  constructor
  · rintro ⟨event, member, found⟩
    cases event with
    | released other =>
        cases found
        exact member
    | opened other path access => cases found
    | finallyEntered other => cases found
  · exact fun member => ⟨.released id, member, rfl⟩

namespace Accounted

variable (accounted : streams.Accounted)

include accounted

theorem opening_of_entry {entry : StreamEntry} (there : streams.table[id]? = some entry) :
    ∃ path access, .opened id path access ∈ streams.trace := by
  have within := (List.getElem?_eq_some_iff.mp there).1
  have listed : id ∈ streams.trace.filterMap Event.opened? := by
    rw [accounted.opened, accounted.acquired]
    exact List.mem_range.mpr within
  obtain ⟨event, member, found⟩ := List.mem_filterMap.mp listed
  cases event with
  | opened other path access =>
      cases found
      exact ⟨path, access, member⟩
  | released other => cases found
  | finallyEntered other => cases found

end Accounted

theorem accounted_fresh (files : FileSystem) : Accounted { files } where
  acquired := rfl
  opened := rfl
  released := rfl
  balance := rfl
  once := List.nodup_nil
  ordered := by simp
  closed := by simp

theorem accounted_opening (accounted : streams.Accounted) (files : FileSystem) (path : Path)
    (access : Access) (handle : Handle) : (streams.opening files path access handle).Accounted where
  acquired := by simp [opening, accounted.acquired]
  opened := by
    have event : Event.opened? (.opened streams.table.length path access) = some streams.table.length := rfl
    simp [opening, accounted.opened, event, List.range_succ, accounted.acquired]
  released := by
    have event : Event.released? (.opened streams.table.length path access) = none := rfl
    simp [opening, accounted.released, event]
  balance := by
    have balance := accounted.balance
    simp only [openCount, opening, List.filter_append, List.length_append] at balance ⊢
    simp
    omega
  once := by
    have event : Event.released? (.opened streams.table.length path access) = none := rfl
    simpa [opening, event] using accounted.once
  ordered := by
    refine ordered_concat accounted.ordered ?_
    intro other same
    cases same
  closed := by
    intro other
    have unreleased : Event.released other ≠ .opened streams.table.length path access := by
      intro same
      cases same
    have kept (name : Path) (mode : Access) :
        (streams.table ++ [⟨path, access, some handle⟩])[other]? = some ⟨name, mode, none⟩ ↔
          streams.table[other]? = some ⟨name, mode, none⟩ := by
      rw [List.getElem?_append]
      split
      · rfl
      · rename_i beyond
        rw [List.getElem?_eq_none (Nat.le_of_not_lt beyond)]
        constructor
        · intro found
          cases List.mem_singleton.mp (List.mem_of_getElem? found)
        · intro found
          cases found
    simp [opening, unreleased, kept, accounted.closed other]

theorem accounted_entered (accounted : streams.Accounted) (member : String) :
    (streams.enterFinally member).Accounted where
  acquired := accounted.acquired
  opened := by
    have event : Event.opened? (.finallyEntered member) = none := rfl
    simpa [enterFinally, record, event] using accounted.opened
  released := by
    have event : Event.released? (.finallyEntered member) = none := rfl
    simpa [enterFinally, record, event] using accounted.released
  balance := accounted.balance
  once := by
    have event : Event.released? (.finallyEntered member) = none := rfl
    simpa [enterFinally, record, event] using accounted.once
  ordered := by
    refine ordered_concat accounted.ordered ?_
    intro other same
    cases same
  closed := by
    intro id
    simpa [enterFinally, record] using accounted.closed id

theorem accounted_moved (accounted : streams.Accounted) (files : FileSystem) {path : Path} {access : Access}
    {held : Handle} (there : streams.table[id]? = some ⟨path, access, some held⟩) (handle : Handle) :
    ({ streams with files }.withHandle id (some handle)).Accounted where
  acquired := by simp [withHandle, accounted.acquired]
  opened := accounted.opened
  released := accounted.released
  balance := by
    have moved := open_count_modify there fun entry => { entry with handle := some handle }
    have balance := accounted.balance
    simp only [openCount, withHandle] at balance ⊢
    simp at moved
    omega
  once := accounted.once
  ordered := accounted.ordered
  closed := by
    intro other
    rw [withHandle]
    dsimp only
    rw [accounted.closed other, List.getElem?_modify]
    by_cases same : id = other
    · subst same
      simp [there]
    · simp [same]

theorem accounted_releasing (accounted : streams.Accounted) (files : FileSystem) {path : Path}
    {access : Access} {held : Handle} (there : streams.table[id]? = some ⟨path, access, some held⟩) :
    (streams.releasing files id).Accounted where
  acquired := by simp [releasing, withHandle, record, accounted.acquired]
  opened := by
    have event : Event.opened? (.released id) = none := rfl
    simpa [releasing, withHandle, record, event] using accounted.opened
  released := by
    have event : Event.released? (.released id) = some id := rfl
    simp [releasing, withHandle, record, event, accounted.released]
  balance := by
    have moved := open_count_modify there fun entry => { entry with handle := none }
    have balance := accounted.balance
    simp only [openCount, releasing, withHandle, record] at balance ⊢
    simp at moved
    omega
  once := by
    have event : Event.released? (.released id) = some id := rfl
    have unreleased : Event.released id ∉ streams.trace := by
      rw [accounted.closed id, there]
      rintro ⟨path, access, other⟩
      cases other
    have listed : (streams.releasing files id).trace.filterMap Event.released? =
        streams.trace.filterMap Event.released? ++ [id] := by
      simp [releasing, withHandle, record, event]
    rw [listed, List.nodup_append]
    refine ⟨accounted.once, by simp, ?_⟩
    intro first member second last same
    rw [same, List.mem_singleton.mp last, mem_released] at member
    exact unreleased member
  ordered := by
    refine ordered_concat accounted.ordered ?_
    intro other same
    cases same
    exact accounted.opening_of_entry there
  closed := by
    intro other
    by_cases same : id = other
    · subst same
      simp [releasing, withHandle, record, there]
    · have different : Event.released other ≠ .released id := by
        intro equal
        cases equal
        exact same rfl
      simp [releasing, withHandle, record, different, same, accounted.closed other]

theorem accounted_step {count : Nat} (accounted : streams.Accounted) (step : Step streams count after) :
    after.Accounted := by
  cases step with
  | idle files => exact ⟨accounted.acquired, accounted.opened, accounted.released, accounted.balance,
      accounted.once, accounted.ordered, accounted.closed⟩
  | opened files path access handle => exact accounted_opening accounted files path access handle
  | moved files there handle => exact accounted_moved accounted files there handle
  | released files there => exact accounted_releasing accounted files there
  | repeated there => exact ⟨accounted.acquired, accounted.opened, accounted.released, accounted.balance,
      accounted.once, accounted.ordered, accounted.closed⟩
  | entered member => exact accounted_entered accounted member

/-! ## Runs -/

theorem accounted_all (accounted : streams.Accounted) (actions : List Action) :
    (streams.actAll actions).Accounted := by
  induction actions generalizing streams with
  | nil => exact accounted
  | cons action rest ih => exact ih (accounted_step accounted (step_act accounted action))

theorem double_released_all (accounted : streams.Accounted) (actions : List Action) :
    (streams.actAll actions).ledger.doubleReleased =
      streams.ledger.doubleReleased + streams.repeatsAll actions := by
  induction actions generalizing streams with
  | nil => rfl
  | cons action rest ih =>
      have step := step_act accounted action
      have behind := ih (accounted_step accounted step)
      rw [repeats_of_step step] at behind
      rw [repeatsAll, ← Nat.add_assoc]
      exact behind

theorem grown_all (accounted : streams.Accounted) (actions : List Action) :
    ∃ events, (streams.actAll actions).trace = streams.trace ++ events := by
  induction actions generalizing streams with
  | nil => exact ⟨[], (List.append_nil _).symm⟩
  | cons action rest ih =>
      have step := step_act accounted action
      obtain ⟨first, grown⟩ := grown_of_step step
      obtain ⟨more, behind⟩ := ih (accounted_step accounted step)
      refine ⟨first ++ more, ?_⟩
      rw [← List.append_assoc, ← grown]
      exact behind

theorem act_all_append (streams : Streams) (first second : List Action) :
    streams.actAll (first ++ second) = (streams.actAll first).actAll second := List.foldl_append

-- A stream that was released is of no more use and what is asked of it changes nothing.
structure Useless (streams : Streams) (id : StreamId) (fault : Fault) : Prop where
  read : streams.readText id = (streams, .error fault)
  write : ∀ bytes, streams.write id bytes = (streams, .error fault)
  flush : streams.flush id = (streams, .error fault)

theorem useless_of_released (accounted : streams.Accounted) (released : .released id ∈ streams.trace) :
    ∃ fault, streams.Useless id fault := by
  obtain ⟨path, access, there⟩ := (accounted.closed id).mp released
  obtain ⟨fault, refused⟩ : ∃ fault, streams.handle id = .error fault := by
    rw [Streams.handle, there]
    exact ⟨_, rfl⟩
  refine ⟨fault, ?_, ?_, ?_⟩
  · rw [readText, refused]
    rfl
  · intro bytes
    rw [write, refused]
    rfl
  · rw [flush, refused]
    rfl

theorem useless_after (accounted : streams.Accounted) (released : .released id ∈ streams.trace)
    (actions : List Action) : ∃ fault, (streams.actAll actions).Useless id fault := by
  obtain ⟨events, grown⟩ := grown_all accounted actions
  refine useless_of_released (accounted_all accounted actions) ?_
  rw [grown]
  exact List.mem_append_left events released

theorem balanced_iff (accounted : streams.Accounted) : streams.ledger.isBalanced = true ↔
    streams.openCount = 0 ∧ streams.ledger.doubleReleased = 0 := by
  have balance := accounted.balance
  simp only [Ledger.isBalanced, decide_eq_true_eq]
  constructor
  · rintro ⟨same, once⟩
    exact ⟨by omega, once⟩
  · rintro ⟨unopened, once⟩
    exact ⟨by omega, once⟩

end Streams
end Companion
