import Companion.Proofs.Execution.Accounts
import Companion.Proofs.FileSystem.Created

/-!
What is written to a stream and what its file holds. Main statement: `buffered_loses_nothing`, as long as no other
stream puts bytes into the file it holds a beginning of what the stream was given, and all of it after a flush or
the release.
-/
set_option autoImplicit false

namespace Companion

namespace FileSystem

variable {files : FileSystem} {place : Location} {content : Bytes}

theorem overwrite_end (content bytes : Bytes) : overwrite content content.length bytes = content ++ bytes := by
  cases bytes with
  | nil => rw [overwrite_nil, List.append_nil]
  | cons byte rest => simp [overwrite]

theorem write_at_end (there : files.node? place = some (.file content)) (bytes : Bytes) :
    (files.writeAt place content.length bytes).node? place = some (.file (content ++ bytes)) := by
  rw [writeAt, node?_modify there, if_pos rfl, overwrite_end]

-- Bytes that go to another place, or that are none, leave the file as it is.
theorem write_at_spared (there : files.node? place = some (.file content)) {target : Location} {offset : Nat}
    {bytes : Bytes} (silent : target = place → bytes = []) :
    (files.writeAt target offset bytes).node? place = some (.file content) := by
  by_cases same : target = place
  · rw [silent same, write_at_nothing]
    exact there
  · exact (kept_but_write files target offset bytes).node place _ (Ne.symm same) there

end FileSystem

namespace Streams

open FileSystem (kept_but_create write_at_end write_at_nothing write_at_spared)

-- The stream that an action is asked of.
def Action.target? : Action → Option StreamId
  | .readText id | .write id _ | .flush id | .release id | .disturb id _ => some id
  | .openRead _ | .create _ | .enterFinally _ | .elsewhere _ => none

-- What an action gives to a stream, if the stream takes it.
def accepted (streams : Streams) (id : StreamId) : Action → Bytes
  | .write other bytes => if other = id ∧ (streams.write other bytes).2.isOk then bytes else []
  | _ => []

def acceptedAll (streams : Streams) (id : StreamId) : List Action → Bytes
  | [] => []
  | action :: rest => streams.accepted id action ++ (streams.act action).acceptedAll id rest

-- An action on streams that opens none for writing in a place, and makes none but the given one put bytes there.
def Spares (streams : Streams) (place : Location) (id : StreamId) : Action → Prop
  | .create path => ∀ files other, streams.files.createFile path = .ok (files, other) → other ≠ place
  | .write other bytes =>
    other = id ∨ ∀ offset held, streams.handle other = .ok (.writer place offset held) → sent held bytes = []
  | .flush other | .release other =>
    other = id ∨ ∀ offset held, streams.handle other = .ok (.writer place offset held) → held = []
  | .elsewhere _ | .disturb _ _ => False
  | .openRead _ | .readText _ | .enterFinally _ => True

def SparesAll (streams : Streams) (place : Location) (id : StreamId) : List Action → Prop
  | [] => True
  | action :: rest => streams.Spares place id action ∧ (streams.act action).SparesAll place id rest

variable {streams : Streams} {files : FileSystem} {place : Location} {id other : StreamId}
  {content held : Bytes} {action : Action}

/-! ## The table, stream by stream -/

def state? (streams : Streams) (id : StreamId) : Option (Option Handle) := streams.table[id]?.map StreamEntry.handle

theorem handle_eq_ok {handle : Handle} : streams.handle id = .ok handle ↔ streams.state? id = some (some handle) := by
  rw [Streams.handle, state?]
  split
  · rename_i none
    simp [none]
  · rename_i shut
    simp [shut]
  · rename_i there
    simp [there]

theorem handle_of_shut {state : Option (Option Handle)} (there : streams.state? id = state)
    (shut : ∀ handle, state ≠ some (some handle)) : ∃ fault, streams.handle id = .error fault := by
  cases found : streams.handle id with
  | error fault => exact ⟨fault, rfl⟩
  | ok handle => exact absurd (there.symm.trans (handle_eq_ok.mp found)) (shut handle)

theorem state_with_handle {old : Option Handle} (there : streams.state? id = some old) (files : FileSystem)
    (state : Option Handle) (other : StreamId) :
    ({ streams with files }.withHandle id state).state? other =
      if id = other then some state else streams.state? other := by
  obtain ⟨entry, found, rfl⟩ := Option.map_eq_some_iff.mp there
  rw [state?, withHandle, List.getElem?_modify]
  split
  · rename_i same
    rw [← same, found]
    rfl
  · cases found : streams.table[other]? <;> simp [state?, found]

theorem state_opening (files : FileSystem) (path : Path) (access : Access) (handle : Handle) (other : StreamId) :
    (streams.opening files path access handle).state? other =
      if other = streams.table.length then some (some handle) else streams.state? other := by
  rw [state?, opening]
  dsimp only
  split
  · rename_i same
    rw [same, List.getElem?_concat_length]
    rfl
  · rename_i different
    rw [state?, List.getElem?_append]
    split
    · rfl
    · rename_i beyond
      have past : streams.table.length < other := Nat.lt_of_le_of_ne (Nat.le_of_not_lt beyond) (Ne.symm different)
      rw [List.getElem?_eq_none (Nat.sub_pos_of_lt past), List.getElem?_eq_none (Nat.le_of_lt past)]

/-! ## The invariant -/

-- A place holds a content, and a stream is in a state.
structure Keeps (streams : Streams) (place : Location) (id : StreamId) (state : Option Handle)
    (content : Bytes) : Prop where
  file : streams.files.node? place = some (.file content)
  own : streams.state? id = some state

-- The stream of a place holds the rest of what it was given, or was released when there was no rest.
inductive Holds (streams : Streams) (place : Location) (id : StreamId) : Bytes → Bytes → Prop
  | opened {content held : Bytes} (keeps : Keeps streams place id (some (.writer place content.length held)) content) :
      Holds streams place id content held
  | released {content : Bytes} (keeps : Keeps streams place id none content) : Holds streams place id content []

namespace Keeps

variable {state : Option Handle} (keeps : Keeps streams place id state content)

include keeps

theorem opening {files : FileSystem} {path : Path} {access : Access} {handle : Handle}
    (kept : files.node? place = some (.file content)) :
    Keeps (streams.opening files path access handle) place id state content where
  file := kept
  own := by
    have there := keeps.own
    obtain ⟨entry, found, _⟩ := Option.map_eq_some_iff.mp there
    have within := (List.getElem?_eq_some_iff.mp found).1
    rw [state_opening, if_neg (Nat.ne_of_lt within)]
    exact there

-- Another stream moves on.
theorem aside {files : FileSystem} {old : Handle} (there : streams.handle other = .ok old) (next : Option Handle)
    (different : other ≠ id) (kept : files.node? place = some (.file content)) :
    Keeps ({ streams with files }.withHandle other next) place id state content where
  file := kept
  own := by
    rw [state_with_handle (handle_eq_ok.mp there), if_neg different]
    exact keeps.own

-- The stream itself moves on.
theorem forward {files : FileSystem} {more : Bytes} (next : Option Handle)
    (kept : files.node? place = some (.file more)) :
    Keeps ({ streams with files }.withHandle id next) place id next more where
  file := kept
  own := by
    rw [state_with_handle keeps.own, if_pos rfl]

theorem recorded (event : Event) : Keeps (streams.record event) place id state content :=
  ⟨keeps.file, keeps.own⟩

/-! ## One action -/

theorem open_read (path : Path) : Keeps (streams.openRead path).1 place id state content := by
  cases resolved : streams.files.resolve path with
  | error error =>
      rw [open_read_of_error resolved]
      exact keeps
  | ok found =>
      rw [open_read_of_ok resolved]
      exact keeps.opening keeps.file

theorem create {path : Path} (spares : streams.Spares place id (.create path)) :
    Keeps (streams.create path).1 place id state content := by
  cases made : streams.files.createFile path with
  | error error =>
      rw [create_of_error made]
      exact keeps
  | ok found =>
      obtain ⟨files, target⟩ := found
      have apart := spares files target made
      rw [create_of_ok made]
      exact keeps.opening ((kept_but_create made).node place _ (Ne.symm apart) keeps.file)

theorem read_text (other : StreamId) (different : other ≠ id) :
    Keeps (streams.readText other).1 place id state content := by
  rw [readText]
  split
  · exact keeps
  · exact keeps
  · rename_i there
    split
    · exact keeps
    · exact keeps.aside there _ different keeps.file

theorem write (different : other ≠ id) {bytes : Bytes} (spares : streams.Spares place id (.write other bytes)) :
    Keeps (streams.write other bytes).1 place id state content := by
  rw [Streams.write]
  split
  · exact keeps
  · exact keeps
  · rename_i target offset held there
    rw [append_eq]
    refine keeps.aside there _ different (write_at_spared keeps.file ?_)
    rintro rfl
    exact spares.resolve_left different offset held there

theorem flush (different : other ≠ id) (spares : streams.Spares place id (.flush other)) :
    Keeps (streams.flush other).1 place id state content := by
  rw [Streams.flush]
  split
  · exact keeps
  · exact keeps
  · rename_i target offset held there
    refine keeps.aside there _ different (write_at_spared keeps.file ?_)
    rintro rfl
    exact spares.resolve_left different offset held there

theorem release (different : other ≠ id) (spares : streams.Spares place id (.release other)) :
    Keeps (streams.release other).1 place id state content := by
  rw [Streams.release]
  split
  · exact keeps
  · exact ⟨keeps.file, keeps.own⟩
  · rename_i path access handle found
    have there : streams.handle other = .ok handle := by rw [Streams.handle, found]
    have kept : (closed streams.files handle).node? place = some (.file content) := by
      cases handle with
      | reader target offset => exact keeps.file
      | writer target offset held =>
          refine write_at_spared keeps.file ?_
          rintro rfl
          exact spares.resolve_left different offset held there
    have moved := keeps.aside there none different kept
    exact ⟨moved.file, moved.own⟩

-- What is asked of other streams or of none leaves the stream and its place as they are.
theorem act (spares : streams.Spares place id action) (apart : action.target? ≠ some id) :
    Keeps (streams.act action) place id state content := by
  have different {other : StreamId} (asked : action.target? = some other) : other ≠ id := by
    rintro rfl
    exact apart asked
  cases action with
  | openRead path => exact keeps.open_read path
  | create path => exact keeps.create spares
  | readText other => exact keeps.read_text other (different rfl)
  | write other bytes => exact keeps.write (different rfl) spares
  | flush other => exact keeps.flush (different rfl) spares
  | release other => exact keeps.release (different rfl) spares
  | enterFinally member => exact keeps.recorded (.finallyEntered member)
  | elsewhere files => exact spares.elim
  | disturb other handle => exact spares.elim

end Keeps

theorem accepted_aside (apart : action.target? ≠ some id) : streams.accepted id action = [] := by
  cases action with
  | write other bytes =>
      rw [accepted, if_neg]
      rintro ⟨rfl, _⟩
      exact apart rfl
  | _ => rfl

-- What a stream can be asked for by an action that spares its place.
theorem asked_cases (asked : action.target? = some id) (spares : streams.Spares place id action) :
    (∃ bytes, action = .write id bytes) ∨ action = .flush id ∨ action = .release id ∨ action = .readText id := by
  cases action with
  | write other bytes =>
      cases asked
      exact .inl ⟨bytes, rfl⟩
  | flush other =>
      cases asked
      exact .inr (.inl rfl)
  | release other =>
      cases asked
      exact .inr (.inr (.inl rfl))
  | readText other =>
      cases asked
      exact .inr (.inr (.inr rfl))
  | disturb other handle => exact spares.elim
  | openRead path => cases asked
  | create path => cases asked
  | enterFinally member => cases asked
  | elsewhere files => cases asked

section
variable (keeps : Keeps streams place id (some (.writer place content.length held)) content)

include keeps

theorem keeps_write (bytes : Bytes) :
    Keeps (streams.write id bytes).1 place id
        (some (.writer place (content ++ sent held bytes).length (stays held bytes))) (content ++ sent held bytes) ∧
      streams.accepted id (.write id bytes) = bytes := by
  have there := handle_eq_ok.mpr keeps.own
  have written : streams.write id bytes =
      ({ streams with files := streams.files.writeAt place content.length (sent held bytes) }.withHandle id
        (some (.writer place (content ++ sent held bytes).length (stays held bytes))), .ok ()) := by
    rw [write, there]
    dsimp only
    rw [append_eq, List.length_append]
  rw [accepted, written]
  exact ⟨keeps.forward _ (write_at_end keeps.file _), if_pos ⟨rfl, rfl⟩⟩

theorem keeps_flush : Keeps (streams.flush id).1 place id (some (.writer place (content ++ held).length []))
    (content ++ held) := by
  have flushed := keeps.forward (some (.writer place (content ++ held).length [])) (write_at_end keeps.file held)
  rw [flush, handle_eq_ok.mpr keeps.own]
  simp only [drained]
  rw [← List.length_append]
  exact flushed

theorem keeps_release : Keeps (streams.release id).1 place id none (content ++ held) := by
  obtain ⟨⟨path, access, handle⟩, found, same⟩ := Option.map_eq_some_iff.mp keeps.own
  cases same
  have released := keeps.forward none (write_at_end keeps.file held)
  rw [release, found]
  exact ⟨released.file, released.own⟩

theorem holds_own (asked : action.target? = some id) (spares : streams.Spares place id action) :
    ∃ more rest, Holds (streams.act action) place id (content ++ more) rest ∧
      more ++ rest = held ++ streams.accepted id action := by
  obtain ⟨bytes, rfl⟩ | rfl | rfl | rfl := asked_cases asked spares
  · obtain ⟨kept, taken⟩ := keeps_write keeps bytes
    exact ⟨sent held bytes, stays held bytes, .opened kept, by rw [taken, sent_stays]⟩
  · exact ⟨held, [], .opened (keeps_flush keeps), rfl⟩
  · exact ⟨held, [], .released (keeps_release keeps), rfl⟩
  · have idle : streams.act (.readText id) = streams := by
      rw [act, readText, handle_eq_ok.mpr keeps.own]
      rfl
    refine ⟨[], held, ?_, by simp [accepted]⟩
    rw [idle, List.append_nil]
    exact .opened keeps

end

-- A stream that was released takes nothing more.
theorem keeps_shut (keeps : Keeps streams place id none content) (spares : streams.Spares place id action) :
    streams.accepted id action = [] ∧ Keeps (streams.act action) place id none content := by
  by_cases asked : action.target? = some id
  · obtain ⟨fault, refused⟩ := handle_of_shut keeps.own (by rintro _ ⟨⟩)
    obtain ⟨bytes, rfl⟩ | rfl | rfl | rfl := asked_cases asked spares
    · have idle : streams.write id bytes = (streams, .error fault) := by
        rw [write, refused]
        rfl
      rw [accepted, act, idle]
      exact ⟨if_neg (by rintro ⟨_, ⟨⟩⟩), keeps⟩
    · rw [act, flush, refused]
      exact ⟨rfl, keeps⟩
    · obtain ⟨⟨path, access, handle⟩, found, same⟩ := Option.map_eq_some_iff.mp keeps.own
      cases same
      rw [act, release, found]
      exact ⟨rfl, keeps.file, keeps.own⟩
    · rw [act, readText, refused]
      exact ⟨rfl, keeps⟩
  · exact ⟨accepted_aside asked, keeps.act spares asked⟩

theorem holds_act (holds : Holds streams place id content held) (spares : streams.Spares place id action) :
    ∃ more rest, Holds (streams.act action) place id (content ++ more) rest ∧
      more ++ rest = held ++ streams.accepted id action := by
  cases holds with
  | opened keeps =>
      by_cases asked : action.target? = some id
      · exact holds_own keeps asked spares
      · refine ⟨[], held, ?_, by rw [accepted_aside asked, List.append_nil, List.nil_append]⟩
        rw [List.append_nil]
        exact .opened (keeps.act spares asked)
  | released keeps =>
      obtain ⟨nothing, kept⟩ := keeps_shut keeps spares
      refine ⟨[], [], ?_, by rw [nothing, List.append_nil]⟩
      rw [List.append_nil]
      exact .released kept

/-! ## Runs -/

theorem holds_all {actions : List Action} (holds : Holds streams place id content held)
    (spares : streams.SparesAll place id actions) :
    ∃ more rest, Holds (streams.actAll actions) place id (content ++ more) rest ∧
      more ++ rest = held ++ streams.acceptedAll id actions := by
  induction actions generalizing streams content held with
  | nil => exact ⟨[], held, by rw [List.append_nil]; exact holds, (List.append_nil held).symm⟩
  | cons action others ih =>
      obtain ⟨first, between, stepped, taken⟩ := holds_act holds spares.1
      obtain ⟨more, rest, run, whole⟩ := ih stepped spares.2
      refine ⟨first ++ more, rest, by rw [← List.append_assoc]; exact run, ?_⟩
      rw [List.append_assoc, whole, ← List.append_assoc, taken, acceptedAll, List.append_assoc]

theorem keeps_shut_all {actions : List Action} (keeps : Keeps streams place id none content)
    (spares : streams.SparesAll place id actions) :
    streams.acceptedAll id actions = [] ∧ Keeps (streams.actAll actions) place id none content := by
  induction actions generalizing streams with
  | nil => exact ⟨rfl, keeps⟩
  | cons action others ih =>
      obtain ⟨nothing, kept⟩ := keeps_shut keeps spares.1
      obtain ⟨nothing_more, run⟩ := ih kept spares.2
      exact ⟨by rw [acceptedAll, nothing, nothing_more]; rfl, run⟩

theorem spares_all_append {first second : List Action} (spares : streams.SparesAll place id (first ++ second)) :
    streams.SparesAll place id first ∧ (streams.actAll first).SparesAll place id second := by
  induction first generalizing streams with
  | nil => exact ⟨trivial, spares⟩
  | cons action rest ih =>
      obtain ⟨front, back⟩ := ih spares.2
      exact ⟨⟨spares.1, front⟩, back⟩

theorem accepted_all_append (streams : Streams) (id : StreamId) (first second : List Action) :
    streams.acceptedAll id (first ++ second) =
      streams.acceptedAll id first ++ (streams.actAll first).acceptedAll id second := by
  induction first generalizing streams with
  | nil => rfl
  | cons action rest ih =>
      rw [List.cons_append, acceptedAll, ih, acceptedAll, List.append_assoc]
      rfl

theorem accepted_nothing {actions : List Action} (silent : ∀ bytes, .write id bytes ∉ actions) :
    streams.acceptedAll id actions = [] := by
  induction actions generalizing streams with
  | nil => rfl
  | cons action rest ih =>
      have unwritten : streams.accepted id action = [] := by
        cases action with
        | write other bytes =>
            rw [accepted, if_neg]
            rintro ⟨rfl, _⟩
            exact silent bytes List.mem_cons_self
        | _ => rfl
      rw [acceptedAll, unwritten, ih fun bytes among => silent bytes (List.mem_cons_of_mem action among)]
      rfl

theorem Holds.file (holds : Holds streams place id content held) :
    streams.files.node? place = some (.file content) := by
  cases holds with
  | opened keeps => exact keeps.file
  | released keeps => exact keeps.file

-- After a flush nothing is held back, and after the release nothing more is taken.
theorem holds_flush (holds : Holds streams place id content held) :
    Holds (streams.act (.flush id)) place id (content ++ held) [] := by
  cases holds with
  | opened keeps => exact .opened (keeps_flush keeps)
  | released keeps =>
      have spares : streams.Spares place id (.flush id) := .inl rfl
      rw [List.append_nil]
      exact .released (keeps_shut keeps spares).2

theorem keeps_none_release (holds : Holds streams place id content held) :
    Keeps (streams.act (.release id)) place id none (content ++ held) := by
  cases holds with
  | opened keeps => exact keeps_release keeps
  | released keeps =>
      have spares : streams.Spares place id (.release id) := .inl rfl
      rw [List.append_nil]
      exact (keeps_shut keeps spares).2

-- A run with an action in it for which the stream takes nothing, and takes nothing after it.
theorem accepted_before {before rest : List Action} {final : Action}
    (nothing : ∀ streams, accepted streams id final = [])
    (silent : ((streams.actAll before).act final).acceptedAll id rest = []) :
    streams.acceptedAll id (before ++ final :: rest) = streams.acceptedAll id before := by
  rw [accepted_all_append, acceptedAll, nothing, silent, List.append_nil, List.append_nil]

theorem whole_after_flush {before rest : List Action} (holds : Holds streams place id content held)
    (spares : streams.SparesAll place id (before ++ .flush id :: rest)) (silent : ∀ bytes, .write id bytes ∉ rest) :
    (streams.actAll (before ++ .flush id :: rest)).files.node? place =
      some (.file (content ++ (held ++ streams.acceptedAll id (before ++ .flush id :: rest)))) := by
  obtain ⟨front, back⟩ := spares_all_append spares
  obtain ⟨more, kept, run, whole⟩ := holds_all holds front
  obtain ⟨last, left, after, taken⟩ := holds_all (holds_flush run) back.2
  -- Without a write nothing is taken behind the flush, so what comes and what stays held are both empty.
  have nothing : ((streams.actAll before).act (.flush id)).acceptedAll id rest = [] := accepted_nothing silent
  rw [nothing, List.append_nil] at taken
  obtain ⟨rfl, rfl⟩ := List.append_eq_nil_iff.mp taken
  rw [accepted_before (fun _ => rfl) nothing, ← whole, ← List.append_assoc, act_all_append]
  rw [List.append_nil] at after
  exact after.file

theorem whole_after_release {before rest : List Action} (holds : Holds streams place id content held)
    (spares : streams.SparesAll place id (before ++ .release id :: rest)) :
    (streams.actAll (before ++ .release id :: rest)).files.node? place =
      some (.file (content ++ (held ++ streams.acceptedAll id (before ++ .release id :: rest)))) := by
  obtain ⟨front, back⟩ := spares_all_append spares
  obtain ⟨more, kept, run, whole⟩ := holds_all holds front
  obtain ⟨nothing, after⟩ := keeps_shut_all (keeps_none_release run) back.2
  rw [accepted_before (fun _ => rfl) nothing, ← whole, ← List.append_assoc, act_all_append]
  exact after.file

theorem content_of_file {files : FileSystem} (there : files.node? place = some (.file content)) :
    files.contentAt place = .ok content := by
  rw [FileSystem.contentAt, there]
  rfl

/-- A stream is opened for writing in a place. Whatever is then done with streams, as long as none is opened for
writing in that place again and no other one puts bytes there, the file holds a beginning of all that the stream has
taken, in order; and all of it if the stream was released, or flushed and not written to since. -/
theorem buffered_loses_nothing {streams opened : Streams} {path : Path} {id : StreamId}
    (created : streams.create path = (opened, .ok id)) :
    ∃ place, streams.files.createFile path = .ok (opened.files, place) ∧
      ∀ actions, opened.SparesAll place id actions →
        ∃ content, (opened.actAll actions).files.contentAt place = .ok content ∧
          content <+: opened.acceptedAll id actions ∧
          ((.release id ∈ actions ∨ ∃ before rest, actions = before ++ .flush id :: rest ∧
              ∀ bytes, .write id bytes ∉ rest) →
            content = opened.acceptedAll id actions) := by
  cases made : streams.files.createFile path with
  | error error =>
      rw [create_of_error made] at created
      cases created
  | ok found =>
      obtain ⟨files, place⟩ := found
      rw [create_of_ok made] at created
      cases created
      refine ⟨place, rfl, fun actions spares => ?_⟩
      have empty : files.node? place = some (.file []) := by
        have written := FileSystem.node?_written made [] place
        rwa [write_at_nothing, if_pos rfl] at written
      have own : (streams.opening files path .write (.writer place 0 [])).state? streams.table.length =
          some (some (.writer place 0 [])) := by
        rw [state_opening, if_pos rfl]
      have holds : Holds (streams.opening files path .write (.writer place 0 [])) place streams.table.length [] [] :=
        .opened ⟨empty, own⟩
      obtain ⟨content, held, run, whole⟩ := holds_all holds spares
      refine ⟨content, content_of_file run.file, ⟨held, whole⟩, ?_⟩
      rintro (released | ⟨before, rest, rfl, silent⟩)
      · obtain ⟨before, rest, rfl⟩ := List.append_of_mem released
        have there := whole_after_release holds spares
        rw [run.file] at there
        cases there
        rfl
      · have there := whole_after_flush holds spares silent
        rw [run.file] at there
        cases there
        rfl

def letter (c : Char) : Bytes := Utf8.encode (String.singleton c)

-- A stream that holds a letter back.
def lettered : Streams := actAll { files := {} } [.create (.ofString "a"), .write 0 (letter 'x')]

def turns : List Action := [.write 1 (letter 'p'), .flush 1, .write 0 (letter 'y'), .openRead (.ofString "a"),
  .write 1 (letter 'q'), .release 1]

-- Two streams of one file are written to in turns, and it is what the second one was given after its release, as the
-- first one still holds back what it took.
theorem buffered_loses_nothing_turns :
    ∃ opened, lettered.create (.ofString "a") = (opened, .ok 1) ∧
      opened.handle 0 = .ok (.writer [letter 'a'] 0 (letter 'x')) ∧
      (opened.actAll turns).files.contentAt [letter 'a'] = .ok (letter 'p' ++ letter 'q') := by
  obtain ⟨opened, created⟩ : ∃ opened, lettered.create (.ofString "a") = (opened, .ok 1) := ⟨_, rfl⟩
  obtain ⟨place, made, lossless⟩ := buffered_loses_nothing created
  refine ⟨opened, created, ?_⟩
  cases created
  obtain rfl : place = [letter 'a'] := by
    cases made
    rfl
  have small : ∀ offset held, (actAll (lettered.create (.ofString "a")).1 [.write 1 (letter 'p'), .flush 1]).handle 0 =
      .ok (.writer [letter 'a'] offset held) → sent held (letter 'y') = [] := by
    rintro offset held ⟨⟩
    rfl
  have spares : SparesAll (lettered.create (.ofString "a")).1 [letter 'a'] 1 turns :=
    ⟨.inl rfl, .inl rfl, .inr small, trivial, .inl rfl, .inl rfl, trivial⟩
  obtain ⟨content, there, _, whole⟩ := lossless turns spares
  have given : content = letter 'p' ++ letter 'q' := whole (.inl (by simp [turns]))
  rw [← given]
  exact ⟨rfl, there⟩

-- A stream that was opened before puts bytes into the file that the new one has not written.
theorem older_stream_puts_bytes :
    ¬∀ (files : FileSystem) (before after : List Action) (path : Path) (opened : Streams) (id : StreamId),
      (actAll { files } before).create path = (opened, .ok id) →
      (∀ action ∈ after, ∃ other, action = .release other) →
      ∃ place content, (actAll { files } before).files.createFile path = .ok (opened.files, place) ∧
        (opened.actAll after).files.contentAt place = .ok content ∧ content <+: opened.acceptedAll id after := by
  intro all
  obtain ⟨place, content, made, there, front⟩ := all {} [.create (.ofString "a"), .write 0 (letter 'x')] [.release 0]
    (.ofString "a") _ 1 rfl (by simp)
  cases made
  cases there
  revert front
  decide

end Streams
end Companion
