import Companion.Proofs.Outcome
import Companion.Xml.Document

/-!
What one token does to the reading of a document. Main statements: one for each kind of token that can be
refused, and `of_scan_eq_ok`, what is asked of a whole scan.
-/
set_option autoImplicit false

namespace Companion.Xml.Document

variable {root : String}

/-! ## Tokens -/

-- A tag within an element enters nothing; outside of all it enters the root, once and by its name.
theorem enter_root_eq_ok {reading after : Reading} {content : List Char} :
    reading.enterRoot root content = .ok after ↔
      (reading.opened ≠ [] ∧ after = reading) ∨
        (reading.opened = [] ∧ reading.object = none ∧ String.ofList (tagName content) = root ∧
          after = { reading with isNil := Document.isNil content }) := by
  unfold Reading.enterRoot
  obtain ⟨opened, nil, object⟩ := reading
  cases opened with
  | nil =>
      by_cases second : object.isSome = true
      · have taken : object ≠ none := by
          rintro rfl
          cases second
        simp [second, taken, bind, Except.bind, pure, Except.pure]
      · have unread : object = none := by simpa using second
        by_cases same : String.ofList (tagName content) = root
        · simp [unread, same, eq_comm, pure, Except.pure]
        · simp [unread, same, bind, Except.bind, pure, Except.pure]
  | cons parent rest => simp [eq_comm, pure, Except.pure]

theorem next_start_eq_ok {reading after : Reading} {content : List Char} :
    reading.next root (.start content) = .ok after ↔
      ∃ entered, reading.enterRoot root content = .ok entered ∧
        after = { entered with opened := ⟨tagName content, [], []⟩ :: entered.opened } := by
  rw [Reading.next, bind_eq_ok]
  simp only [pure, Except.pure, Except.ok.injEq, eq_comm (a := after)]

theorem next_stop_eq_ok {opening : Open} {rest : List Open} {isNil : Bool} {object : Option (Option Element)}
    {after : Reading} {name : List Char} :
    Reading.next root ⟨opening :: rest, isNil, object⟩ (.stop name) = .ok after ↔
      ∃ element, opening.close = .ok element ∧ after = Reading.addElement ⟨rest, isNil, object⟩ element := by
  rw [Reading.next]
  dsimp only
  rw [bind_eq_ok]
  simp only [pure, Except.pure, Except.ok.injEq, eq_comm (a := after)]

theorem next_empty_eq_ok {reading after : Reading} {content : List Char} :
    reading.next root (.empty content) = .ok after ↔
      ∃ entered, reading.enterRoot root content = .ok entered ∧
        after = entered.addElement (.node (String.ofList (tagName content)) []) := by
  rw [Reading.next, bind_eq_ok]
  simp only [pure, Except.pure, Except.ok.injEq, eq_comm (a := after)]

theorem next_text_eq_ok {reading after : Reading} {content : List Char} :
    reading.next root (.text content) = .ok after ↔
      (reading.opened = [] → content.all Text.isBlank = true) ∧ after = reading.addText content := by
  rw [Reading.next]
  by_cases inside : reading.opened = []
  · by_cases blank : content.all Text.isBlank = true
    · rw [if_neg (by simp [blank]), Except.ok.injEq, eq_comm]
      exact ⟨fun same => ⟨fun _ => blank, same⟩, And.right⟩
    · rw [if_pos (by rw [inside]; simpa using blank)]
      exact ⟨nofun, fun taken => absurd (taken.1 inside) blank⟩
  · rw [if_neg (by simp [inside]), Except.ok.injEq, eq_comm]
    exact ⟨fun same => ⟨fun outside => absurd outside inside, same⟩, And.right⟩

theorem next_reference_eq_ok {reading after : Reading} {name : List Char} :
    reading.next root (.reference name) = .ok after ↔
      ∃ c, resolve name = .ok c ∧ after = reading.addText [c] := by
  rw [Reading.next, bind_eq_ok]
  simp only [pure, Except.pure, Except.ok.injEq, eq_comm (a := after)]

theorem add_no_text (reading : Reading) : reading.addText [] = reading := by
  obtain ⟨opened, isNil, object⟩ := reading
  cases opened <;> simp [Reading.addText]

/-! ## Open elements -/

-- The names of the elements that are open, the innermost one first.
def Reading.names (reading : Reading) : List (List Char) := reading.opened.map Open.name

theorem names_add_text (reading : Reading) (text : List Char) :
    (reading.addText text).names = reading.names := by
  obtain ⟨opened, isNil, object⟩ := reading
  cases opened <;> rfl

theorem names_add_element (reading : Reading) (element : Element) :
    (reading.addElement element).names = reading.names := by
  obtain ⟨opened, isNil, object⟩ := reading
  cases opened <;> rfl

theorem names_enter_root {reading after : Reading} {content : List Char}
    (entered : reading.enterRoot root content = .ok after) : after.names = reading.names := by
  rcases enter_root_eq_ok.mp entered with ⟨_, rfl⟩ | ⟨_, _, _, rfl⟩
  · rfl
  · rfl

/-! ## Scans -/

theorem finish_eq_ok {reading : Reading} {object : Option Element} :
    reading.finish = .ok object ↔ reading.opened = [] ∧ reading.object = some object := by
  obtain ⟨opened, isNil, found⟩ := reading
  cases opened with
  | nil => cases found <;> simp [Reading.finish]
  | cons parent rest => simp [Reading.finish]

theorem of_scan_eq_ok {scan : Scan} {object : Option Element} :
    ofScan root scan = .ok object ↔
      scan.failure = none ∧ ∃ last, scan.tokens.foldlM (Reading.next root) {} = .ok last ∧
        last.opened = [] ∧ last.object = some object := by
  obtain ⟨tokens, failure⟩ := scan
  simp only [ofScan, bind_eq_ok, map_error_eq_ok]
  cases failure with
  | none => simp [map_error_eq_ok, finish_eq_ok]
  | some error => simp [throw, throwThe, MonadExceptOf.throw]

end Companion.Xml.Document
