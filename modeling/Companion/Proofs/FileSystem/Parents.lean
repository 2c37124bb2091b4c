import Companion.Proofs.Execution.Save
import Companion.Proofs.FileSystem.Onward
import Companion.Proofs.Path.Components
import Companion.Helper.File

/-!
Files whose directory was made. Main statement: `directory_suffices`, once the directory of a path was made, its file
can be made unless the path leads to a directory.
-/
set_option autoImplicit false

namespace Companion

open Code (Expr)

namespace FileSystem

-- A path that ends with a name and has no byte that no path may hold.
structure Leads (path : Path) (name : Bytes) : Prop where
  last : path.segments.getLast? = some name
  proper : isProper name = true
  clean : 0 ∉ path.bytes

variable {files : FileSystem} {path : Path} {place : Location} {name : Bytes}

theorem is_directory_iff :
    files.isDirectory path = true ↔ ∃ place, files.resolve path = .ok (place, .directory) := by
  rw [isDirectory]
  split
  · rename_i place resolved
    exact ⟨fun _ => ⟨place, resolved⟩, fun _ => rfl⟩
  · rename_i other
    refine ⟨nofun, ?_⟩
    rintro ⟨place, resolved⟩
    exact absurd resolved (other place)

/-! ## The file of a path -/

theorem target_of_makes (makes : Makes files path place name) :
    files.target path = .ok (.name place makes.directory name false) := by
  obtain ⟨start, front, departed, walked⟩ := makes.led
  have solid : name.isEmpty = false := by
    cases name with
    | nil => exact absurd makes.proper (by decide)
    | cons byte rest => rfl
  have kept : ((front ++ [name]).reverse.dropWhile List.isEmpty).reverse = front ++ [name] := by
    rw [List.reverse_append, List.reverse_singleton, List.singleton_append,
      List.dropWhile_cons_of_neg (by simp [solid]), List.reverse_cons, List.reverse_reverse]
  have whole : decide ((front ++ [name]).length < (front ++ [name]).length) = false := by simp
  rw [target, departed]
  dsimp only [bind, Except.bind]
  rw [kept, List.getLast?_concat]
  dsimp only
  rw [List.dropLast_concat, walked]
  dsimp only
  rw [dif_pos makes.directory, if_pos makes.proper, whole]
  rfl

theorem directory_of_makes (makes : Makes files path place name) :
    files.isDirectory path = true ↔ files.node? (name :: place) = some .directory := by
  obtain ⟨start, segments, departed, walked⟩ := walk_makes makes (.refl _ files)
  rw [is_directory_iff]
  constructor
  · rintro ⟨target, resolved⟩
    obtain ⟨other, others, otherDeparted, otherWalked, there⟩ := resolve_eq_ok.mp resolved
    rw [departed] at otherDeparted
    cases otherDeparted
    rw [walked] at otherWalked
    cases otherWalked
    exact there
  · exact fun there => ⟨_, resolve_eq_ok.mpr ⟨start, segments, departed, walked, there⟩⟩

-- Where a new file can stand, only a directory is in its way.
theorem create_fails_iff (makes : Makes files path place name) {error : IoError} :
    files.createFile path = .error error ↔ error = .isADirectory ∧ files.isDirectory path = true := by
  rw [directory_of_makes makes, createFile, target_of_makes makes]
  dsimp only [bind, Except.bind]
  split
  · rename_i there
    simp [there, eq_comm]
  · rename_i free
    simp [free, pure, Except.pure]

theorem error_of_write_file {bytes : Bytes} {error : IoError} (refused : files.writeFile path bytes = .error error) :
    files.createFile path = .error error := by
  rw [writeFile] at refused
  cases made : files.createFile path with
  | error other =>
      rw [made] at refused
      cases refused
      rfl
  | ok created =>
      rw [made] at refused
      cases refused

/-! ## The directory of a path -/

theorem ensured_directory (done : (files.ensureDirectory path).2 = .ok ()) :
    (files.ensureDirectory path).1.isDirectory path = true := by
  rw [ensureDirectory] at done ⊢
  cases created : files.createDirectory path with
  | ok fresh =>
      obtain ⟨place, _, _, _, _, resolved⟩ := resolve_created created
      exact is_directory_iff.mpr ⟨place, resolved⟩
  | error error =>
      rw [created] at done
      by_cases there : files.isDirectory path = true
      · exact there
      · dsimp only at done
        rw [if_neg there] at done
        cases done

-- The way down ends with the directory that was asked for, whether it was made or there before.
theorem created_directories (begun : path.bytes ≠ []) (done : (files.createDirectories path).2 = .ok ()) :
    (files.createDirectories path).1.isDirectory path = true := by
  revert done
  fun_cases createDirectories files path with
  | case1 empty => exact absurd empty begun
  | case2 => exact nofun
  | case3 => exact ensured_directory
  | case4 _ _ above _ failed =>
      intro done
      exact (failed _ (Prod.ext rfl done)).elim
  | case5 => exact ensured_directory

theorem Leads.segments (leads : Leads path name) : ∃ front, path.segments = front ++ [name] :=
  List.getLast?_eq_some_iff.mp leads.last

theorem Leads.ends (leads : Leads path name) : Path.Ends path name := by
  obtain ⟨front, whole⟩ := leads.segments
  exact ⟨front, [], whole, nofun, leads.proper⟩

-- The path above is spelled by the segments in front of the name, but for the idle ones at their end.
theorem Leads.parent (leads : Leads path name) {front : List Bytes} (whole : path.segments = front ++ [name]) :
    path.parent? = some (Path.ofLeading (Path.trimIdle front)) := by
  rw [Path.parent_of_file_name (Path.file_name_of_ends leads.ends), whole,
    Path.leading_behind (by simp) (Path.moves_of_proper leads.proper).1]

theorem departure_clean (files : FileSystem) (clean : 0 ∉ path.bytes) {first : Bytes} {rest : List Bytes}
    (whole : path.segments = first :: rest) (begun : first ≠ [] ∨ rest ≠ []) :
    files.departure path = .ok (if first = [] then ([], rest) else (files.start, first :: rest)) := by
  rw [departure, if_neg (by simpa using clean), whole]
  cases first with
  | nil =>
      cases rest with
      | nil => simp at begun
      | cons next others => rfl
  | cons byte bytes => rfl

theorem clean_of_departure {start : Location} {segments : List Bytes}
    (departed : files.departure path = .ok (start, segments)) : 0 ∉ path.bytes := by
  intro among
  rw [departure, if_pos (by simpa using among)] at departed
  cases departed

-- Where the path above leads to a directory, so do the segments in front of the name.
theorem makes_below {first : Bytes} {rest : List Bytes} (leads : Leads path name)
    (whole : path.segments = first :: rest ++ [name])
    (there : files.isDirectory (Path.ofLeading (Path.trimIdle (first :: rest))) = true) :
    ∃ place, Makes files path place name := by
  have departed : files.departure path =
      .ok (if first = [] then ([], rest ++ [name]) else (files.start, first :: rest ++ [name])) :=
    departure_clean files leads.clean whole (.inr (by simp))
  have idles : ∀ segment ∈ rest.rtakeWhile Path.isIdle, Path.isIdle segment = true :=
    fun segment member => List.mem_rtakeWhile_imp member
  have split : rest.rdropWhile Path.isIdle ++ rest.rtakeWhile Path.isIdle = rest :=
    List.rdropWhile_append_rtakeWhile
  by_cases root : first = [] ∧ rest.rdropWhile Path.isIdle = []
  · obtain ⟨rfl, nothing⟩ := root
    rw [nothing, List.nil_append] at split
    rw [split] at idles
    exact ⟨[], ⟨[], rest, departed, walk_idle (root_directory files) idles⟩, root_directory files, leads.proper⟩
  · have free : ∀ segment ∈ first :: rest, Path.slash ∉ segment := Path.free_of_segments whole
    obtain ⟨place, resolved⟩ := is_directory_iff.mp there
    obtain ⟨start, segments, above, walked, held⟩ := resolve_eq_ok.mp resolved
    have led := departure_clean files (clean_of_departure above) (Path.segments_of_leading free root)
      (not_and_or.mp root)
    rw [above] at led
    by_cases empty : first = []
    · rw [if_pos empty] at led departed
      cases led
      refine ⟨place, ⟨[], rest, departed, ?_⟩, held, leads.proper⟩
      rw [← split, walk_append, walked]
      exact walk_idle held idles
    · rw [if_neg empty] at led departed
      cases led
      refine ⟨place, ⟨files.start, first :: rest, departed, ?_⟩, held, leads.proper⟩
      rw [← split, ← List.cons_append, walk_append, walked]
      exact walk_idle held idles

theorem leading_begun {first : Bytes} {rest : List Bytes} (free : ∀ segment ∈ first :: rest, Path.slash ∉ segment) :
    (Path.ofLeading (Path.trimIdle (first :: rest))).bytes ≠ [] := by
  by_cases root : first = [] ∧ rest.rdropWhile Path.isIdle = []
  · rw [Path.trim_cons, root.1, root.2]
    exact List.cons_ne_nil _ _
  · intro empty
    have whole := Path.segments_of_leading free root
    rw [Path.segments, empty] at whole
    obtain ⟨nothing, alone⟩ := List.cons.inj whole
    exact root ⟨nothing.symm, alone.symm⟩

-- Where the path above leads to a directory, or there is none: paths start from a directory.
theorem makes_of_parent (leads : Leads path name) {above : Path} (up : path.parent? = some above)
    (there : above.bytes ≠ [] → files.isDirectory above = true) : ∃ place, Makes files path place name := by
  obtain ⟨front, whole⟩ := leads.segments
  obtain rfl := Option.some.inj (up.symm.trans (leads.parent whole))
  cases front with
  | nil =>
      have some_name : name ≠ [] := by
        rintro rfl
        cases leads.proper
      have departed := departure_clean files leads.clean whole (.inl some_name)
      rw [if_neg some_name] at departed
      exact ⟨files.start, ⟨files.start, [], departed, rfl⟩, files.standing, leads.proper⟩
  | cons first rest => exact makes_below leads whole (there (leading_begun (Path.free_of_segments whole)))

theorem makes_of_directory (leads : Leads path name) (there : files.isDirectory path.directory = true) :
    ∃ place, Makes files path place name := by
  obtain ⟨front, whole⟩ := leads.segments
  have up := leads.parent whole
  refine makes_of_parent leads up fun begun => ?_
  rw [Path.directory, up] at there
  dsimp only at there
  rw [if_neg begun] at there
  exact there

theorem directory_begun (path : Path) : path.directory.bytes ≠ [] := by
  rw [Path.directory]
  split
  · split
    · exact List.cons_ne_nil _ _
    · assumption
  · exact List.cons_ne_nil _ _

end FileSystem

namespace Helper

open FileSystem (Leads)

variable {host : Host} {context after : Context} {path : String}

theorem create_directory_done (begun : Begun context saveMethod path)
    (made : host.run createDirectory context = .ok .next after) :
    ∃ files, context.streams.files.createDirectories (directoryOf path) = (files, .ok ()) ∧
      after = { context with streams := { context.streams with files } } := by
  cases outcome : context.streams.files.createDirectories (directoryOf path) with
  | mk files result =>
      cases result with
      | ok done =>
          rw [run_create_directory_of_ok host context begun.given outcome] at made
          cases made
          exact ⟨files, rfl, rfl⟩
      | error error =>
          rw [run_create_directory_of_error host context begun.given outcome] at made
          cases made

theorem create_file_fails_iff (begun : Begun context saveMethod path) {stop : Stop} {later : Context} :
    host.run createFile context = .error stop later ↔
      ∃ error, context.streams.files.createFile (.ofString path) = .error error ∧
        stop = .fault (.io error) ∧ later = context := by
  cases outcome : context.streams.files.createFile (.ofString path) with
  | ok made =>
      obtain ⟨files, place⟩ := made
      have ran := run_opens_of_ok host context (invoke_create path) begun.given begun.unopened
        (Streams.create_of_ok outcome)
      rw [show host.run createFile context = _ from ran]
      exact ⟨nofun, nofun⟩
  | error error =>
      have ran := run_opens_of_error host context (invoke_create path) begun.given (Streams.create_of_error outcome)
      rw [show host.run createFile context = _ from ran]
      constructor
      · intro same
        cases same
        exact ⟨error, rfl, rfl, rfl⟩
      · rintro ⟨other, same, rfl, rfl⟩
        cases same
        rfl

theorem makes_of_save {name : Bytes} (leads : Leads (.ofString path) name) {files between : FileSystem}
    (made : files.createDirectories (directoryOf path) = (between, .ok ())) :
    ∃ place, FileSystem.Makes between (.ofString path) place name := by
  have same : directoryOf path = (Path.ofString path).directory := Path.directory_of_string path
  rw [same] at made
  have there := FileSystem.created_directories (FileSystem.directory_begun (.ofString path)) (congrArg Prod.snd made)
  rw [made] at there
  exact FileSystem.makes_of_directory leads there

theorem makes_of_parents {path : Path} {name : Bytes} (leads : Leads path name) {files between : FileSystem}
    (made : createParents files path = (between, .ok ())) : ∃ place, FileSystem.Makes between path place name := by
  obtain ⟨front, whole⟩ := leads.segments
  have up := leads.parent whole
  rw [createParents, up] at made
  dsimp only at made
  refine FileSystem.makes_of_parent leads up fun begun => ?_
  have there := FileSystem.created_directories begun (congrArg Prod.snd made)
  rw [made] at there
  exact there

theorem error_of_write {path : Path} {text : String} {policy : WritePolicy} {files between after : FileSystem}
    {error : IoError} (made : createParents files path = (between, .ok ()))
    (refused : Helper.write files path text policy = (after, .error error)) :
    after = between ∧ between.createFile path = .error error := by
  rw [Helper.write, made] at refused
  dsimp only at refused
  split at refused
  · cases refused
  · cases wrote : between.writeFile path (Utf8.encode text) with
    | ok written =>
        rw [wrote] at refused
        cases refused
    | error other =>
        rw [wrote] at refused
        cases refused
        exact ⟨rfl, FileSystem.error_of_write_file wrote⟩

/-- Once a save has made the directory of its file, it can make the file unless the path is a directory; and so can
writing a helper file, once the directories above it are made. -/
theorem directory_suffices {name : Bytes} :
    (∀ {host : Host} {context after : Context} {path : String}, Leads (.ofString path) name →
      Begun context saveMethod path → host.run createDirectory context = .ok .next after →
      ∀ stop later, host.run createFile after = .error stop later ↔
        stop = .fault (.io .isADirectory) ∧ later = after ∧
          after.streams.files.isDirectory (.ofString path) = true) ∧
    ∀ {files between after : FileSystem} {path : Path} {text : String} {policy : WritePolicy} {error : IoError},
      Leads path name → createParents files path = (between, .ok ()) →
      Helper.write files path text policy = (after, .error error) →
      after = between ∧ error = .isADirectory ∧ between.isDirectory path = true := by
  constructor
  · intro host context after path leads begun made stop later
    obtain ⟨files, created, rfl⟩ := create_directory_done begun made
    obtain ⟨place, makes⟩ := makes_of_save leads created
    have reached : Begun { context with streams := { context.streams with files } } saveMethod path :=
      ⟨begun.member, begun.given, begun.unopened⟩
    rw [create_file_fails_iff reached]
    constructor
    · rintro ⟨error, refused, rfl, rfl⟩
      obtain ⟨rfl, there⟩ := (FileSystem.create_fails_iff makes).mp refused
      exact ⟨rfl, rfl, there⟩
    · rintro ⟨rfl, rfl, there⟩
      exact ⟨_, (FileSystem.create_fails_iff makes).mpr ⟨rfl, there⟩, rfl, rfl⟩
  · intro files between after path text policy error leads made refused
    obtain ⟨rfl, failed⟩ := error_of_write made refused
    obtain ⟨place, makes⟩ := makes_of_parents leads made
    exact ⟨rfl, (FileSystem.create_fails_iff makes).mp failed⟩

-- A path through a directory that is still to be made, and back: both make it, and neither is refused the file; nor is
-- writing to a bare name.
theorem directory_suffices_back :
    (∃ host after, host = Execution.host (helperClass ⟨.book, "book_HelperClass", "xsdhelper"⟩ {}) 1 ∧
      host.run createDirectory ⟨{ files := {} }, [], saveFrame (.text "a/../f")⟩ = .ok .next after ∧
      ∀ stop later, host.run createFile after ≠ .error stop later) ∧
    (createParents {} (.ofString "a/../f")).1.entries = [([Utf8.encode "a"], .directory)] ∧
    (∀ error, (Helper.write {} (.ofString "a/../f") "" .overwrite).2 ≠ .error error) ∧
    ∀ error, (Helper.write {} (.ofString "f") "" .overwrite).2 ≠ .error error := by
  have leads : Leads (.ofString "a/../f") (Utf8.encode "f") :=
    ⟨by decide +kernel, by decide +kernel, by decide +kernel⟩
  have bare : Leads (.ofString "f") (Utf8.encode "f") := ⟨by decide +kernel, by decide +kernel, by decide +kernel⟩
  have unrefused {path : Path} (leads : Leads path (Utf8.encode "f")) (made : (createParents {} path).2 = .ok ())
      (clear : (createParents {} path).1.isDirectory path = false) (error : IoError) :
      (Helper.write {} path "" .overwrite).2 ≠ .error error := by
    intro refused
    obtain ⟨_, _, there⟩ := directory_suffices.2 leads (Prod.ext rfl made) (Prod.ext rfl refused)
    rw [clear] at there
    cases there
  refine ⟨?_, by decide +kernel, unrefused leads (by decide +kernel) (by decide +kernel),
    unrefused bare (by decide +kernel) (by decide +kernel)⟩
  have begun : Begun ⟨{ files := {} }, [], saveFrame (.text "a/../f")⟩ saveMethod "a/../f" := ⟨rfl, rfl, rfl⟩
  have done : (FileSystem.createDirectories {} (directoryOf "a/../f")).2 = .ok () := by decide +kernel
  have made := run_create_directory_of_ok
    (Execution.host (helperClass ⟨.book, "book_HelperClass", "xsdhelper"⟩ {}) 1) _ begun.given (Prod.ext rfl done)
  refine ⟨_, _, rfl, made, fun stop later refused => ?_⟩
  obtain ⟨_, _, there⟩ := (directory_suffices.1 leads begun made stop later).mp refused
  exact absurd there (by decide +kernel)

end Helper
end Companion
