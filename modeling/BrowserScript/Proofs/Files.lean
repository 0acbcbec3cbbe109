import BrowserScript.Files
import BrowserScript.Proofs.Effect
import Mathlib.Data.List.Infix
import Mathlib.Data.List.TakeWhile

/-!
# What a change of the files leaves as it was

A path that can be opened leads to a place, through places that are all directories. Putting
something there changes what is at that place and at no other, so that making directories leaves
every file as it was, and writing a file leaves every file but the one that the path leads to.
-/

namespace BrowserScript.Files

open Effect

/-! ## Pieces of a path -/

theorem not_mem_of_mem_splitOn {c : Char} {text piece : List Char}
    (isPiece : piece ∈ text.splitOn c) : c ∉ piece := by
  induction text generalizing piece with
  | nil =>
      rw [List.splitOn_nil, List.mem_singleton] at isPiece
      simp [isPiece]
  | cons first rest ih =>
      rw [List.splitOn_cons_eq_if_modifyHead] at isPiece
      split at isPiece
      next isMark =>
        rcases List.mem_cons.1 isPiece with rfl | later
        · exact List.not_mem_nil
        · exact ih later
      next other =>
        -- The first character goes to the front of the first piece.
        obtain ⟨head, tail, shape⟩ := List.exists_cons_of_ne_nil (List.splitOn_ne_nil c rest)
        rw [shape] at isPiece ih
        rcases List.mem_cons.1 isPiece with rfl | later
        · rw [List.mem_cons, not_or]
          exact ⟨fun same => other (by simp [same]), ih List.mem_cons_self⟩
        · exact ih (List.mem_cons_of_mem head later)

theorem not_mem_of_mem_pieces {path part : String} (isPiece : part ∈ pieces path) :
    '/' ∉ part.toList := by
  obtain ⟨piece, between, rfl⟩ := List.mem_map.1 isPiece
  rw [String.toList_ofList]
  exact not_mem_of_mem_splitOn between

/-- The pieces before a slash and those after it. -/
theorem pieces_of_slash {path front : String} {back : List Char}
    (spelled : path.toList = front.toList ++ '/' :: back) :
    pieces path = pieces front ++ pieces (String.ofList back) := by
  rw [pieces, spelled, List.splitOn_append_cons_self, List.map_append, pieces, pieces,
    String.toList_ofList]

/-- Pieces that are joined by slashes. -/
theorem pieces_intercalate {parts : List String} (each : ∀ part ∈ parts, '/' ∉ part.toList)
    (given : parts ≠ []) : pieces (String.intercalate "/" parts) = parts := by
  have apart : ∀ part ∈ parts.map String.toList, '/' ∉ part := by
    simpa only [List.forall_mem_map] using each
  have joined : (String.intercalate "/" parts).toList =
      ['/'].intercalate (parts.map String.toList) := String.toList_intercalate
  rw [pieces, joined, List.splitOn_intercalate '/' apart (by simpa using given), List.map_map]
  simp

/-! ## Places and their names -/

structure IsPart (part : String) : Prop where
  ne_empty : part ≠ ""
  ne_point : part ≠ "."
  noSlash : '/' ∉ part.toList

/-- A list of such parts, before which the root may stand. -/
def IsPlace (place : List String) : Prop :=
  ∃ rest, (∀ part ∈ rest, IsPart part) ∧ (place = rest ∨ place = "/" :: rest)

namespace IsPlace

theorem here : IsPlace [] := ⟨[], List.forall_mem_nil _, .inl rfl⟩

theorem root : IsPlace ["/"] := ⟨[], List.forall_mem_nil _, .inr rfl⟩

theorem concat {place : List String} {part : String} (isPlace : IsPlace place)
    (isPart : IsPart part) : IsPlace (place ++ [part]) := by
  obtain ⟨rest, each, shape⟩ := isPlace
  refine ⟨rest ++ [part], ?_, ?_⟩
  · intro other member
    rcases List.mem_append.1 member with old | new
    · exact each other old
    · rw [List.mem_singleton.1 new]
      exact isPart
  · rcases shape with rfl | rfl
    · exact .inl rfl
    · exact .inr rfl

theorem dropLast {place : List String} (isPlace : IsPlace place) : IsPlace place.dropLast := by
  obtain ⟨rest, each, shape⟩ := isPlace
  have fewer : ∀ part ∈ rest.dropLast, IsPart part :=
    fun part member => each part (List.mem_of_mem_dropLast member)
  rcases shape with rfl | rfl
  · exact ⟨_, fewer, .inl rfl⟩
  · cases rest with
    | nil => exact here
    | cons first rest => exact ⟨_, fewer, .inr rfl⟩

end IsPlace

theorem isPart_up : IsPart ".." := by constructor <;> decide

theorem IsPart.toList_ne_nil {part : String} (isPart : IsPart part) : part.toList ≠ [] := by
  intro none
  exact isPart.ne_empty (String.toList_eq_nil_iff.1 none)

/-- The parts of a name that joins them. -/
theorem filter_pieces_intercalate {rest : List String} (each : ∀ part ∈ rest, IsPart part) :
    (pieces (String.intercalate "/" rest)).filter (fun part => part != "" && part != ".") =
      rest := by
  cases rest with
  | nil => rfl
  | cons first rest =>
      rw [pieces_intercalate (fun part member => (each part member).noSlash)
        (List.cons_ne_nil first rest)]
      apply List.filter_eq_self.2
      intro part member
      simp [(each part member).ne_empty, (each part member).ne_point]

theorem isAbsolute_intercalate {rest : List String} (each : ∀ part ∈ rest, IsPart part) :
    isAbsolute (String.intercalate "/" rest) = false := by
  cases rest with
  | nil => rfl
  | cons first rest =>
      have isPart := each first List.mem_cons_self
      obtain ⟨c, chars, spelled⟩ := List.exists_cons_of_ne_nil isPart.toList_ne_nil
      have head : (String.intercalate "/" (first :: rest)).toList.head? = some c := by
        rw [String.toList_intercalate, List.map_cons, spelled]
        cases rest <;> rfl
      rw [isAbsolute, head, beq_eq_false_iff_ne]
      rintro ⟨rfl⟩
      exact isPart.noSlash (spelled ▸ List.mem_cons_self)

/-- The name of a place stands for that place. -/
theorem parts_nameOf {place : List String} (isPlace : IsPlace place) :
    parts (nameOf place) = place := by
  obtain ⟨rest, each, rfl | rfl⟩ := isPlace
  · have name : nameOf place = String.intercalate "/" place := by
      unfold nameOf
      split
      next rest => exact absurd (each "/" List.mem_cons_self).noSlash (by decide)
      next => rfl
    rw [parts, name, isAbsolute_intercalate each, filter_pieces_intercalate each]
    rfl
  · have absolute : isAbsolute ("/" ++ String.intercalate "/" rest) = true := by
      rw [isAbsolute, String.toList_append]
      rfl
    have split : pieces ("/" ++ String.intercalate "/" rest) =
        pieces "" ++ pieces (String.intercalate "/" rest) := by
      have spelled : ("/" ++ String.intercalate "/" rest).toList =
          "".toList ++ '/' :: (String.intercalate "/" rest).toList := String.toList_append
      rw [pieces_of_slash spelled, String.ofList_toList]
    rw [parts, nameOf, absolute, split]
    exact congrArg ("/" :: ·) (filter_pieces_intercalate each)

/-! ## Putting something at a place -/

theorem content?_of_isAbove (files : Files) {place : List String} (above : isAbove place = true) :
    files.content? place = some .directory := by
  rw [content?, if_pos above]

theorem startsWith_iff {whole start : List String} :
    startsWith whole start = true ↔ start <+: whole := by
  rw [startsWith, beq_iff_eq, List.prefix_iff_eq_take]
  exact eq_comm

structure Reached (files : Files) (place : List String) : Prop where
  isPlace : IsPlace place
  inside : ∀ above, above <+: place → above ≠ place → files.content? above = some .directory

namespace Reached

variable {files : Files} {place : List String}

theorem here (files : Files) : Reached files [] := by
  constructor
  · exact IsPlace.here
  · intro above isPrefix apart
    exact absurd (List.prefix_nil.1 isPrefix) apart

theorem root (files : Files) : Reached files ["/"] := by
  constructor
  · exact IsPlace.root
  · intro above isPrefix apart
    rcases List.prefix_concat_iff.1 (show above <+: [] ++ ["/"] from isPrefix) with same | isPrefix
    · exact absurd same apart
    · rw [List.prefix_nil.1 isPrefix]
      exact content?_of_isAbove files rfl

/-- Go down from a directory. -/
theorem concat {part : String} (reached : Reached files place)
    (directory : files.content? place = some .directory) (isPart : IsPart part) :
    Reached files (place ++ [part]) := by
  constructor
  · exact reached.isPlace.concat isPart
  · intro above isPrefix apart
    rcases List.prefix_concat_iff.1 isPrefix with same | isPrefix
    · exact absurd same apart
    · by_cases same : above = place
      · rw [same]
        exact directory
      · exact reached.inside above isPrefix same

/-- Go up, which from the working directory leads out of it. -/
theorem parent (reached : Reached files place) : Reached files (parent place) := by
  unfold Files.parent
  split
  next => exact reached
  next =>
    split
    next above => exact reached.concat (content?_of_isAbove files above) isPart_up
    next =>
      constructor
      · exact reached.isPlace.dropLast
      · intro above isPrefix apart
        have isInside := isPrefix.trans (List.dropLast_prefix place)
        apply reached.inside above isInside
        rintro rfl
        exact apart (isPrefix.eq_of_length_le (by simp))

/-- What is put at a place is there. -/
theorem content?_put (reached : Reached files place) (below : isAbove place = false)
    (content : FileContent) :
    content? (files ++ [(nameOf place, content)]) place = some content := by
  have named : (parts (nameOf place) == place) = true := by
    rw [parts_nameOf reached.isPlace, beq_self_eq_true]
  rw [content?, below, List.reverse_concat]
  simp only [Bool.false_eq_true, if_false, List.find?_cons, named]

/-- What is put at a place changes no other one. -/
theorem content?_put_of_ne (reached : Reached files place) (content : FileContent)
    {other : List String} (apart : other ≠ place) :
    content? (files ++ [(nameOf place, content)]) other = files.content? other := by
  have named : (parts (nameOf place) == other) = false := by
    rw [parts_nameOf reached.isPlace, beq_eq_false_iff_ne]
    exact apart.symm
  have inside : startsWith (parts (nameOf place)) other = true →
      files.content? other = some .directory := by
    intro starts
    rw [parts_nameOf reached.isPlace, startsWith_iff] at starts
    exact reached.inside other starts apart
  unfold content? at inside ⊢
  rw [List.reverse_concat, List.find?_cons, named, List.any_append, List.any_cons, List.any_nil,
    Bool.or_false]
  cases starts : startsWith (parts (nameOf place)) other with
  | false => rw [Bool.or_false]
  | true =>
      -- A place that encloses the new one is a directory already.
      rw [Bool.or_true, inside starts]
      have before := inside starts
      split
      next => rfl
      next below =>
        rw [if_neg below] at before
        cases found : files.reverse.find? fun file => parts file.1 == other with
        | none => rfl
        | some file =>
            rw [found] at before
            exact before

end Reached

/-! ## Following a path -/

/-- The place that a path leads to, if a file is there or may be put there. -/
def Opened.place? : Opened → Option (List String)
  | .bytes place _ => some place
  | .absent place => some place
  | _ => none

def Opened.data? : Opened → Option (List UInt8)
  | .bytes _ data => some data
  | _ => none

theorem isPart_of_mem_pieces {path part : String} (isPiece : part ∈ pieces path)
    (named : ¬(part == "" || part == ".") = true) : IsPart part := by
  rw [Bool.or_eq_true, beq_iff_eq, beq_iff_eq, not_or] at named
  exact ⟨named.1, named.2, not_mem_of_mem_pieces isPiece⟩

def Opened.isThere : Opened → Bool
  | .missing => false
  | .notDirectory => false
  | _ => true

theorem Opened.isThere_of_place? {opened : Opened} {place : List String}
    (leads : opened.place? = some place) : opened.isThere = true := by
  cases opened <;> first | rfl | cases leads

def enter (place : List String) (part : String) : List String :=
  if part == "" || part == "." then place
  else if part == ".." then parent place
  else place ++ [part]

section Follow

variable {files : Files} {place start : List String}

theorem follow_cons (directory : files.content? start = some .directory) (part : String)
    (steps : List String) :
    files.follow start (part :: steps) = files.follow (enter start part) steps := by
  rw [follow, directory, enter]
  dsimp only
  split
  next => rfl
  next =>
    split
    next => rfl
    next => rfl

/-- A step can only be taken from a directory. -/
theorem directory_of_follow_cons {part : String} {steps : List String}
    (there : (files.follow start (part :: steps)).isThere = true) :
    files.content? start = some .directory := by
  rw [follow] at there
  cases found : files.content? start with
  | none =>
      rw [found] at there
      cases there
  | some content =>
      rw [found] at there
      cases content with
      | directory => rfl
      | bytes data => cases there

theorem Reached.enter {part : String} (reached : Reached files start)
    (directory : files.content? start = some .directory)
    (named : ¬(part == "" || part == ".") = true → IsPart part) :
    Reached files (enter start part) := by
  unfold Files.enter
  split
  next => exact reached
  next kept =>
    split
    next => exact reached.parent
    next => exact reached.concat directory (named kept)

/-- The place that a path leads to is reached, and what is there is what the path opens. -/
theorem follow_reached {steps : List String} (reached : Reached files start)
    (named : ∀ part ∈ steps, ¬(part == "" || part == ".") = true → IsPart part)
    (leads : (files.follow start steps).place? = some place) :
    Reached files place ∧
      files.content? place = (files.follow start steps).data?.map FileContent.bytes := by
  induction steps generalizing start with
  | nil =>
      rw [follow] at leads ⊢
      cases found : files.content? start with
      | none =>
          rw [found] at leads
          cases leads
          exact ⟨reached, found⟩
      | some content =>
          rw [found] at leads
          cases content with
          | directory => cases leads
          | bytes data =>
              cases leads
              exact ⟨reached, found⟩
  | cons part steps ih =>
      have directory := directory_of_follow_cons (Opened.isThere_of_place? leads)
      rw [follow_cons directory] at leads ⊢
      apply ih _ _ leads
      · exact reached.enter directory (named part List.mem_cons_self)
      · exact fun other member => named other (List.mem_cons_of_mem part member)

/-- A path leads to the same place as long as the directories on its way are there. -/
theorem follow_of_directories {after : Files} {steps : List String} {data : List UInt8}
    (kept : ∀ other, files.content? other = some .directory →
      after.content? other = some .directory)
    (there : after.content? place = some (.bytes data))
    (leads : (files.follow start steps).place? = some place) :
    after.follow start steps = .bytes place data := by
  induction steps generalizing start with
  | nil =>
      have same : place = start := by
        rw [follow] at leads
        split at leads <;> cases leads <;> rfl
      rw [follow, ← same, there]
  | cons part steps ih =>
      have directory := directory_of_follow_cons (Opened.isThere_of_place? leads)
      rw [follow_cons directory] at leads
      rw [follow_cons (kept start directory)]
      exact ih leads

/-- What is followed by further steps is a directory. -/
theorem follow_eq_directory {front back : List String} (more : back ≠ [])
    (there : (files.follow start (front ++ back)).isThere = true) :
    files.follow start front = .directory := by
  induction front generalizing start with
  | nil =>
      obtain ⟨part, steps, rfl⟩ := List.exists_cons_of_ne_nil more
      rw [follow, directory_of_follow_cons there]
  | cons part front ih =>
      have directory := directory_of_follow_cons there
      rw [List.cons_append, follow_cons directory] at there
      rw [follow_cons directory]
      exact ih there

variable {path : String} (leads : (files.openPath path).place? = some place)
include leads

/-- A path leads to a place inside of directories, and to what is there. -/
theorem reached_of_openPath :
    Reached files place ∧
      files.content? place = (files.openPath path).data?.map FileContent.bytes := by
  unfold openPath at leads ⊢
  split at leads
  next => cases leads
  next given =>
    rw [if_neg given]
    refine follow_reached ?_ (fun part isPiece named => isPart_of_mem_pieces isPiece named) leads
    split
    next => exact Reached.root files
    next => exact Reached.here files

theorem ne_directory_of_openPath : files.content? place ≠ some .directory := by
  rw [(reached_of_openPath leads).2]
  cases (files.openPath path).data? <;> simp

theorem isAbove_of_openPath : isAbove place = false := by
  apply Bool.eq_false_iff.2
  intro above
  exact ne_directory_of_openPath leads (content?_of_isAbove files above)

/-- A path leads to the bytes that were put where it leads. -/
theorem openPath_put (data : List UInt8) :
    openPath (files ++ [(nameOf place, .bytes data)]) path = .bytes place data := by
  have reached := (reached_of_openPath leads).1
  have kept : ∀ other, files.content? other = some .directory →
      content? (files ++ [(nameOf place, .bytes data)]) other = some .directory := by
    intro other directory
    rw [reached.content?_put_of_ne (.bytes data) fun same =>
      ne_directory_of_openPath leads (same ▸ directory)]
    exact directory
  have there := reached.content?_put (isAbove_of_openPath leads) (.bytes data)
  unfold openPath at leads ⊢
  split at leads
  next => cases leads
  next given =>
    rw [if_neg given]
    exact follow_of_directories kept there leads

end Follow

/-! ## Changes -/

/-- Outside of some places, files differ at most in directories that were made. -/
def Frame (written : List (List String)) (before after : Files) : Prop :=
  ∀ place, place ∉ written →
    after.content? place = before.content? place ∨
      before.content? place = none ∧ after.content? place = some .directory

namespace Frame

theorem refl (written : List (List String)) (files : Files) : Frame written files files :=
  fun _ _ => .inl rfl

theorem trans {written : List (List String)} (first second third : Files)
    (early : Frame written first second) (late : Frame written second third) :
    Frame written first third := by
  intro place outside
  rcases late place outside with same | ⟨absent, made⟩
  · rw [same]
    exact early place outside
  · rcases early place outside with same | ⟨_, made'⟩
    · exact .inr ⟨same ▸ absent, made⟩
    · cases made'.symm.trans absent

/-- Files that agree outside of some places agree outside of more. -/
theorem mono {fewer more : List (List String)} {before after : Files}
    (frame : Frame fewer before after) (within : ∀ place ∈ fewer, place ∈ more) :
    Frame more before after :=
  fun place outside => frame place fun member => outside (within place member)

/-- What is put where a path leads changes no other place. -/
theorem put {files : Files} {path : String} {place : List String}
    (leads : (files.openPath path).place? = some place) (content : FileContent) :
    Frame [place] files (files ++ [(nameOf place, content)]) := by
  intro other outside
  apply Or.inl
  apply (reached_of_openPath leads).1.content?_put_of_ne
  exact fun same => outside (List.mem_singleton.2 same)

end Frame

/-- Making a directory changes no file. -/
theorem moves_makeDirectory (path : String) : Moves (Frame []) (makeDirectory path) := by
  intro files
  rw [makeDirectory, ends_get_bind]
  cases opened : files.openPath path with
  | absent place =>
      have leads : (files.openPath path).place? = some place := by
        rw [opened]
        rfl
      intro other _
      by_cases same : other = place
      · -- Nothing was where the directory is made.
        have absent : files.content? place = none := by
          rw [(reached_of_openPath leads).2, opened]
          rfl
        rw [same]
        exact .inr ⟨absent,
          (reached_of_openPath leads).1.content?_put (isAbove_of_openPath leads) .directory⟩
      · exact Frame.put leads .directory other (by simpa using same)
  | _ => exact Frame.refl [] files

/-- Making directories changes no file. -/
theorem moves_makeDirectories (path : String) : Moves (Frame []) (makeDirectories path) := by
  apply Moves.bind Frame.trans
  · exact Moves.forM (Frame.refl []) Frame.trans moves_makeDirectory _
  · intro _ files
    rw [ends_get_bind]
    cases files.openPath path <;> exact Frame.refl [] files

/-- Writing fails after directories were made, or it puts the data where the path then leads. -/
theorem write_cases (files : Files) (path : String) (data : List UInt8) :
    ∃ middle, Frame [] files middle ∧
      ((∃ problem, ends (write path data) files = (.error problem, middle)) ∨
        ∃ place, (middle.openPath path).place? = some place ∧
          ends (write path data) files =
            (.ok (), middle ++ [(nameOf place, .bytes data)])) := by
  have made := moves_makeDirectories (directoryOf path) files
  cases run : ends (makeDirectories (directoryOf path)) files with
  | mk answer middle =>
      rw [run] at made
      refine ⟨middle, made, ?_⟩
      cases answer with
      | error problem => exact .inl ⟨problem, ends_bind_of_error run⟩
      | ok =>
          rw [write, ends_bind_of_ok run, ends_get_bind]
          cases opened : middle.openPath path with
          | bytes place old => exact .inr ⟨place, rfl, rfl⟩
          | absent place => exact .inr ⟨place, rfl, rfl⟩
          | _ => exact .inl ⟨_, rfl⟩

/-- Files in which a path leads to some data, and in which every other file is as it was. -/
def Written (before : Files) (path : String) (data : List UInt8) (after : Files) : Prop :=
  ∃ place, after.openPath path = .bytes place data ∧ Frame [place] before after

section Write

variable {files after : Files} {path : String} {data : List UInt8}

/-- A write that fails changes no file. -/
theorem frame_of_write_error {problem : String}
    (failed : ends (write path data) files = (.error problem, after)) : Frame [] files after := by
  obtain ⟨middle, frame, ⟨_, run⟩ | ⟨place, _, run⟩⟩ := write_cases files path data
  · cases run.symm.trans failed
    exact frame
  · cases run.symm.trans failed

/-- A write that succeeds has written its file, and no other one. -/
theorem written_of_write_ok (succeeded : ends (write path data) files = (.ok (), after)) :
    Written files path data after := by
  obtain ⟨middle, frame, ⟨_, run⟩ | ⟨place, leads, run⟩⟩ := write_cases files path data
  · cases run.symm.trans succeeded
  · cases run.symm.trans succeeded
    refine ⟨place, openPath_put leads data, ?_⟩
    apply Frame.trans files middle _ _ (Frame.put leads (.bytes data))
    exact frame.mono fun other member => absurd member List.not_mem_nil

end Write

/-! ## Writing where a path leads -/

/-- The directory part of a path is made of slashes, or it stands before a slash. -/
theorem directoryOf_cases (path : String) :
    (∀ c ∈ (directoryOf path).toList, c = '/') ∨
      ∃ rest, path.toList = (directoryOf path).toList ++ '/' :: rest := by
  -- Read from the back: the last part, the slashes before it, and the rest.
  let front := path.toList.reverse.dropWhile (· != '/')
  by_cases slashes : front.all (· == '/') = true
  · apply Or.inl
    have spelled : directoryOf path = String.ofList front := if_pos slashes
    rw [spelled, String.toList_ofList]
    simpa using slashes
  · apply Or.inr
    have spelled : directoryOf path = String.ofList (front.dropWhile (· == '/')).reverse :=
      if_neg slashes
    rw [spelled, String.toList_ofList]
    have given : front ≠ [] := by
      intro none
      exact slashes (by rw [none]; rfl)
    -- A slash ends the search for one, and it comes first in what is left.
    have starts : (front.head given == '/') = true := by
      simpa using List.head_dropWhile_not (fun c : Char => c != '/') given
    have some : (front.takeWhile (· == '/')).reverse ≠ [] := by
      rw [Ne, List.reverse_eq_nil_iff, List.takeWhile_eq_nil_iff]
      intro none
      exact none (List.length_pos_of_ne_nil given) (by rw [List.get_mk_zero]; exact starts)
    obtain ⟨c, more, shape⟩ := List.exists_cons_of_ne_nil some
    have isSlash : c = '/' := by
      have member : c ∈ front.takeWhile (· == '/') :=
        List.mem_reverse.1 (shape ▸ List.mem_cons_self)
      simpa using List.mem_takeWhile_imp member
    refine ⟨more ++ (path.toList.reverse.takeWhile (· != '/')).reverse, ?_⟩
    calc path.toList
        = (path.toList.reverse.takeWhile (· != '/') ++ front).reverse := by
          rw [List.takeWhile_append_dropWhile, List.reverse_reverse]
      _ = (path.toList.reverse.takeWhile (· != '/') ++
            (front.takeWhile (· == '/') ++ front.dropWhile (· == '/'))).reverse := by
          rw [List.takeWhile_append_dropWhile (p := fun c => c == '/')]
      _ = _ := by
          rw [List.reverse_append, List.reverse_append, shape, isSlash, List.append_assoc,
            List.cons_append]

theorem follow_slashes (files : Files) (count : Nat) :
    files.follow ["/"] (List.replicate count "") = .directory := by
  induction count with
  | zero => rfl
  | succ count ih =>
      rw [List.replicate_succ, follow_cons (content?_of_isAbove files rfl)]
      exact ih

/-- A path of slashes leads to the root. -/
theorem openPath_slashes (files : Files) {path : String} (given : path ≠ "")
    (slashes : ∀ c ∈ path.toList, c = '/') : files.openPath path = .directory := by
  have spelled := List.eq_replicate_of_mem slashes
  have absolute : isAbsolute path = true := by
    rw [isAbsolute, spelled, List.head?_replicate, if_neg]
    · rfl
    · rw [List.length_eq_zero_iff, String.toList_eq_nil_iff]
      exact given
  have split : ∀ count,
      (List.replicate count '/').splitOn '/' = List.replicate (count + 1) ([] : List Char) := by
    intro count
    induction count with
    | zero => rfl
    | succ count ih =>
        rw [List.replicate_succ, List.splitOn_cons_eq_if_modifyHead, ih]
        rfl
  rw [openPath, if_neg (by simpa using given), absolute, pieces, spelled, split,
    List.map_replicate]
  exact follow_slashes files _

/-- The directory part of a path that could be followed is a directory, unless there is none. -/
theorem openPath_directoryOf {files : Files} {path : String}
    (there : (files.openPath path).isThere = true) :
    directoryOf path = "" ∨ files.openPath (directoryOf path) = .directory := by
  by_cases none : directoryOf path = ""
  · exact .inl none
  apply Or.inr
  rcases directoryOf_cases path with slashes | ⟨rest, spelled⟩
  · exact openPath_slashes files none slashes
  · obtain ⟨c, chars, first⟩ := List.exists_cons_of_ne_nil
      fun empty => none (String.toList_eq_nil_iff.1 empty)
    have absolute : isAbsolute path = isAbsolute (directoryOf path) := by
      rw [isAbsolute, isAbsolute, spelled, first]
      rfl
    have given : ¬(path == "") = true := by
      rw [beq_iff_eq]
      rintro rfl
      rw [first] at spelled
      cases spelled
    rw [openPath, if_neg given, absolute, pieces_of_slash spelled] at there
    rw [openPath, if_neg (by simpa using none)]
    apply follow_eq_directory _ there
    simp [pieces]

theorem openPath_of_mem_ancestors {files : Files} (fuel : Nat) {path ancestor : String}
    (directory : path = "" ∨ files.openPath path = .directory)
    (member : ancestor ∈ ancestors fuel path) : files.openPath ancestor = .directory := by
  induction fuel generalizing path with
  | zero => cases member
  | succ fuel ih =>
      rw [ancestors] at member
      split at member
      next => cases member
      next proper =>
        rw [Bool.or_eq_true, beq_iff_eq, beq_iff_eq, not_or] at proper
        have directory := directory.resolve_left proper.1
        rcases List.mem_append.1 member with above | self
        · apply ih _ above
          apply openPath_directoryOf
          rw [directory]
          rfl
        · rw [List.mem_singleton.1 self]
          exact directory

theorem ends_makeDirectory {files : Files} {paths : List String}
    (directories : ∀ path ∈ paths, files.openPath path = .directory) :
    ends (paths.forM makeDirectory) files = (.ok (), files) := by
  induction paths with
  | nil => rfl
  | cons path paths ih =>
      have first : ends (makeDirectory path) files = (.ok (), files) := by
        rw [makeDirectory, ends_get_bind, directories path List.mem_cons_self]
        rfl
      change ends (makeDirectory path >>= fun _ => paths.forM makeDirectory) files = _
      rw [ends_bind_of_ok first]
      exact ih fun other member => directories other (List.mem_cons_of_mem path member)

/-- Where a path leads to a place, writing succeeds, and no directory is made for it. -/
theorem write_of_leads {files : Files} {path : String} {place : List String}
    (leads : (files.openPath path).place? = some place) (data : List UInt8) :
    ends (write path data) files = (.ok (), files ++ [(nameOf place, .bytes data)]) := by
  have directory := openPath_directoryOf (Opened.isThere_of_place? leads)
  have made : ends (makeDirectories (directoryOf path)) files = (.ok (), files) := by
    rw [makeDirectories, ends_bind_of_ok
      (ends_makeDirectory fun ancestor => openPath_of_mem_ancestors _ directory), ends_get_bind]
    rcases directory with none | directory
    · rw [none]
      rfl
    · rw [directory]
      rfl
  rw [write, ends_bind_of_ok made, ends_get_bind]
  revert leads
  cases files.openPath path with
  | bytes place old =>
      rintro ⟨⟩
      rfl
  | absent place =>
      rintro ⟨⟩
      rfl
  | _ => rintro ⟨⟩

end BrowserScript.Files
