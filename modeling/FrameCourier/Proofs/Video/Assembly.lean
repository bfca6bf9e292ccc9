import FrameCourier.Proofs.Number.Counting
import FrameCourier.Proofs.Video.NumberedImages

/-!
# Frames for a video

The images of frames are written before their numbers are checked.  Numbers in order are all
different, and so are the names for them, so that no image is written over another one.  What the
program answers is then the answer: that it does not start, how it fails, or the file it leaves.
-/

namespace FrameCourier.Video

variable {first : Nat} {frame : OutputFrame} {frames : List OutputFrame} {folder : Listing}

/-! ## The check -/

theorem checkFrom_of_countsFrom (counts : CountsFrom first (frames.map OutputFrame.index)) :
    checkFrom first (frames.map fun frame => numberedImageName frame.index) = .ok () := by
  induction frames generalizing first with
  | nil => rfl
  | cons frame frames ih =>
    obtain ⟨number, rest⟩ := countsFrom_cons.mp counts
    rw [List.map_cons, checkFrom, if_pos (by rw [number]), ih rest]

/-- The check tells of the first frame that has not the number of its place. -/
theorem checkFrom_of_not_countsFrom
    (disordered : ¬CountsFrom first (frames.map OutputFrame.index)) :
    ∃ before frame later, frames = before ++ frame :: later ∧
      CountsFrom first (before.map OutputFrame.index) ∧
      frame.index ≠ UInt32.ofNat (first + before.length) ∧
      checkFrom first (frames.map fun frame => numberedImageName frame.index) =
        .error (.outOfOrder (numberedImageName (UInt32.ofNat (first + before.length)))
          (numberedImageName frame.index)) := by
  induction frames generalizing first with
  | nil => exact absurd rfl disordered
  | cons frame frames ih =>
    by_cases number : frame.index = UInt32.ofNat first
    · have rest : ¬CountsFrom (first + 1) (frames.map OutputFrame.index) :=
        fun rest => disordered (countsFrom_cons.mpr ⟨number, rest⟩)
      obtain ⟨before, found, later, rfl, counts, apart, refused⟩ := ih rest
      refine ⟨frame :: before, found, later, rfl, countsFrom_cons.mpr ⟨number, counts⟩, ?_⟩
      rw [List.length_cons, Nat.add_comm before.length 1, ← Nat.add_assoc, List.map_cons,
        checkFrom, if_pos (by rw [number])]
      exact ⟨apart, refused⟩
    · refine ⟨[], frame, frames, rfl, rfl, number, ?_⟩
      rw [List.map_cons, checkFrom, if_neg fun same => number (numberedImageName_inj.mp same)]
      rfl

/-! ## Writing the images -/

/-- The file of a frame's image. -/
def fileOf (frame : OutputFrame) : String × Node :=
  (numberedImageName frame.index, .file frame.image)

/-- Images under different names are written one after the other. -/
theorem place_of_distinct (distinct : (folder ++ frames.map fileOf).Distinct) :
    place folder frames = .ok (folder ++ frames.map fileOf) := by
  induction frames generalizing folder with
  | nil => rw [List.map_nil, List.append_nil, place]
  | cons frame frames ih =>
    rw [List.map_cons, List.append_cons] at distinct ⊢
    have fresh : numberedImageName frame.index ∉ folder.names := by
      rw [Listing.Distinct, Listing.names, List.map_append, List.map_append] at distinct
      have apart := (List.nodup_append'.mp (List.nodup_append'.mp distinct).1).2.2
      exact fun taken => apart taken (List.mem_singleton_self _)
    have noFolder : ∀ inner,
        folder.lookup (numberedImageName frame.index) ≠ some (.folder inner) := by
      rw [Listing.lookup_eq_none_iff_not_mem_names.mpr fresh]
      exact fun inner => (Option.some_ne_none _).symm
    rw [place, Listing.write_of_not_folder noFolder, Listing.put_of_not_mem fresh]
    exact ih distinct

/-- In a folder that has only files, images are written in any case. -/
theorem exists_place (frames : List OutputFrame)
    (noFolder : ∀ name inner, folder.lookup name ≠ some (.folder inner)) :
    ∃ after, place folder frames = .ok after := by
  induction frames generalizing folder with
  | nil => exact ⟨folder, rfl⟩
  | cons frame frames ih =>
    rw [place, Listing.write_of_not_folder (noFolder _)]
    apply ih
    intro name inner
    by_cases same : name = numberedImageName frame.index
    · rw [same, Listing.lookup_put_self]
      intro equal
      cases equal
    · rw [Listing.lookup_put_of_ne same]
      exact noFolder name inner

theorem map_fileOf (counts : CountsFrom first (frames.map OutputFrame.index))
    (few : first + frames.length ≤ 2 ^ 32) :
    frames.map fileOf = numberedFrom first (frames.map OutputFrame.image) := by
  induction frames generalizing first with
  | nil => rfl
  | cons frame frames ih =>
    rw [List.length_cons] at few
    obtain ⟨number, rest⟩ := countsFrom_cons.mp counts
    have name : numberedImageName frame.index = imageName first := by
      rw [number, numberedImageName_ofNat (by omega)]
    rw [List.map_cons, List.map_cons, numberedFrom, ih rest (by omega), fileOf, name]

/-- Whether frames are refused depends on the check alone: their images are written before it. -/
theorem exists_prepare_eq (some : frames ≠ []) :
    ∃ folder, place [] frames = .ok folder ∧ prepare frames =
      (checkFrom 1 (frames.map fun frame => numberedImageName frame.index)).map fun _ => folder := by
  obtain ⟨folder, placed⟩ : ∃ folder, place [] frames = .ok folder :=
    exists_place frames fun _ _ => (Option.some_ne_none _).symm
  refine ⟨folder, placed, ?_⟩
  rw [prepare, List.isEmpty_eq_false_iff.mpr some, placed, checkSequence]
  cases checkFrom 1 (frames.map fun frame => numberedImageName frame.index) <;> rfl

theorem exists_prepare_of_countsFrom (some : frames ≠ [])
    (counts : CountsFrom 1 (frames.map OutputFrame.index)) :
    ∃ folder, place [] frames = .ok folder ∧ prepare frames = .ok folder := by
  obtain ⟨folder, placed, prepared⟩ := exists_prepare_eq some
  exact ⟨folder, placed, by rw [prepared, checkFrom_of_countsFrom counts]; rfl⟩

/-- The images of frames in order are in the folder under their numbers, and nothing else is. -/
theorem prepare_of_isCount (some : frames ≠ [])
    (count : IsCount 1 (frames.map OutputFrame.index)) :
    prepare frames = .ok (numberedFrom 1 (frames.map OutputFrame.image)) := by
  obtain ⟨counts, few⟩ := isCount_one_iff.mp count
  rw [List.length_map] at few
  have files := map_fileOf counts (by omega)
  have written : place [] frames = .ok (frames.map fileOf) := by
    apply place_of_distinct
    rw [List.nil_append, files]
    exact distinct_numberedFrom _ _
  obtain ⟨folder, placed, prepared⟩ := exists_prepare_of_countsFrom some counts
  rw [prepared, ← placed, written, files]

theorem prepare_of_not_countsFrom (disordered : ¬CountsFrom 1 (frames.map OutputFrame.index)) :
    ∃ before frame later, frames = before ++ frame :: later ∧
      CountsFrom 1 (before.map OutputFrame.index) ∧
      frame.index ≠ UInt32.ofNat (1 + before.length) ∧
      prepare frames = .error (.outOfOrder
        (numberedImageName (UInt32.ofNat (1 + before.length))) (numberedImageName frame.index)) := by
  have some : frames ≠ [] := by
    rintro rfl
    exact disordered rfl
  obtain ⟨before, frame, later, parts, counts, apart, refused⟩ :=
    checkFrom_of_not_countsFrom disordered
  obtain ⟨folder, -, prepared⟩ := exists_prepare_eq some
  exact ⟨before, frame, later, parts, counts, apart, by rw [prepared, refused]; rfl⟩

/-! ## The answer of the program -/

/-- The program is asked to start with arguments on a folder, and its answer is what comes of the
attempt: that it does not start; its complaint, if it does not end with status 0; otherwise the
file that it leaves under the name of the output, or why there is none. -/
structure Follows (program : Program) (arguments : List String) (folder : Listing)
    (attempt : Attempt Bytes) : Prop where
  notStarted : ∀ fault, program.run arguments folder = .error fault →
    attempt = ⟨none, .error (.notStarted program.path fault)⟩
  started : ∀ after ending, program.run arguments folder = .ok (after, ending) →
    attempt.started = some (arguments, folder)
  failed : ∀ after ending, program.run arguments folder = .ok (after, ending) →
    ending.status ≠ some 0 → attempt.result = .error (.failed ending.status
      (String.ofList (Text.trim (Text.lossy ending.complaint).toList)))
  missing : ∀ after ending, program.run arguments folder = .ok (after, ending) →
    ending.status = some 0 → after.lookup outputName = none →
      attempt.result = .error (.system .noEntry)
  covered : ∀ after ending inner, program.run arguments folder = .ok (after, ending) →
    ending.status = some 0 → after.lookup outputName = some (.folder inner) →
      attempt.result = .error (.system .isDirectory)
  video : ∀ after ending video, program.run arguments folder = .ok (after, ending) →
    ending.status = some 0 → after.lookup outputName = some (.file video) →
      attempt.result = .ok video

theorem Program.follows_attempt (program : Program) (arguments : List String)
    (folder : Listing) : Follows program arguments folder
      (program.attempt arguments folder outputOf) := by
  constructor
  · intro fault answer
    rw [attempt, answer]
  · intro after ending answer
    rw [attempt, answer]
  · intro after ending answer bad
    rw [attempt, answer]
    exact if_neg bad
  · intro after ending answer good nothing
    rw [attempt, answer]
    simp only [good, if_true, outputOf, Listing.content, nothing, Except.mapError]
  · intro after ending inner answer good found
    rw [attempt, answer]
    simp only [good, if_true, outputOf, Listing.content, found, Node.content, Except.mapError]
  · intro after ending video answer good found
    rw [attempt, answer]
    simp only [good, if_true, outputOf, Listing.content, found, Node.content, Except.mapError]

variable {program : Program} {work : String} {options : Options}

theorem follows_of_prepare (prepared : prepare frames = .ok folder) :
    Follows program (assembly work (inside work outputName) options) folder
      (encodeFrames program work frames options) := by
  rw [encodeFrames, prepared]
  exact Program.follows_attempt _ _ _

theorem encodeFrames_of_prepare_error {error : Error} (refused : prepare frames = .error error) :
    encodeFrames program work frames options = ⟨none, .error error⟩ := by
  rw [encodeFrames, refused]

/-- Frames that do not count up are refused for the first one in a wrong place, whatever the program
would do. -/
theorem encodeFrames_of_not_countsFrom (work : String) (options : Options)
    (disordered : ¬CountsFrom 1 (frames.map OutputFrame.index)) :
    ∃ before frame later, frames = before ++ frame :: later ∧
      CountsFrom 1 (before.map OutputFrame.index) ∧
      frame.index ≠ UInt32.ofNat (before.length + 1) ∧
      ∀ program, encodeFrames program work frames options = ⟨none, .error (.outOfOrder
        (numberedImageName (UInt32.ofNat (before.length + 1)))
        (numberedImageName frame.index))⟩ := by
  obtain ⟨before, frame, later, parts, counts, apart, refused⟩ :=
    prepare_of_not_countsFrom disordered
  rw [Nat.add_comm] at apart refused
  exact ⟨before, frame, later, parts, counts, apart,
    fun program => encodeFrames_of_prepare_error refused⟩

/-- Fewer frames than there are numbers have the numbers 1, 2, 3 and so on, and the program is asked
to start on a folder that has just their images, under their numbers, and its answer is what comes
of it; or there are none, and they are refused as none; or they are refused for the first one that
has not its place for a number, whatever the program would do.  In any number, frames that count up
are put to the program and no others. -/
theorem encodeFrames_conduct (work : String) (frames : List OutputFrame) (options : Options) :
    (frames ≠ [] → IsCount 1 (frames.map OutputFrame.index) → ∀ program,
      Follows program (assembly work (inside work outputName) options)
        (numberedFrom 1 (frames.map OutputFrame.image))
        (encodeFrames program work frames options)) ∧
    (frames = [] → ∀ program,
      encodeFrames program work frames options = ⟨none, .error .noFrames⟩) ∧
    (frames.length < 2 ^ 32 → ¬IsCount 1 (frames.map OutputFrame.index) →
      ∃ before frame later, frames = before ++ frame :: later ∧
        IsCount 1 (before.map OutputFrame.index) ∧ frame.index.toNat ≠ before.length + 1 ∧
        ∀ program, encodeFrames program work frames options = ⟨none, .error (.outOfOrder
          (numberedImageName (UInt32.ofNat (before.length + 1)))
          (numberedImageName frame.index))⟩) ∧
    (frames ≠ [] → CountsFrom 1 (frames.map OutputFrame.index) →
      ∃ folder, place [] frames = .ok folder ∧ ∀ program,
        Follows program (assembly work (inside work outputName) options) folder
          (encodeFrames program work frames options)) ∧
    (¬CountsFrom 1 (frames.map OutputFrame.index) →
      ∃ before frame later, frames = before ++ frame :: later ∧
        CountsFrom 1 (before.map OutputFrame.index) ∧
        frame.index ≠ UInt32.ofNat (before.length + 1) ∧
        ∀ program, encodeFrames program work frames options = ⟨none, .error (.outOfOrder
          (numberedImageName (UInt32.ofNat (before.length + 1)))
          (numberedImageName frame.index))⟩) := by
  refine ⟨fun some count program => follows_of_prepare (prepare_of_isCount some count), ?_, ?_, ?_,
    encodeFrames_of_not_countsFrom work options⟩
  · rintro rfl program
    exact encodeFrames_of_prepare_error rfl
  · intro few disordered
    have notCounting : ¬CountsFrom 1 (frames.map OutputFrame.index) := fun counts =>
      disordered (isCount_one_iff.mpr ⟨counts, by rwa [List.length_map]⟩)
    obtain ⟨before, frame, later, rfl, counts, apart, refused⟩ :=
      encodeFrames_of_not_countsFrom work options notCounting
    rw [List.length_append, List.length_cons] at few
    refine ⟨before, frame, later, rfl, ?_, fun place => apart ?_, refused⟩
    · exact counts.isCount (by rw [List.length_map]; omega)
    · rw [← place, UInt32.ofNat_toNat]
  · intro some counts
    obtain ⟨folder, placed, prepared⟩ := exists_prepare_of_countsFrom some counts
    exact ⟨folder, placed, fun program => follows_of_prepare prepared⟩

/-- A program that leaves a video, whatever it is asked. -/
def obligingProgram : Program :=
  ⟨"ffmpeg", fun _ _ => .ok ([(outputName, .file [9])], ⟨some 0, []⟩)⟩

/-- Two frames are put to such a program, and its video is the answer. -/
theorem encodeFrames_conduct_twoFrames :
    let attempt := encodeFrames obligingProgram "work" [⟨1, [7]⟩, ⟨2, [8]⟩] .default
    attempt.started = some (assembly "work" "work/output.mp4" .default,
        [("frame_00001.jpg", .file [7]), ("frame_00002.jpg", .file [8])]) ∧
      attempt.result = .ok [9] := by
  intro attempt
  have count : IsCount 1 (([⟨1, [7]⟩, ⟨2, [8]⟩] : List OutputFrame).map OutputFrame.index) := rfl
  obtain ⟨asked, -⟩ := encodeFrames_conduct "work" [⟨1, [7]⟩, ⟨2, [8]⟩] .default
  have follows := asked (List.cons_ne_nil _ _) count obligingProgram
  exact ⟨(follows.started _ _ rfl).trans rfl,
    follows.video _ _ [9] rfl rfl List.lookup_cons_self⟩

/-- A program that is not there. -/
def missingProgram : Program := ⟨"ffmpeg", fun _ _ => .error .noEntry⟩

/-- As many frames as there are numbers and their number counted on. -/
def roundFrames (count : Nat) : List OutputFrame :=
  (List.range' 1 count).map fun n => ⟨UInt32.ofNat n, []⟩

theorem countsFrom_roundFrames (count : Nat) :
    CountsFrom 1 ((roundFrames count).map OutputFrame.index) := by
  simp [CountsFrom, roundFrames, Function.comp_def]

/-- A program that is not there is not started, though the frame is numbered 1; and one is started
on frames that are more than there are numbers, though they are not numbered 1, 2, 3 and so on. -/
theorem encodeFrames_notStarted_or_beyond :
    (IsCount 1 (([⟨1, [97]⟩] : List OutputFrame).map OutputFrame.index) ∧
      (encodeFrames missingProgram "work" [⟨1, [97]⟩] .default).started = none) ∧
    ∃ frames, ¬IsCount 1 (frames.map OutputFrame.index) ∧
      (encodeFrames obligingProgram "work" frames .default).started ≠ none := by
  refine ⟨⟨rfl, rfl⟩, roundFrames (2 ^ 32), ?_, ?_⟩
  · intro count
    have few := (isCount_one_iff.mp count).2
    rw [List.length_map, roundFrames, List.length_map, List.length_range'] at few
    exact Nat.lt_irrefl _ few
  · have some : roundFrames (2 ^ 32) ≠ [] := by
      intro none
      have length := congrArg List.length none
      rw [roundFrames, List.length_map, List.length_range'] at length
      cases length
    obtain ⟨folder, -, prepared⟩ := exists_prepare_of_countsFrom some (countsFrom_roundFrames _)
    have follows : Follows obligingProgram _ _ (encodeFrames _ "work" _ .default) :=
      follows_of_prepare prepared
    rw [follows.started _ _ rfl]
    exact Option.some_ne_none _

end FrameCourier.Video
