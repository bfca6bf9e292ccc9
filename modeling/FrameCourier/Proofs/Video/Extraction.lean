import FrameCourier.Proofs.Video.NumberedImages

/-!
# Extracted images

The images of a video are the numbered images that the program left, in the order of their
numbers, however the system lists the folder and whatever other files are there.  They are taken
by name, though, so a video of 100000 images or more is refused: the last of its numbers have six
digits, and the image 100000 is met where the image 10001 is expected.
-/

namespace FrameCourier.Video

variable {images : List Bytes} {folder : Listing}

/-- A folder holds images under the names of the numbers from 1 on, beside what is no image. -/
def HoldsImages (folder : Listing) (images : List Bytes) : Prop :=
  ∃ others : Listing, (∀ entry ∈ others, isImageName entry.1 = false) ∧
    folder.Perm (numberedFrom 1 images ++ others)

theorem HoldsImages.perm_filter (held : HoldsImages folder images) :
    (numberedFrom 1 images).Perm (folder.filter fun entry => isImageName entry.1) := by
  obtain ⟨others, noImages, perm⟩ := held
  have left : others.filter (fun entry => isImageName entry.1) = [] :=
    List.filter_eq_nil_iff.mpr fun entry member => by simp [noImages entry member]
  have filtered := perm.filter fun entry => isImageName entry.1
  rw [List.filter_append, filter_numberedFrom, left, List.append_nil] at filtered
  exact filtered.symm

/-! ## The order in which images are met -/

/-- Numbers of up to five digits are met in their order. -/
theorem imagesOf_of_short (held : HoldsImages folder images) (short : images.length < 100000) :
    imagesOf folder = numberedFrom 1 images := by
  apply imagesOf_eq_of_perm (distinct_numberedFrom 1 images) held.perm_filter
  exact pairwise_numberedFrom fun m n _ less last => imageName_le_of_lt less.le (by omega)

/-- The images as they are met if the numbers of the last ones have six digits: `front` are the
first 10000, `middle` those between them and the image 100000, `later` those behind it. -/
def metByName (front middle : List Bytes) (image : Bytes) (later : List Bytes) : Listing :=
  numberedFrom 1 front ++ (imageName 100000, .file image) ::
    imagesOf (numberedFrom 10001 middle ++ numberedFrom 100001 later)

section

variable {front middle later : List Bytes} {image : Bytes}

theorem perm_metByName (image : Bytes) (later : List Bytes) (frontLength : front.length = 10000)
    (middleLength : middle.length = 89999) :
    (metByName front middle image later).Perm
      (numberedFrom 1 (front ++ (middle ++ image :: later))) := by
  have rest := perm_imagesOf (numberedFrom 10001 middle ++ numberedFrom 100001 later)
  rw [List.filter_append, filter_numberedFrom, filter_numberedFrom] at rest
  rw [numberedFrom_append, numberedFrom_append, frontLength, middleLength, numberedFrom]
  exact ((rest.cons _).trans List.perm_middle.symm).append_left _

theorem exists_of_mem_imagesOf {entry : String × Node}
    (member : entry ∈ imagesOf (numberedFrom 10001 middle ++ numberedFrom 100001 later)) :
    ∃ n, 10000 < n ∧ entry.1 = imageName n := by
  have listed := List.mem_of_mem_filter ((perm_imagesOf _).mem_iff.mp member)
  rcases List.mem_append.mp listed with early | late
  · obtain ⟨n, low, _, name⟩ := exists_of_mem_numberedFrom early
    exact ⟨n, low, name⟩
  · obtain ⟨n, low, _, name⟩ := exists_of_mem_numberedFrom late
    exact ⟨n, by omega, name⟩

theorem pairwise_metByName (frontLength : front.length = 10000) :
    (metByName front middle image later).Pairwise fun a b => a.1 ≤ b.1 := by
  refine List.pairwise_append.mpr ⟨?_, List.pairwise_cons.mpr ⟨?_, pairwise_imagesOf _⟩, ?_⟩
  · exact pairwise_numberedFrom fun m n _ less last => imageName_le_of_lt less.le (by omega)
  · intro entry member
    obtain ⟨n, high, name⟩ := exists_of_mem_imagesOf member
    rw [name]
    exact imageName_hundredThousand_le high
  · intro entry member behind after
    obtain ⟨m, _, last, name⟩ := exists_of_mem_numberedFrom member
    obtain ⟨n, high, nameBehind⟩ : ∃ n, 10000 ≤ n ∧ behind.1 = imageName n := by
      rcases List.mem_cons.mp after with rfl | rest
      · exact ⟨100000, by decide, rfl⟩
      · obtain ⟨n, high, name⟩ := exists_of_mem_imagesOf rest
        exact ⟨n, high.le, name⟩
    rw [name, nameBehind]
    exact imageName_le_of_le (by omega) high

end

/-- The image 100000 and what is around it. -/
theorem exists_parts (long : 100000 ≤ images.length) :
    ∃ front middle image later, images = front ++ (middle ++ image :: later) ∧
      front.length = 10000 ∧ middle.length = 89999 := by
  have early : (images.take 99999).length = 99999 := List.length_take_of_le (by omega)
  have parts := List.take_append_drop 99999 images
  rw [List.drop_eq_getElem_cons (by omega), ← List.take_append_drop 10000 (images.take 99999),
    List.append_assoc] at parts
  refine ⟨_, _, _, _, parts.symm, List.length_take_of_le (by rw [early]; decide), ?_⟩
  rw [List.length_drop, early]

/-- With longer numbers, the image 100000 is met right behind the first 10000 images. -/
theorem imagesOf_of_long (held : HoldsImages folder images) (long : 100000 ≤ images.length) :
    ∃ front middle image later, front.length = 10000 ∧
      imagesOf folder = metByName front middle image later := by
  obtain ⟨front, middle, image, later, rfl, frontLength, middleLength⟩ := exists_parts long
  have perm := perm_metByName image later frontLength middleLength
  exact ⟨front, middle, image, later, frontLength,
    imagesOf_eq_of_perm ((distinct_numberedFrom _ _).perm perm.symm)
      (perm.trans held.perm_filter) (pairwise_metByName frontLength)⟩

/-! ## Collecting them -/

theorem mapM_content_numberedFrom (first : Nat) (images : List Bytes) :
    (numberedFrom first images).mapM (fun entry => entry.2.content.mapError Error.system) =
      .ok images := by
  induction images generalizing first with
  | nil => rfl
  | cons image images ih =>
    rw [numberedFrom, List.mapM_cons, ih]
    rfl

theorem collect_of_short (held : HoldsImages folder images) (some : images ≠ [])
    (short : images.length < 100000) : collect folder = .ok images := by
  have checked : checkSequence ((numberedFrom 1 images).map Prod.fst) = .ok () := by
    rw [checkSequence, ← List.append_nil (List.map _ _), checkFrom_numberedFrom (by omega)]
    rfl
  have found : (numberedFrom 1 images).isEmpty = false := by
    cases images with
    | nil => exact absurd rfl some
    | cons image images => rfl
  rw [collect, imagesOf_of_short held short, found, checked]
  exact mapM_content_numberedFrom 1 images

theorem collect_of_long (held : HoldsImages folder images) (long : 100000 ≤ images.length) :
    collect folder = .error (.outOfOrder "frame_10001.jpg" "frame_100000.jpg") := by
  obtain ⟨front, middle, image, later, length, met⟩ := imagesOf_of_long held long
  have apart : imageName 100000 ≠ numberedImageName (UInt32.ofNat (1 + 10000)) := by
    rw [numberedImageName_eq, ne_eq, imageName_inj]
    decide
  -- The first 10000 names pass; then 10001 is expected, and 100000 comes.
  have refused : checkSequence ((metByName front middle image later).map Prod.fst) =
      .error (.outOfOrder "frame_10001.jpg" "frame_100000.jpg") := by
    rw [metByName, List.map_append, List.map_cons, checkSequence,
      checkFrom_numberedFrom (by omega), length, checkFrom, if_neg apart]
    rfl
  have some : (metByName front middle image later).isEmpty = false :=
    List.isEmpty_eq_false_iff.mpr (List.append_ne_nil_of_right_ne_nil _ (List.cons_ne_nil _ _))
  rw [collect, met, some, refused]
  rfl

/-! ## Extracting them -/

theorem attempt_of_well {α : Type} {program : Program} {arguments : List String}
    {before after : Listing} {complaint : Bytes} (outcome : Listing → Except Error α)
    (well : program.run arguments before = .ok (after, ⟨some 0, complaint⟩)) :
    program.attempt arguments before outcome = ⟨some (arguments, before), outcome after⟩ := by
  rw [Program.attempt, well]
  rfl

/-- A program that ends well and leaves images under the names of their numbers has them extracted
in the order of their numbers, in whatever order the folder lists them, exactly if there are fewer
than 100000.  From there on the image 100000 is met where the image 10001 is expected. -/
theorem extractImages_of_holdsImages (program : Program) (work video : String)
    {images : List Bytes} {left : Listing} {complaint : Bytes} (nonempty : images ≠ [])
    (held : HoldsImages left images)
    (well : program.run (extraction video work) [] = .ok (left, ⟨some 0, complaint⟩)) :
    (extractImages program work video true).started = some (extraction video work, []) ∧
    (extractImages program work video true).result =
      if images.length < 100000 then .ok images
      else .error (.outOfOrder "frame_10001.jpg" "frame_100000.jpg") := by
  rw [extractImages, if_pos rfl, attempt_of_well collect well]
  refine ⟨rfl, ?_⟩
  split
  · next short => exact collect_of_short held nonempty short
  · next long => exact collect_of_long held (Nat.not_lt.mp long)

/-- A program that ends well and leaves a folder as it is given. -/
def leaving (left : Listing) : Program := ⟨"ffmpeg", fun _ _ => .ok (left, ⟨some 0, []⟩)⟩

/-- Two images, the second one listed first, and notes. -/
def twoImages : Listing :=
  [("frame_00002.jpg", .file [2]), ("notes.txt", .file [3]), ("frame_00001.jpg", .file [1])]

theorem extractImages_of_holdsImages_twoImages :
    HoldsImages twoImages [[1], [2]] ∧
      (extractImages (leaving twoImages) "work" "in.mp4" true).result = .ok [[1], [2]] := by
  have held : HoldsImages twoImages [[1], [2]] := by
    refine ⟨[("notes.txt", .file [3])], by decide, ?_⟩
    exact (List.perm_append_singleton _ [_, _]).trans ((List.Perm.refl _).cons _)
  exact ⟨held, (extractImages_of_holdsImages (leaving twoImages) "work" "in.mp4"
    (List.cons_ne_nil _ _) held rfl).2⟩

/-- The folder of a video of 100000 empty images. -/
def longFolder : Listing := numberedFrom 1 (List.replicate 100000 [])

theorem extractImages_longFolder :
    HoldsImages longFolder (List.replicate 100000 []) ∧
      (extractImages (leaving longFolder) "work" "in.mp4" true).result =
        .error (.outOfOrder "frame_10001.jpg" "frame_100000.jpg") := by
  have held : HoldsImages longFolder (List.replicate 100000 []) := by
    refine ⟨[], List.forall_mem_nil _, ?_⟩
    rw [List.append_nil, longFolder]
  refine ⟨held, ?_⟩
  rw [extractImages, if_pos rfl, attempt_of_well collect rfl]
  exact collect_of_long held (by rw [List.length_replicate])

end FrameCourier.Video
