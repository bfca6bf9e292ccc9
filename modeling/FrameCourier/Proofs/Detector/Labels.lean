import FrameCourier.Proofs.Detector.ClassLines
import FrameCourier.Proofs.Text.Bytes
import FrameCourier.Proofs.Text.Lines

/-!
# Which classes a labels file names

The number of a class is its place among the lines that are not blank.  So every one of these lines
must name a class, the one at its place, and no other line may; the first line that names none
decides how the file is wrong.
-/

namespace FrameCourier

open Text

namespace ColorLabel

/-! ## Lines -/

section

variable {line rest : Bytes}

theorem lines_append (noFeed : 0x0A ∉ line) (rest : Bytes) : lines (line ++ 0x0A :: rest) =
    (if line.getLast? = some 0x0D then line.dropLast else line) :: lines rest := by
  rw [lines, lines, List.splitOn_append_cons_self_of_not_mem noFeed]
  cases pieces : rest.splitOn 0x0A with
  | nil => exact absurd pieces (List.splitOn_ne_nil _ _)
  | cons piece pieces => rfl

theorem lines_of_not_mem (noFeed : 0x0A ∉ line) (some : line ≠ []) : lines line = [line] := by
  rw [lines, List.splitOn_eq_singleton noFeed, linesOf, if_neg]
  rwa [List.isEmpty_iff]

end

/-- The bytes of characters. -/
def bytesOf (cs : List Char) : Bytes := Bytes.ofText (String.ofList cs)

theorem bytesOf_append (cs ds : List Char) : bytesOf (cs ++ ds) = bytesOf cs ++ bytesOf ds := by
  rw [bytesOf, String.ofList_append, Bytes.ofText_append, bytesOf, bytesOf]

theorem bytesOf_cons_of_ascii {c : Char} (ascii : c.toNat < 128) (cs : List Char) :
    bytesOf (c :: cs) = c.toNat.toUInt8 :: bytesOf cs := by
  rw [bytesOf, Bytes.ofText_ofList, List.flatMap_cons, Bytes.utf8EncodeChar_of_ascii ascii,
    ← Bytes.ofText_ofList]
  rfl

theorem bytesOf_injective : Function.Injective bytesOf :=
  fun _ _ same => String.ofList_injective (Bytes.ofText_inj.mp same)

section

variable {line : List Char}

theorem feed_mem_bytesOf_iff : 0x0A ∈ bytesOf line ↔ '\n' ∈ line :=
  Bytes.mem_ofText_ofList_iff (c := '\n') (by decide)

theorem return_mem_bytesOf_iff : 0x0D ∈ bytesOf line ↔ '\r' ∈ line :=
  Bytes.mem_ofText_ofList_iff (c := '\r') (by decide)

/-- A text that ends in no carriage return has bytes that end in none. -/
theorem getLast?_bytesOf_ne (noReturn : line.getLast? ≠ some '\r') :
    (bytesOf line).getLast? ≠ some 0x0D := by
  rcases List.eq_nil_or_concat' line with nothing | ⟨front, c, parts⟩
  · rw [nothing]
    decide
  · intro last
    have nonempty : bytesOf [c] ≠ bytesOf [] := bytesOf_injective.ne (List.cons_ne_nil c [])
    rw [parts, bytesOf_append, List.getLast?_append_of_ne_nil _ nonempty] at last
    have inside := return_mem_bytesOf_iff.mp (List.mem_of_getLast? last)
    rw [parts, ← List.mem_singleton.mp inside, List.getLast?_concat] at noReturn
    exact noReturn rfl

/-- The lines of a file are those of its text. -/
theorem lines_of_inLines {text : List Char} {ls : List (List Char)} (inLines : InLines text ls) :
    lines (bytesOf text) = ls.map bytesOf := by
  induction inLines with
  | nothing => rfl
  | unended noFeed some =>
    exact lines_of_not_mem (mt feed_mem_bytesOf_iff.mp noFeed) fun nothing =>
      some (bytesOf_injective nothing)
  | @feed line rest _ noFeed noReturn later ih =>
    have parts : bytesOf (line ++ '\n' :: rest) = bytesOf line ++ 0x0A :: bytesOf rest := by
      rw [bytesOf_append, bytesOf_cons_of_ascii (by decide)]
      rfl
    rw [parts, lines_append (mt feed_mem_bytesOf_iff.mp noFeed),
      if_neg (getLast?_bytesOf_ne noReturn), ih, List.map_cons]
  | @returnFeed line rest _ noFeed later ih =>
    have ended : bytesOf (line ++ ['\r']) = bytesOf line ++ [0x0D] := by
      rw [bytesOf_append]
      rfl
    have parts : bytesOf (line ++ '\r' :: '\n' :: rest) =
        bytesOf (line ++ ['\r']) ++ 0x0A :: bytesOf rest := by
      rw [List.append_cons, bytesOf_append (line ++ ['\r']), bytesOf_cons_of_ascii (by decide)]
      rfl
    have noFeed' : '\n' ∉ line ++ ['\r'] := by simpa using noFeed
    rw [parts, lines_append (mt feed_mem_bytesOf_iff.mp noFeed'), ended, List.getLast?_concat,
      if_pos rfl, List.dropLast_concat, ih, List.map_cons]

end

/-! ## Files -/

/-- The lines that are not white space only. -/
def nonblank (ls : List (List Char)) : List (List Char) := ls.filter fun line => !line.all isBlank

/-- A text that names classes, in the order of their numbers, each on a line of its own.  There may
be lines of white space among them and around them, and every line but the last one is ended. -/
inductive IsWritten : List ColorLabel → List Char → Prop where
  | lastBlank {line : List Char} (blank : AllBlank line) (noFeed : '\n' ∉ line) : IsWritten [] line
  | lastNamed {line : List Char} {label : ColorLabel} (names : Names line label)
    (noFeed : '\n' ∉ line) : IsWritten [label] line
  | blank {line ending rest : List Char} {labels : List ColorLabel} (blank : AllBlank line)
    (noFeed : '\n' ∉ line) (ended : IsLineEnd ending) (later : IsWritten labels rest) :
    IsWritten labels (line ++ ending ++ rest)
  | named {line ending rest : List Char} {label : ColorLabel} {labels : List ColorLabel}
    (names : Names line label) (noFeed : '\n' ∉ line) (ended : IsLineEnd ending)
    (later : IsWritten labels rest) : IsWritten (label :: labels) (line ++ ending ++ rest)

section

variable {line text : List Char} {ls : List (List Char)} {labels : List ColorLabel}

theorem nonblank_cons_of_allBlank (blank : AllBlank line) :
    nonblank (line :: ls) = nonblank ls := by
  apply List.filter_cons_of_neg
  rw [List.all_eq_true.mpr blank]
  decide

theorem nonblank_cons_of_not_allBlank (some : ¬AllBlank line) :
    nonblank (line :: ls) = line :: nonblank ls := by
  apply List.filter_cons_of_pos
  rw [Bool.not_eq_true', ← Bool.not_eq_true, List.all_eq_true]
  exact some

theorem readLine_of_allBlank (blank : AllBlank line) : readLine (bytesOf line) = .ok none := by
  rw [readLine, bytesOf, Bytes.text?_ofText]
  dsimp only
  rw [String.toList_ofList, trim_eq_nil_iff.mpr blank]
  rfl

theorem readLine_of_not_allBlank (some : ¬AllBlank line) :
    readLine (bytesOf line) = (readFields line).map Option.some := by
  rw [readLine, bytesOf, Bytes.text?_ofText]
  dsimp only
  rw [String.toList_ofList, if_neg]
  rwa [List.isEmpty_iff, trim_eq_nil_iff]

/-- Of the lines of a text those that are not blank are read, one after the other. -/
theorem readLines_map (ls : List (List Char)) :
    readLines (ls.map bytesOf) = (nonblank ls).mapM readFields := by
  induction ls with
  | nil => rfl
  | cons line ls ih =>
    rw [List.map_cons, readLines, ih]
    by_cases blank : AllBlank line
    · rw [readLine_of_allBlank blank, nonblank_cons_of_allBlank blank]
      cases (nonblank ls).mapM readFields <;> rfl
    · rw [readLine_of_not_allBlank blank, nonblank_cons_of_not_allBlank blank, List.mapM_cons]
      cases readFields line with
      | error fault => rfl
      | ok label => cases (nonblank ls).mapM readFields <;> rfl

theorem read_of_inLines (inLines : InLines text ls) :
    read (bytesOf text) = (nonblank ls).mapM readFields := by
  rw [read, lines_of_inLines inLines, readLines_map]

theorem IsWritten.exists_inLines (written : IsWritten labels text) :
    ∃ ls, InLines text ls ∧ List.Forall₂ Names (nonblank ls) labels := by
  induction written with
  | @lastBlank line blank noFeed =>
    by_cases nothing : line = []
    · rw [nothing]
      exact ⟨[], .nothing, .nil⟩
    · refine ⟨[line], .unended noFeed nothing, ?_⟩
      rw [nonblank_cons_of_allBlank blank]
      exact .nil
  | @lastNamed line label names noFeed =>
    have nonempty : line ≠ [] := fun nothing => names.not_allBlank (by simp [AllBlank, nothing])
    refine ⟨[line], .unended noFeed nonempty, ?_⟩
    rw [nonblank_cons_of_not_allBlank names.not_allBlank]
    exact .cons names .nil
  | @blank line ending rest labels blank noFeed ended later ih =>
    obtain ⟨ls, inLines, named⟩ := ih
    -- A carriage return at the end of the line may become a part of what ends it.
    obtain ⟨front, parts, whole⟩ := inLines.exists_cons_of_isLineEnd noFeed ended
    have frontBlank : AllBlank front := by
      rcases parts with same | returned
      · rwa [← same]
      · rw [returned] at blank
        exact fun c inside => blank c (List.mem_append_left _ inside)
    refine ⟨front :: ls, whole, ?_⟩
    rwa [nonblank_cons_of_allBlank frontBlank]
  | @named line ending rest label labels names noFeed ended later ih =>
    obtain ⟨ls, inLines, named⟩ := ih
    obtain ⟨front, parts, whole⟩ := inLines.exists_cons_of_isLineEnd noFeed ended
    have frontNames : Names front label := by
      rcases parts with same | returned
      · rwa [← same]
      · rw [returned] at names
        exact names.of_return
    refine ⟨front :: ls, whole, ?_⟩
    rw [nonblank_cons_of_not_allBlank frontNames.not_allBlank]
    exact .cons frontNames named

/-- Texts with the same bytes are in the same lines, so a text is in lines in one way. -/
theorem eq_of_inLines {others : List (List Char)} (inLines : InLines text ls)
    (inOthers : InLines text others) : others = ls :=
  bytesOf_injective.list_map ((lines_of_inLines inOthers).symm.trans (lines_of_inLines inLines))

theorem read_eq_ok_iff (inLines : InLines text ls) :
    read (bytesOf text) = .ok labels ↔ List.Forall₂ Names (nonblank ls) labels := by
  rw [read_of_inLines inLines]
  constructor
  · intro read
    exact (forall₂_of_mapM_eq_ok read).imp fun _ _ => readFields_eq_ok_iff.mp
  · intro named
    exact mapM_eq_ok_of_forall₂ (named.imp fun _ _ => readFields_eq_ok_iff.mpr)

/-- The first line that names no class decides how a file is wrong. -/
theorem exists_read_eq_error {before later : List (List Char)} (inLines : InLines text ls)
    (parts : nonblank ls = before ++ line :: later)
    (named : ∀ earlier ∈ before, ∃ label, Names earlier label) (none : ∀ label, ¬Names line label) :
    ∃ fault, read (bytesOf text) = .error fault ∧ IsRefused line fault := by
  cases wrong : readFields line with
  | ok label => exact absurd (readFields_eq_ok_iff.mp wrong) (none label)
  | error fault =>
    refine ⟨fault, ?_, isRefused_of_readFields wrong⟩
    rw [read_of_inLines inLines, parts]
    apply mapM_eq_error _ wrong
    intro earlier inside
    obtain ⟨label, names⟩ := named earlier inside
    exact ⟨label, readFields_eq_ok_iff.mpr names⟩

end

/-- A file is read as the classes that its text names, in their order.  Of any text in UTF-8 every
line that is not blank must name one class, and these are the classes; the first line that names
none decides that the content is wrong, and how. -/
theorem read_namedClasses (text : String) :
    (∀ labels, IsWritten labels text.toList → read (Bytes.ofText text) = .ok labels) ∧
      ∃ ls, (∀ others, InLines text.toList others ↔ others = ls) ∧
        (∀ labels, read (Bytes.ofText text) = .ok labels ↔
          List.Forall₂ Names (nonblank ls) labels) ∧
        ∀ before line later, nonblank ls = before ++ line :: later →
          (∀ earlier ∈ before, ∃ label, Names earlier label) → (∀ label, ¬Names line label) →
          ∃ fault, read (Bytes.ofText text) = .error fault ∧ fault.isInvalidData = true ∧
            IsRefused line fault := by
  have bytes : Bytes.ofText text = bytesOf text.toList := by rw [bytesOf, String.ofList_toList]
  obtain ⟨ls, inLines⟩ := exists_inLines text.toList
  rw [bytes]
  refine ⟨fun labels written => ?_, ls, fun others => ?_, fun labels => read_eq_ok_iff inLines,
    fun before line later parts named none => ?_⟩
  · obtain ⟨others, inOthers, named⟩ := written.exists_inLines
    exact (read_eq_ok_iff inOthers).mpr named
  · constructor
    · exact eq_of_inLines inLines
    · intro same
      rwa [same]
  · obtain ⟨fault, read, refused⟩ := exists_read_eq_error inLines parts named none
    refine ⟨fault, read, ?_, refused⟩
    cases refused <;> rfl

/-- Three classes, the second one without a name, on lines with white space in many places. -/
def paddedText : String := "\u00a0person , 255,0 ,+007\r\n \t\r\n,1,2,3\r\ncat,0,0,9"

@[inherit_doc paddedText]
def paddedLabels : List ColorLabel :=
  [⟨"person", ⟨255, 0, 7⟩⟩, ⟨"", ⟨1, 2, 3⟩⟩, ⟨"cat", ⟨0, 0, 9⟩⟩]

/-- A class, a blank line, and two lines that name no class. -/
def wrongText : String := "cat,1,2,3\n\ndog,1,2\ncow,256,0,0"

theorem isWritten_paddedText : IsWritten paddedLabels paddedText.toList := by
  have cat : IsWritten [⟨"cat", ⟨0, 0, 9⟩⟩] "cat,0,0,9".toList :=
    .lastNamed (readFields_eq_ok_iff.mp rfl) (by decide)
  have unnamed : Names ",1,2,3".toList ⟨"", ⟨1, 2, 3⟩⟩ := readFields_eq_ok_iff.mp rfl
  have person : Names "\u00a0person , 255,0 ,+007".toList ⟨"person", ⟨255, 0, 7⟩⟩ :=
    readFields_eq_ok_iff.mp rfl
  have parts : paddedText.toList = "\u00a0person , 255,0 ,+007".toList ++ ['\r', '\n'] ++
      (" \t".toList ++ ['\r', '\n'] ++
        (",1,2,3".toList ++ ['\r', '\n'] ++ "cat,0,0,9".toList)) := by
    rfl
  rw [parts]
  apply IsWritten.named person (by decide) .returnFeed
  apply IsWritten.blank (List.all_eq_true.mp rfl) (by decide) .returnFeed
  exact .named unnamed (by decide) .returnFeed cat

theorem inLines_wrongText : InLines wrongText.toList
    ["cat,1,2,3".toList, [], "dog,1,2".toList, "cow,256,0,0".toList] := by
  have cow : InLines "cow,256,0,0".toList ["cow,256,0,0".toList] := .unended (by decide) (by decide)
  have parts : wrongText.toList = "cat,1,2,3".toList ++ '\n' ::
      ([] ++ '\n' :: ("dog,1,2".toList ++ '\n' :: "cow,256,0,0".toList)) := by
    rfl
  rw [parts]
  apply InLines.feed (by decide) (by decide)
  apply InLines.feed (by decide) (by decide)
  exact .feed (by decide) (by decide) cow

theorem read_namedClasses_wrongText :
    IsWritten paddedLabels paddedText.toList ∧
      read (Bytes.ofText paddedText) = .ok paddedLabels ∧
      (∃ label, Names "cat,1,2,3".toList label) ∧ (∀ label, ¬Names "dog,1,2".toList label) ∧
      InLines wrongText.toList
        ["cat,1,2,3".toList, [], "dog,1,2".toList, "cow,256,0,0".toList] ∧
      ∃ fault, read (Bytes.ofText wrongText) = .error fault ∧ fault.isInvalidData = true ∧
        IsRefused "dog,1,2".toList fault := by
  have cat : ∃ label, Names "cat,1,2,3".toList label :=
    ⟨⟨"cat", ⟨1, 2, 3⟩⟩, readFields_eq_ok_iff.mp rfl⟩
  have dog : ∀ label, ¬Names "dog,1,2".toList label := by
    intro label names
    have read : readFields "dog,1,2".toList = .error (.malformedLine "dog,1,2") := rfl
    rw [readFields_eq_ok_iff.mpr names] at read
    cases read
  refine ⟨isWritten_paddedText, (read_namedClasses paddedText).1 _ isWritten_paddedText, cat,
    dog, inLines_wrongText, ?_⟩
  obtain ⟨ls, unique, _, refused⟩ := (read_namedClasses wrongText).2
  have same := (unique _).mp inLines_wrongText
  rw [← same] at refused
  apply refused ["cat,1,2,3".toList] _ ["cow,256,0,0".toList] rfl _ dog
  intro earlier inside
  rwa [List.mem_singleton.mp inside]

end ColorLabel

end FrameCourier
