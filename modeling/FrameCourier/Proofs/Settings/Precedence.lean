import FrameCourier.Settings.Sources
import Mathlib.Data.List.TakeWhile

/-!
# Which source wins

Settings are laid over each other member by member: what a later source sets counts, and what it
does not set stays as earlier ones have it.  A variable of the environment wins over both files, and
the file for the deployment over the one for all deployments.
-/

namespace FrameCourier

namespace Setting

variable {under upper setting leaf : Setting} {key other : String} {names more : List String}

/-! ## What names lead to -/

/-- The member of a name, if the setting is a table that has one. -/
def member? (key : String) : Setting → Option Setting
  | .table members _ => members.lookup key
  | _ => none

/-- What names lead to, one after the other. -/
def at? (setting : Setting) : List String → Option Setting
  | [] => some setting
  | key :: rest => (setting.member? key).bind fun inner => inner.at? rest

/-- A table is laid over others by its members; anything else as a whole. -/
def isTable : Setting → Bool
  | .table .. => true
  | _ => false

theorem at?_cons_of_none (absent : setting.member? key = none) (rest : List String) :
    setting.at? (key :: rest) = none := by
  rw [at?, absent, Option.bind_none]

theorem at?_cons_of_some {inner : Setting} (found : setting.member? key = some inner)
    (rest : List String) : setting.at? (key :: rest) = inner.at? rest := by
  rw [at?, found, Option.bind_some]

/-- Where there is nothing, names lead to nothing. -/
theorem getD_at?_cons (setting : Setting) (key : String) (rest : List String) :
    (((setting.member? key).getD null).at? rest).getD null =
      (setting.at? (key :: rest)).getD null := by
  cases found : setting.member? key with
  | some inner => rw [at?_cons_of_some found, Option.getD_some]
  | none =>
    rw [at?_cons_of_none found, Option.getD_none]
    cases rest with
    | nil => rfl
    | cons next rest => exact congrArg (Option.getD · null) (at?_cons_of_none rfl rest)

theorem member?_asTable (setting : Setting) (key : String) :
    setting.asTable.member? key = setting.member? key := by
  cases setting <;> rfl

/-! ## Changes under a name -/

section

variable (change : Setting → Setting)

theorem lookup_changeMember_self (key : String) (members : List (String × Setting)) :
    (changeMember key change members).lookup key =
      some (change ((members.lookup key).getD null)) := by
  induction members with
  | nil => simp [changeMember]
  | cons member rest ih =>
    unfold changeMember
    split
    · next same => rw [List.lookup_cons, List.lookup_cons, same, beq_self_eq_true]; rfl
    · next differs =>
      have apart : (key == member.1) = false := by simpa using fun same => differs same.symm
      rw [List.lookup_cons, List.lookup_cons, apart]
      exact ih

theorem lookup_changeMember_of_ne (apart : other ≠ key) (members : List (String × Setting)) :
    (changeMember key change members).lookup other = members.lookup other := by
  have differs : (other == key) = false := by simpa using apart
  induction members with
  | nil => rw [changeMember, List.lookup_cons, differs]
  | cons member rest ih =>
    unfold changeMember
    split
    · next same => rw [List.lookup_cons, List.lookup_cons, same, differs]
    · rw [List.lookup_cons, List.lookup_cons, ih]

theorem member?_changeAt_self (key : String) (setting : Setting) :
    (setting.changeAt key change).member? key =
      some (change ((setting.member? key).getD null)) := by
  cases setting <;> exact lookup_changeMember_self change key _

theorem member?_changeAt_of_ne (apart : other ≠ key) (setting : Setting) :
    (setting.changeAt key change).member? other = setting.member? other := by
  cases setting with
  | table members origin => exact lookup_changeMember_of_ne change apart members
  | scalar value origin => exact lookup_changeMember_of_ne change apart []
  | list items origin => exact lookup_changeMember_of_ne change apart []

/-- What names lead to is changed by a change there. -/
theorem at?_changePath (names : List String) (setting : Setting) :
    (changePath (names.map .name) change setting).at? names =
      some (change ((setting.at? names).getD null)) := by
  induction names generalizing setting with
  | nil => rfl
  | cons key rest ih =>
    rw [List.map_cons, changePath, at?_cons_of_some (member?_changeAt_self _ key setting), ih,
      getD_at?_cons]

/-- Names part if neither of them leads through where the other ones lead. -/
def Part (first second : List String) : Prop :=
  ∃ common here there restHere restThere, here ≠ there ∧
    first = common ++ here :: restHere ∧ second = common ++ there :: restThere

/-- A change elsewhere changes nothing. -/
theorem at?_changePath_of_part (parted : Part more names) (setting : Setting) :
    (changePath (more.map .name) change setting).at? names = setting.at? names := by
  obtain ⟨common, here, there, restHere, restThere, differ, rfl, rfl⟩ := parted
  induction common generalizing setting with
  | nil =>
    rw [List.nil_append, List.nil_append, List.map_cons, changePath, at?,
      member?_changeAt_of_ne _ differ.symm, at?]
  | cons key common ih =>
    rw [List.cons_append, List.map_cons, changePath, List.cons_append,
      at?_cons_of_some (member?_changeAt_self _ key setting), ih]
    cases found : setting.member? key with
    | some inner => rw [at?_cons_of_some found, Option.getD_some]
    | none =>
      rw [at?_cons_of_none found, Option.getD_none]
      cases common <;> exact at?_cons_of_none rfl _

end

/-! ## One setting over another -/

mutual

/-- No table has two members of one name. -/
def IsDistinct : Setting → Prop
  | .table members _ => AreDistinct members
  | .list _ _ => True
  | .scalar _ _ => True

def AreDistinct : List (String × Setting) → Prop
  | [] => True
  | (key, setting) :: rest =>
    key ∉ rest.map Prod.fst ∧ IsDistinct setting ∧ AreDistinct rest

end

theorem AreDistinct.of_mem {members : List (String × Setting)} (distinct : AreDistinct members)
    (found : members.lookup key = some setting) : setting.IsDistinct := by
  induction members with
  | nil => cases found
  | cons member rest ih =>
    obtain ⟨-, here, later⟩ := distinct
    rw [List.lookup_cons] at found
    split at found
    · cases found
      exact here
    · exact ih later found

/-- A member of both is laid over the one below; every other member stays as it is. -/
theorem member?_membersLaidOver {members : List (String × Setting)}
    (distinct : AreDistinct members) (under : Setting) (key : String) :
    (under.membersLaidOver members).member? key =
      match members.lookup key with
      | some setting => some (((under.member? key).getD null).laidOver setting)
      | none => under.member? key := by
  induction members generalizing under with
  | nil => rw [membersLaidOver, List.lookup_nil]
  | cons member rest ih =>
    obtain ⟨name, setting⟩ := member
    obtain ⟨fresh, -, later⟩ := distinct
    rw [membersLaidOver, ih later, List.lookup_cons]
    by_cases same : key = name
    · have absent : rest.lookup name = none := by
        rw [List.lookup_eq_none_iff]
        intro entry inside
        have apart : name ≠ entry.1 := fun taken => fresh (taken ▸ List.mem_map_of_mem inside)
        simpa using apart
      simp only [same, absent, beq_self_eq_true, member?_changeAt_self]
    · have differs : (key == name) = false := by simpa using same
      simp only [differs, member?_changeAt_of_ne _ same]

/-- Names along which a setting sets nothing. -/
def IsSilent : Setting → List String → Prop
  | .table members _, key :: rest =>
    match members.lookup key with
    | some inner => inner.IsSilent rest
    | none => True
  | _, _ => False

/-- What is laid over another setting counts wherever it sets something that is no table, and where
it sets nothing the other one does. -/
theorem at?_laidOver (distinct : upper.IsDistinct) (under : Setting) (names : List String) :
    (∀ leaf, upper.at? names = some leaf → leaf.isTable = false →
      (under.laidOver upper).at? names = some leaf) ∧
    (upper.IsSilent names → (under.laidOver upper).at? names = under.at? names) := by
  induction names generalizing upper under with
  | nil =>
    constructor
    · intro leaf found noTable
      obtain rfl : upper = leaf := Option.some.inj found
      cases upper with
      | table members origin => cases noTable
      | scalar value origin => rfl
      | list items origin => rfl
    · intro silent
      cases upper <;> exact silent.elim
  | cons key rest ih =>
    cases upper with
    | scalar value origin => exact ⟨fun leaf found => (by cases found), False.elim⟩
    | list items origin => exact ⟨fun leaf found => (by cases found), False.elim⟩
    | table members origin =>
      have laid := member?_membersLaidOver distinct under.asTable key
      rw [member?_asTable] at laid
      cases set : members.lookup key with
      | none =>
        rw [set] at laid
        have nothing : (table members origin).at? (key :: rest) = none := by
          rw [at?, member?, set, Option.bind_none]
        refine ⟨fun leaf found => ?_, fun _ => ?_⟩
        · rw [nothing] at found
          cases found
        · rw [laidOver, at?, laid, at?]
      | some inner =>
        rw [set] at laid
        have leads : (table members origin).at? (key :: rest) = inner.at? rest := by
          rw [at?, member?, set, Option.bind_some]
        obtain ⟨wins, stays⟩ := ih (distinct.of_mem set) ((under.member? key).getD null)
        refine ⟨fun leaf found noTable => ?_, fun silent => ?_⟩
        · rw [leads] at found
          rw [laidOver, at?_cons_of_some laid, wins leaf found noTable]
        · rw [IsSilent, set] at silent
          rw [laidOver, at?_cons_of_some laid, stays silent]
          cases below : under.member? key with
          | some inner => rw [at?_cons_of_some below, Option.getD_some]
          | none =>
            rw [at?_cons_of_none below, Option.getD_none]
            cases rest with
            | nil => cases inner <;> exact silent.elim
            | cons next rest => exact at?_cons_of_none rfl rest

/-- The same for members that are laid over a table one after the other. -/
theorem at?_membersLaidOver {members : List (String × Setting)} (under : Setting) (key : String)
    (rest : List String) (distinct : AreDistinct members) (origin : Option String) :
    (under.membersLaidOver members).at? (key :: rest) =
      (under.laidOver (.table members origin)).at? (key :: rest) := by
  rw [laidOver, at?, at?, member?_membersLaidOver distinct, member?_membersLaidOver distinct,
    member?_asTable]

/-! ## Settings of files -/

theorem mem_names_changeMember {change : Setting → Setting} {members : List (String × Setting)} :
    other ∈ (changeMember key change members).map Prod.fst ↔
      other = key ∨ other ∈ members.map Prod.fst := by
  induction members with
  | nil => simp [changeMember]
  | cons member rest ih =>
    unfold changeMember
    split
    · next same => simp [same]
    · rw [List.map_cons, List.mem_cons, ih, List.map_cons, List.mem_cons]
      exact or_left_comm

theorem AreDistinct.changeMember {members : List (String × Setting)}
    (distinct : AreDistinct members) (inner : setting.IsDistinct) :
    AreDistinct (changeMember key (fun _ => setting) members) := by
  induction members with
  | nil => exact ⟨List.not_mem_nil, inner, trivial⟩
  | cons member rest ih =>
    obtain ⟨fresh, here, later⟩ := distinct
    unfold Setting.changeMember
    split
    · exact ⟨fresh, inner, later⟩
    · next differs =>
      refine ⟨fun taken => ?_, here, ih later⟩
      rcases mem_names_changeMember.mp taken with same | old
      · exact differs same
      · exact fresh old

mutual

/-- A table that is read from a file has one member of a name. -/
theorem isDistinct_of_ofNode {origin : String} :
    ∀ (node : Yaml.Node) (setting : Setting), ofNode origin node = .ok setting →
      setting.IsDistinct
  | .table entries, setting, made => by
    rw [ofNode] at made
    cases members : ofEntries origin [] entries with
    | error fault =>
      rw [members] at made
      cases made
    | ok found =>
      rw [members] at made
      cases made
      exact areDistinct_of_ofEntries entries [] found trivial members
  | .list items, setting, made => by
    rw [ofNode] at made
    cases items : ofItems origin items with
    | error fault =>
      rw [items] at made
      cases made
    | ok found =>
      rw [items] at made
      cases made
      trivial
  | .real written, setting, made => by
    rw [ofNode] at made
    split at made
    · cases made
      trivial
    · cases made
  | .text _, setting, made => by cases made; trivial
  | .integer _, setting, made => by cases made; trivial
  | .boolean _, setting, made => by cases made; trivial
  | .null, setting, made => by cases made; trivial
  | .invalid, setting, made => by cases made; trivial

theorem areDistinct_of_ofEntries {origin : String} :
    ∀ (entries : List (Yaml.Node × Yaml.Node)) (members result : List (String × Setting)),
      AreDistinct members → ofEntries origin members entries = .ok result → AreDistinct result
  | [], members, result, distinct, made => by
    cases made
    exact distinct
  | (key, value) :: rest, members, result, distinct, made => by
    rw [ofEntries] at made
    cases named : nameOf key with
    | error fault =>
      rw [named] at made
      cases made
    | ok name =>
      cases inner : ofNode origin value with
      | error fault =>
        rw [named, inner] at made
        cases made
      | ok setting =>
        rw [named, inner] at made
        exact areDistinct_of_ofEntries rest _ result
          (distinct.changeMember (isDistinct_of_ofNode value setting inner)) made

end

theorem areDistinct_of_membersOfFile {origin text : String} {members : List (String × Setting)}
    (made : membersOfFile origin text = .ok members) : AreDistinct members := by
  unfold membersOfFile at made
  cases documents : (Yaml.documents text).mapError FileFault.malformed with
  | error fault =>
    rw [documents] at made
    cases made
  | ok found =>
    rw [documents] at made
    cases found with
    | nil =>
      cases made
      trivial
    | cons node others =>
      cases others with
      | cons other others => cases made
      | nil =>
        cases isNode : ofNode origin node with
        | error fault =>
          simp only [bind, Except.bind, isNode] at made
          cases made
        | ok setting =>
          simp only [bind, Except.bind, isNode] at made
          have distinct := isDistinct_of_ofNode node setting isNode
          cases setting with
          | table members origin =>
            cases made
            exact distinct
          | scalar value origin => cases made
          | list items origin => cases made

/-! ## Entries under paths -/

section

variable {entries : List (String × Setting)}

/-- A name of the characters of keys stands for itself. -/
theorem stepsOf_of_isKeyChar (some : key ≠ "") (plain : ∀ c ∈ key.toList, isKeyChar c = true) :
    stepsOf key = [.name key] := by
  have whole : key.toList.takeWhile isKeyChar = key.toList := List.takeWhile_eq_self_iff.mpr plain
  have nothing : key.toList.dropWhile isKeyChar = [] := List.dropWhile_eq_nil_iff.mpr plain
  have filled : key.toList ≠ [] := fun empty => some (String.toList_eq_nil_iff.mp empty)
  have noPoint : '.' ∉ key.toList := fun inside => absurd (plain '.' inside) (by decide)
  have steps : stepsOf? key.toList = Option.some [.name key] := by
    simp only [stepsOf?, whole, nothing, List.isEmpty_eq_false_iff.mpr filled,
      String.ofList_toList, Bool.false_eq_true, if_false]
    rfl
  rw [stepsOf, List.splitOn_eq_singleton noPoint, List.mapM_cons, steps]
  rfl

/-- The keys of a table stand for themselves. -/
def ArePlain (entries : List (String × Setting)) : Prop :=
  ∀ entry ∈ entries, stepsOf entry.1 = [.name entry.1]

/-- A key that leads elsewhere than names do. -/
def Misses (names : List String) (key : String) : Prop :=
  ∃ others, stepsOf key = others.map .name ∧ Part others names

theorem layAll_append (settings : Setting) (first second : List (String × Setting)) :
    settings.layAll (first ++ second) = (settings.layAll first).layAll second :=
  List.foldl_append

theorem layAll_cons (settings : Setting) (entry : String × Setting) :
    settings.layAll (entry :: entries) =
      (changePath (stepsOf entry.1) (fun under => under.laidOver entry.2) settings).layAll entries :=
  rfl

theorem layAll_of_arePlain (plain : ArePlain entries) (settings : Setting) :
    settings.layAll entries = settings.membersLaidOver entries := by
  induction entries generalizing settings with
  | nil => rw [membersLaidOver]; rfl
  | cons entry entries ih =>
    rw [layAll_cons, plain entry List.mem_cons_self, membersLaidOver]
    exact ih (fun other inside => plain other (List.mem_cons_of_mem entry inside)) _

/-- What all entries miss they leave as it is. -/
theorem at?_layAll_of_misses (misses : ∀ entry ∈ entries, Misses names entry.1)
    (settings : Setting) : (settings.layAll entries).at? names = settings.at? names := by
  induction entries generalizing settings with
  | nil => rfl
  | cons entry entries ih =>
    obtain ⟨others, steps, parted⟩ := misses entry List.mem_cons_self
    rw [layAll_cons, ih fun other inside => misses other (List.mem_cons_of_mem entry inside),
      steps, at?_changePath_of_part _ parted]

/-- The last of the entries that names lead to counts, if it is no table. -/
theorem at?_layAll_append_cons {before after : List (String × Setting)}
    (steps : stepsOf key = names.map .name) (noTable : leaf.isTable = false)
    (misses : ∀ entry ∈ after, Misses names entry.1) (settings : Setting) :
    (settings.layAll (before ++ (key, leaf) :: after)).at? names = some leaf := by
  rw [layAll_append, layAll_cons, at?_layAll_of_misses misses, steps, at?_changePath]
  cases leaf with
  | table members origin => cases noTable
  | scalar value origin => rfl
  | list items origin => rfl

end

end Setting

/-! ## The sources of a program -/

namespace Sources

open Setting

variable {sources : Sources} {mark : String} {settings : Setting}

/-- The settings of the variables whose names begin with a mark. -/
def named (sources : Sources) (mark : String) : List (String × Setting) :=
  sources.environment.filterMap (ofVariable? mark)

theorem isTable_of_mem_named {entry : String × Setting}
    (inside : entry ∈ sources.named mark) : entry.2.isTable = false := by
  obtain ⟨named, -, made⟩ := List.mem_filterMap.mp inside
  simp only [ofVariable?, Option.ite_none_right_eq_some, Option.some.injEq] at made
  rw [← made.2]
  rfl

theorem areDistinct_of_file? {name : String} {members : List (String × Setting)}
    (found : sources.file? name = .ok (some members)) : AreDistinct members := by
  unfold file? at found
  split at found
  · next place content _ =>
    cases read : membersOfFile (inside "configuration" place) (fileText content) with
    | error fault =>
      simp only [read] at found
      cases found
    | ok members =>
      simp only [read] at found
      cases found
      exact areDistinct_of_membersOfFile read
  · cases found

/-- What a program finds: the members of the file for all deployments and those of the file for its
own one, which are none if there is no such file. -/
structure Finds (sources : Sources) (base more : List (String × Setting)) : Prop where
  base : sources.file? "base.yaml" = .ok (some base)
  more : ∃ deployment found,
    Deployment.read ((sources.environment.lookup "APP_ENVIRONMENT").getD "local") =
        .ok deployment ∧
      sources.file? (deployment.name ++ ".yaml") = .ok found ∧ more = found.getD []

theorem Finds.areDistinct_more {base more : List (String × Setting)}
    (finds : sources.Finds base more) : AreDistinct more := by
  obtain ⟨deployment, found, -, file, rfl⟩ := finds.more
  cases found with
  | none => trivial
  | some members => exact areDistinct_of_file? file

/-- Settings are gathered by laying one source over the other. -/
theorem exists_finds (gathered : sources.gather mark = .ok settings) :
    ∃ base more, sources.Finds base more ∧
      settings = (((table [] none).layAll base).layAll more).layAll (sources.named mark) := by
  unfold gather at gathered
  cases read : Deployment.read ((sources.environment.lookup "APP_ENVIRONMENT").getD "local") with
  | error fault =>
    simp only [read, bind, Except.bind, Except.mapError] at gathered
    cases gathered
  | ok deployment =>
    simp only [read, bind, Except.bind, Except.mapError] at gathered
    cases first : sources.file? "base.yaml" with
    | error fault =>
      simp only [first] at gathered
      cases gathered
    | ok found =>
      cases found with
      | none =>
        simp only [first] at gathered
        cases gathered
      | some base =>
        simp only [first, pure, Except.pure] at gathered
        cases second : sources.file? (deployment.name ++ ".yaml") with
        | error fault =>
          simp only [second] at gathered
          cases gathered
        | ok found =>
          simp only [second] at gathered
          cases gathered
          refine ⟨base, found.getD [], ⟨first, deployment, found, read, second, rfl⟩, ?_⟩
          rw [layAll_append, layAll_append]
          rfl

/-- Where a variable leads, its text counts, whatever the files hold, if no later variable leads
there.  Where no variable leads, the file for the deployment counts, and the file for all deployments
where that one sets nothing. -/
theorem at?_of_gather (gathered : sources.gather mark = .ok settings) :
    ∃ base more, sources.Finds base more ∧
      (∀ before key value after names, sources.named mark = before ++ (key, value) :: after →
        stepsOf key = names.map .name → (∀ entry ∈ after, Misses names entry.1) →
          settings.at? names = some value) ∧
      ∀ names, (∀ entry ∈ sources.named mark, Misses names entry.1) →
        ArePlain base → ArePlain more →
          (∀ leaf, (table more none).at? names = some leaf → leaf.isTable = false →
            settings.at? names = some leaf) ∧
          ((table more none).IsSilent names →
            ∀ leaf, (table base none).at? names = some leaf → leaf.isTable = false →
              settings.at? names = some leaf) := by
  obtain ⟨base, more, finds, rfl⟩ := exists_finds gathered
  refine ⟨base, more, finds, ?_, ?_⟩
  · intro before key value after names all steps misses
    have inside : (key, value) ∈ sources.named mark :=
      all ▸ List.mem_append_right before List.mem_cons_self
    rw [all]
    exact at?_layAll_append_cons steps (isTable_of_mem_named inside) misses _
  · intro names misses plainBase plainMore
    rw [at?_layAll_of_misses misses, layAll_of_arePlain plainMore, layAll_of_arePlain plainBase]
    cases names with
    | nil =>
      refine ⟨fun leaf found noTable => ?_, fun silent => silent.elim⟩
      cases found
      cases noTable
    | cons key rest =>
      have distinctMore : (table more none).IsDistinct := finds.areDistinct_more
      have distinctBase : (table base none).IsDistinct := areDistinct_of_file? finds.base
      rw [at?_membersLaidOver _ _ _ distinctMore none]
      obtain ⟨wins, stays⟩ := at?_laidOver distinctMore
        ((table [] none).membersLaidOver base) (key :: rest)
      refine ⟨wins, fun silent leaf found noTable => ?_⟩
      rw [stays silent, at?_membersLaidOver _ _ _ distinctBase none]
      exact (at?_laidOver distinctBase (table [] none) (key :: rest)).1 leaf found noTable

end Sources

end FrameCourier
