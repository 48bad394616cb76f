import AccessPolicy.Disk.Basic
import AccessPolicy.Proofs.Lookup

/-!
What opening a file and writing to it leave as they were.

Opening a file only adds to a disk: all other files keep their bytes, and a path that leads
somewhere still leads there. Writing to a file that is open moves no path at all.
-/

namespace AccessPolicy.Disk

variable {disk opened other : Disk} {location asked : Location} {path : Path}

/-- All folders of a disk are on another, where relative paths start at the same place. -/
structure Within (disk other : Disk) : Prop where
  start : other.start = disk.start
  folders : ∀ location, disk.hasFolder location = true → other.hasFolder location = true

/-- A disk is within itself. -/
theorem Within.refl (disk : Disk) : disk.Within disk := ⟨rfl, fun _ stands => stands⟩

/-- What is within a disk is within all that the disk is within. -/
theorem Within.trans (first : disk.Within opened) (second : opened.Within other) :
    disk.Within other where
  start := second.start.trans first.start
  folders location stands := second.folders location (first.folders location stands)

/-- A step from a folder leads to the same place wherever there are more folders. -/
theorem Within.step (within : disk.Within other) {name : String}
    (leads : disk.step location name = some asked) : other.step location name = some asked := by
  unfold Disk.step at leads ⊢
  split at leads
  · cases leads
  · rename_i folder
    have stands : other.hasFolder location = true := within.folders location (by simpa using folder)
    simpa [stands] using leads

/-- Names that lead somewhere lead there wherever there are more folders. -/
theorem Within.foldlM_step (within : disk.Within other) {names : List String}
    (leads : names.foldlM disk.step location = some asked) :
    names.foldlM other.step location = some asked := by
  induction names generalizing location with
  | nil => exact leads
  | cons name later ih =>
    rw [List.foldlM_cons] at leads ⊢
    obtain ⟨next, stepped, behind⟩ := Option.bind_eq_some_iff.mp leads
    have same := within.step stepped
    exact Option.bind_eq_some_iff.mpr ⟨next, same, ih behind⟩

/-- A path that leads somewhere leads there wherever there are more folders. -/
theorem Within.locate? (within : disk.Within other) (leads : disk.locate? path = some location) :
    other.locate? path = some location := by
  unfold Disk.locate? at leads ⊢
  rw [within.start]
  exact within.foldlM_step leads

/-- Paths lead to the same places on disks with the same folders. -/
theorem locate?_eq_of_within (within : disk.Within other) (back : other.Within disk) (path : Path) :
    other.locate? path = disk.locate? path := by
  cases found : disk.locate? path with
  | some location => exact within.locate? found
  | none =>
    cases moved : other.locate? path with
    | none => rfl
    | some location =>
      -- What the path led to on the other disk, it would lead to on this one.
      have stays := back.locate? moved
      rw [found] at stays
      cases stays

/-- Putting bytes behind those of a file is such an update of the files. -/
theorem appends_appendIn (location : Location) (bytes : List UInt8) :
    Appends location bytes (appendIn location bytes) :=
  ⟨rfl, fun _ _ _ => rfl⟩

/-- A folder stands above the start, above or at another folder, or above a file. -/
theorem hasFolder_iff :
    disk.hasFolder location = true ↔ location <+: disk.start ∨
      (∃ folder ∈ disk.folders, location <+: folder) ∨
        ∃ file ∈ disk.files.map Prod.fst, location <+: file ∧ location ≠ file := by
  simp [hasFolder, or_assoc]

/-- Writing to a file takes no folder away. -/
theorem within_append (disk : Disk) (location : Location) (bytes : List UInt8) :
    disk.Within (disk.append location bytes) where
  start := rfl
  folders folder stands := by
    rw [hasFolder_iff] at stands ⊢
    rcases stands with above | above | ⟨file, inside, above⟩
    · exact Or.inl above
    · exact Or.inr (Or.inl above)
    · have kept := (appends_appendIn location bytes).mem_keys.mpr (Or.inr inside)
      exact Or.inr (Or.inr ⟨file, kept, above⟩)

/-- Writing to a file that is there adds no folder. -/
theorem append_within {bytes : List UInt8} (present : (disk.content? location).isSome = true) :
    (disk.append location bytes).Within disk where
  start := rfl
  folders folder stands := by
    have listed : location ∈ disk.files.map Prod.fst := by
      by_contra absent
      rw [content?, lookup_eq_none_iff_not_mem.mpr absent] at present
      cases present
    rw [hasFolder_iff] at stands ⊢
    rcases stands with above | above | ⟨file, inside, above⟩
    · exact Or.inl above
    · exact Or.inr (Or.inl above)
    · rcases (appends_appendIn location bytes).mem_keys.mp inside with rfl | inside
      · exact Or.inr (Or.inr ⟨file, listed, above⟩)
      · exact Or.inr (Or.inr ⟨file, inside, above⟩)

/-- The file that is written to has the new bytes behind the old ones, and no other file changes. -/
theorem content?_append (disk : Disk) (location asked : Location) (bytes : List UInt8) :
    (disk.append location bytes).content? asked =
      if asked = location then some ((disk.content? location).getD [] ++ bytes)
      else disk.content? asked :=
  (appends_appendIn location bytes).lookup asked disk.files

/-- Bytes that are written in two steps stand one behind the other. -/
theorem append_append (disk : Disk) (location : Location) (bytes more : List UInt8) :
    (disk.append location bytes).append location more = disk.append location (bytes ++ more) := by
  have joined (files : List (Location × List UInt8)) :
      appendIn location more (appendIn location bytes files) =
        appendIn location (bytes ++ more) files := by
    induction files with
    | nil => simp [appendIn]
    | cons first later ih =>
      obtain ⟨other, old⟩ := first
      by_cases found : other = location
      · simp [appendIn, found]
      · simp [appendIn, found, ih]
  simp only [append, joined]

/-- Writing to a file that is there changes nothing that a path to another place leads to. -/
theorem bytes?_append {bytes : List UInt8} (present : (disk.content? location).isSome = true)
    (apart : disk.locate? path ≠ some location) :
    (disk.append location bytes).bytes? path = disk.bytes? path := by
  have moved := locate?_eq_of_within (disk.within_append location bytes) (append_within present)
  rw [bytes?, bytes?, moved path]
  cases found : disk.locate? path with
  | none => rfl
  | some place =>
    have elsewhere : place ≠ location := fun same => apart (same ▸ found)
    simp [content?_append, elsewhere]

/-- Entering a folder takes nothing away and changes no file. -/
theorem within_of_enter? {place next : Disk × Location} {name : String}
    (entered : enter? place name = some next) :
    place.1.Within next.1 ∧ next.1.files = place.1.files := by
  unfold enter? at entered
  split at entered
  · cases entered
  · split at entered
    · cases entered
      exact ⟨Within.refl _, rfl⟩
    · split at entered
      · cases entered
      · cases entered
        refine ⟨⟨rfl, fun folder stands => ?_⟩, rfl⟩
        rw [hasFolder_iff] at stands ⊢
        rcases stands with above | ⟨old, inside, above⟩ | above
        · exact Or.inl above
        · exact Or.inr (Or.inl ⟨old, List.mem_append_left _ inside, above⟩)
        · exact Or.inr (Or.inr above)

/-- Creating the folders on a path takes nothing away and changes no file. -/
theorem within_of_createFolders? {made : Disk × Location}
    (created : disk.createFolders? path = some made) :
    disk.Within made.1 ∧ made.1.files = disk.files := by
  have kept : ∀ (names : List String) (place : Disk × Location),
      names.foldlM enter? place = some made →
        place.1.Within made.1 ∧ made.1.files = place.1.files := by
    intro names
    induction names with
    | nil =>
      intro place same
      cases same
      exact ⟨Within.refl _, rfl⟩
    | cons name later ih =>
      intro place run
      rw [List.foldlM_cons] at run
      obtain ⟨next, entered, behind⟩ := Option.bind_eq_some_iff.mp run
      obtain ⟨within, files⟩ := within_of_enter? entered
      obtain ⟨further, sameFiles⟩ := ih next behind
      exact ⟨within.trans further, sameFiles.trans files⟩
  exact kept path.names _ created

/-- A file is open: it is there, nothing was taken away for it, and no other file changed. -/
structure Opens (disk opened : Disk) (location : Location) : Prop where
  within : disk.Within opened
  present : (opened.content? location).isSome = true
  others : ∀ asked, asked ≠ location → opened.content? asked = disk.content? asked

/-- Creating a file opens it. -/
theorem opens_of_createFile? (created : disk.createFile? path = some (opened, location)) :
    disk.Opens opened location := by
  unfold createFile? at created
  split at created
  · cases created
  · rename_i made folder folders
    obtain ⟨within, files⟩ := within_of_createFolders? folders
    split at created
    · cases created
    · split at created
      · cases created
      · cases created
        refine ⟨within.trans (within_append made location []), ?_, fun asked elsewhere => ?_⟩
        · simp [content?_append]
        · rw [content?_append, if_neg elsewhere, content?, files, content?]

/-- A file that is opened keeps what was in it, and a new one is empty. -/
theorem content?_of_createFile? (created : disk.createFile? path = some (opened, location)) :
    opened.content? location = some ((disk.content? location).getD []) := by
  unfold createFile? at created
  split at created
  · cases created
  · rename_i made folder folders
    obtain ⟨-, files⟩ := within_of_createFolders? folders
    split at created
    · cases created
    · split at created
      · cases created
      · cases created
        rw [content?_append, if_pos rfl, List.append_nil, content?, files, content?]

/--
Opening a file changes nothing that a path to another place leads to.

A path that led nowhere must not lead somewhere through the folders that were created.
-/
theorem Opens.bytes? (opens : disk.Opens opened location)
    (apart : opened.locate? path ≠ some location)
    (kept : disk.locate? path = none → opened.locate? path = none) :
    opened.bytes? path = disk.bytes? path := by
  rw [Disk.bytes?, Disk.bytes?]
  cases found : disk.locate? path with
  | none => rw [kept found]; rfl
  | some place =>
    have stays := opens.within.locate? found
    have elsewhere : place ≠ location := fun same => apart (same ▸ stays)
    rw [stays]
    exact opens.others place elsewhere

end AccessPolicy.Disk
