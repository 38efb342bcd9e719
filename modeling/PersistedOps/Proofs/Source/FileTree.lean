import PersistedOps.Source.FileTree

/-!
Writing to trees of files. A file that has been written is found where it was written, and nothing else
is lost: directories stay directories, and all other files stay as they are.
-/

namespace PersistedOps.FileTree

/-- Where a name leads from a place. -/
def follow (location : List String) (name : String) : List String :=
  if name = ".." then location.dropLast else location ++ [name]

/-- The place that a path names, taken name by name. -/
def place (directory : List String) (path : String) : List String :=
  (stepNames path).foldl follow (origin directory path)

/-- All places that names lead through, the last one left out, are directories. -/
def Opens (t : FileTree) (location : List String) : List String → Prop
  | [] => True
  | name :: rest => t.entry location = .directory ∧ Opens t (follow location name) rest

/-- What is a directory in one tree is one in the other. -/
def KeepsDirectories (t t' : FileTree) : Prop :=
  ∀ location, t.entry location = .directory → t'.entry location = .directory

theorem KeepsDirectories.trans {t t' t'' : FileTree} (h : KeepsDirectories t t')
    (h' : KeepsDirectories t' t'') : KeepsDirectories t t'' :=
  fun location hlocation => h' location (h location hlocation)

theorem Opens.keep {t t' : FileTree} (hkeeps : KeepsDirectories t t') {location names : List String}
    (h : t.Opens location names) : t'.Opens location names := by
  induction names generalizing location with
  | nil => trivial
  | cons name rest ih => exact ⟨hkeeps location h.1, ih h.2⟩

theorem opens_append {t : FileTree} {location names : List String} {name : String} :
    t.Opens location (names ++ [name]) ↔
      t.Opens location names ∧ t.entry (names.foldl follow location) = .directory := by
  induction names generalizing location with
  | nil => simp [Opens]
  | cons first rest ih => simp [Opens, ih, and_assoc]

theorem entry_eq_directory_iff {t : FileTree} {location : List String} :
    t.entry location = .directory ↔ t.file? location = none ∧ t.isDirectory location = true := by
  rw [entry]
  cases t.file? location with
  | some content => simp
  | none => cases t.isDirectory location <;> simp

theorem entry_eq_file_iff {t : FileTree} {location : List String} {content : ByteArray} :
    t.entry location = .file content ↔ t.file? location = some content := by
  rw [entry]
  cases t.file? location with
  | some content => simp
  | none => cases t.isDirectory location <;> simp

theorem walk_eq_file_iff {t : FileTree} {location names : List String} {content : ByteArray} :
    (t.walk location names).1 = .file content ↔
      t.Opens location names ∧ t.file? (names.foldl follow location) = some content := by
  induction names generalizing location with
  | nil =>
      rw [← entry_eq_file_iff]
      exact ⟨fun h => ⟨trivial, h⟩, And.right⟩
  | cons name rest ih =>
      rw [walk, Opens, List.foldl_cons]
      split
      · next hentry =>
        rw [and_iff_right hentry]
        exact ih
      · next hentry => simp [hentry]
      · next hdirectory _ =>
        constructor
        · intro h
          cases h
        · intro h
          exact (hdirectory h.1.1).elim

/-- A path leads to a file through directories alone. -/
theorem find_eq_file_iff {t : FileTree} {directory : List String} {path : String}
    {content : ByteArray} :
    t.find directory path = .file content ↔
      t.Opens (origin directory path) (stepNames path) ∧
        t.file? (place directory path) = some content :=
  walk_eq_file_iff

/-- A file is still found while directories stay and its content does. -/
theorem find_keep {t t' : FileTree} {directory : List String} {path : String} {content : ByteArray}
    (hkeeps : KeepsDirectories t t')
    (hfile : t'.file? (place directory path) = t.file? (place directory path))
    (h : t.find directory path = .file content) : t'.find directory path = .file content := by
  obtain ⟨hopens, hcontent⟩ := find_eq_file_iff.mp h
  exact find_eq_file_iff.mpr ⟨hopens.keep hkeeps, hfile.trans hcontent⟩

/-! Directories -/

theorem ensureDirectory_eq_some {t t' : FileTree} {location : List String}
    (h : t.ensureDirectory location = some t') :
    t'.entry location = .directory ∧ KeepsDirectories t t' ∧ t'.files = t.files := by
  rw [ensureDirectory] at h
  split at h
  · next hentry =>
    cases h
    exact ⟨hentry, fun _ => id, rfl⟩
  · next hentry =>
    cases h
    refine ⟨?_, fun l hl => ?_, rfl⟩
    · have hfile : t.file? location = none := by
        rw [entry] at hentry
        cases hfile : t.file? location with
        | none => rfl
        | some content =>
            rw [hfile] at hentry
            cases hentry
      refine entry_eq_directory_iff.mpr ⟨hfile, ?_⟩
      simp [isDirectory]
    · obtain ⟨hfile, hdirectory⟩ := entry_eq_directory_iff.mp hl
      refine entry_eq_directory_iff.mpr ⟨hfile, ?_⟩
      simp only [isDirectory, List.any_cons, Bool.or_eq_true] at hdirectory ⊢
      rcases hdirectory with (hempty | hlisted) | hfiles
      · exact .inl (.inl hempty)
      · exact .inl (.inr (.inr hlisted))
      · exact .inr hfiles
  · cases h

theorem makeDirectories_eq_some {t t' : FileTree} {location last names : List String}
    (h : t.makeDirectories location names = some (t', last)) :
    last = names.foldl follow location ∧ t'.Opens location names ∧ t'.entry last = .directory ∧
      KeepsDirectories t t' ∧ t'.files = t.files := by
  induction names generalizing t location with
  | nil =>
      obtain ⟨made, hmade, heq⟩ := Option.map_eq_some_iff.mp h
      cases heq
      obtain ⟨hentry, hkeeps, hfiles⟩ := ensureDirectory_eq_some hmade
      exact ⟨rfl, trivial, hentry, hkeeps, hfiles⟩
  | cons name rest ih =>
      obtain ⟨made, hmade, hrest⟩ := Option.bind_eq_some_iff.mp h
      obtain ⟨hentry, hkeeps, hfiles⟩ := ensureDirectory_eq_some hmade
      obtain ⟨hlast, hopens, hend, hkeeps', hfiles'⟩ := ih hrest
      exact ⟨hlast, ⟨hkeeps' location hentry, hopens⟩, hend, hkeeps.trans hkeeps',
        hfiles'.trans hfiles⟩

/-! Files -/

theorem file?_put (t : FileTree) (location l : List String) (content : ByteArray) :
    (t.put location content).file? l = if l = location then some content else t.file? l := by
  rw [file?, put, List.lookup_cons]
  by_cases hl : l = location
  · rw [if_pos hl, beq_iff_eq.mpr hl]
  · rw [if_neg hl, beq_eq_false_iff_ne.mpr hl]
    simp only [file?]
    induction t.files with
    | nil => rfl
    | cons f files ih =>
        obtain ⟨k, b⟩ := f
        by_cases hk : k = location
        · have hother : (l == k) = false := beq_eq_false_iff_ne.mpr fun he => hl (he.trans hk)
          simp only [List.filter_cons, ne_eq, hk, not_true_eq_false, decide_false,
            Bool.false_eq_true, if_false, List.lookup_cons, beq_eq_false_iff_ne.mpr hl, ih]
        · simp only [List.filter_cons, ne_eq, hk, not_false_eq_true, decide_true, if_true,
            List.lookup_cons, ih]

theorem keepsDirectories_put {t : FileTree} {location : List String} (content : ByteArray)
    (h : t.entry location ≠ .directory) : KeepsDirectories t (t.put location content) := by
  intro l hl
  have hother : l ≠ location := by
    rintro rfl
    exact h hl
  obtain ⟨hfile, hdirectory⟩ := entry_eq_directory_iff.mp hl
  refine entry_eq_directory_iff.mpr ⟨?_, ?_⟩
  · rw [file?_put, if_neg hother]
    exact hfile
  · simp only [isDirectory, Bool.or_eq_true] at hdirectory ⊢
    refine hdirectory.imp_right fun hfiles => ?_
    obtain ⟨f, hf, habove⟩ := List.any_eq_true.mp hfiles
    by_cases heq : f.1 = location
    · -- The directory was above the file that is now replaced, and it is above the new one.
      refine List.any_eq_true.mpr ⟨(location, content), List.mem_cons_self, ?_⟩
      rw [heq] at habove
      exact habove
    · refine List.any_eq_true.mpr ⟨f, List.mem_cons_of_mem _ ?_, habove⟩
      exact List.mem_filter.mpr ⟨hf, by simpa using heq⟩

/-- What writing a file does. -/
theorem write_eq_some {t t' : FileTree} {directory : List String} {path : String}
    {content : ByteArray} (h : t.write directory path content = some t') :
    t'.find directory path = .file content ∧ KeepsDirectories t t' ∧
      ∀ l, l ≠ place directory path → t'.file? l = t.file? l := by
  obtain ⟨⟨made, parent⟩, hmade, h⟩ := Option.bind_eq_some_iff.mp h
  obtain ⟨name, hname, h⟩ := Option.bind_eq_some_iff.mp h
  obtain ⟨hparent, hopens, hdirectory, hkeeps, hfiles⟩ := makeDirectories_eq_some hmade
  have hnames : stepNames path = (stepNames path).dropLast ++ [name] := by
    obtain ⟨front, hfront⟩ := List.getLast?_eq_some_iff.mp hname
    rw [hfront, List.dropLast_concat]
  by_cases hdots : name = ".."
  · simp [hdots] at h
  · have hplace : place directory path = parent ++ [name] := by
      rw [place, hnames, List.foldl_append, hparent]
      exact if_neg hdots
    have hput : made.entry (parent ++ [name]) ≠ .directory ∧
        t' = made.put (parent ++ [name]) content := by
      simp only [hdots, if_false, Option.bind_eq_bind] at h
      split at h
      · cases h
      · cases h
      · next hentry _ => exact ⟨hentry, (Option.some.inj h).symm⟩
    obtain ⟨hfree, rfl⟩ := hput
    have hkeeps' := keepsDirectories_put content hfree
    refine ⟨find_eq_file_iff.mpr ⟨?_, ?_⟩, hkeeps.trans hkeeps', fun l hl => ?_⟩
    · rw [hnames]
      exact opens_append.mpr ⟨hopens.keep hkeeps', hparent ▸ hkeeps' parent hdirectory⟩
    · rw [hplace, file?_put, if_pos rfl]
    · rw [file?_put, if_neg (hplace ▸ hl), file?, hfiles, file?]

end PersistedOps.FileTree
