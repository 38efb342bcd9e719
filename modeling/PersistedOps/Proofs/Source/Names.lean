import PersistedOps.Proofs.Results
import PersistedOps.Source.Directory

/-!
The names of paths. The places that relative paths are taken between hold proper names only, and a path
made of proper names leads through exactly these, from whatever it is joined to.
-/

namespace PersistedOps

namespace Text

theorem pieces_eq_splitOn (separator : Char) (cs : List Char) :
    pieces separator cs = cs.splitOn separator := by
  induction cs with
  | nil => rfl
  | cons c cs ih =>
      rw [pieces, ih, List.splitOn_eq_splitOnP, List.splitOn_eq_splitOnP,
        List.splitOnP_cons_eq_if_modifyHead]
      by_cases hc : c = separator
      · rw [if_pos hc, if_pos (beq_iff_eq.mpr hc)]
      · rw [if_neg hc, if_neg (by simpa using hc)]
        split
        · next h => exact absurd h (List.splitOnP_ne_nil _ _)
        · next h =>
          rw [h]
          rfl

end Text

namespace Path

/-- A name that leads one step down. -/
structure Proper (name : String) : Prop where
  ne_empty : name ≠ ""
  ne_dot : name ≠ "."
  ne_dots : name ≠ ".."
  unslashed : '/' ∉ name.toList

theorem components_append (front back : String) :
    components (front ++ "/" ++ back) = components front ++ components back := by
  have hsplit : (front.toList ++ '/' :: back.toList).splitOn '/' =
      front.toList.splitOn '/' ++ back.toList.splitOn '/' :=
    List.splitOnP_append_cons _ _ (beq_self_eq_true '/')
  simp [components, Text.pieces_eq_splitOn, hsplit]

theorem components_ofComponents {names : List String} (hne : names ≠ [])
    (h : ∀ name ∈ names, '/' ∉ name.toList) : components (ofComponents names) = names := by
  have hslashes : ∀ cs ∈ names.map String.toList, '/' ∉ cs := by
    intro cs hcs
    obtain ⟨name, hname, rfl⟩ := List.mem_map.mp hcs
    exact h name hname
  have hsplit := List.splitOn_intercalate '/' hslashes (by simpa using hne)
  have htoList : (ofComponents names).toList = ['/'].intercalate (names.map String.toList) := by
    rw [ofComponents, String.toList_intercalate]
    rfl
  rw [components, htoList, Text.pieces_eq_splitOn, hsplit, List.map_map]
  simp [Function.comp_def]

theorem components_of_unslashed {path : String} (h : '/' ∉ path.toList) : components path = [path] := by
  have hself : ofComponents [path] = path := String.intercalate_singleton
  rw [← components_ofComponents (List.cons_ne_nil path []) (by simpa using h), hself]

@[simp] theorem components_empty : components "" = [""] := components_of_unslashed (by simp)

@[simp] theorem components_dot : components "." = ["."] := components_of_unslashed (by simp)

@[simp] theorem components_dots : components ".." = [".."] := components_of_unslashed (by simp)

theorem unslashed_of_mem_components {path name : String} (h : name ∈ components path) :
    '/' ∉ name.toList := by
  obtain ⟨cs, hcs, rfl⟩ := List.mem_map.mp h
  rw [String.toList_ofList]
  exact Text.not_mem_of_mem_pieces hcs

theorem ofComponents_ne_empty {names : List String} (hne : names ≠ []) (h : ∀ name ∈ names, Proper name) :
    ofComponents names ≠ "" := by
  intro hempty
  have hcomponents := components_ofComponents hne fun name hname => (h name hname).unslashed
  have hmem : "" ∈ names := by
    rw [← hcomponents, hempty, components_empty]
    exact List.mem_singleton_self ""
  exact (h "" hmem).ne_empty rfl

theorem isRooted_iff {path : String} : isRooted path = true ↔ path.toList.head? = some '/' := by
  rw [isRooted, leadingSlashes]
  split
  · simp_all
  · simp_all
  · simp_all
  · next hother =>
    cases hpath : path.toList with
    | nil => simp
    | cons c cs =>
        have hc : c ≠ '/' := fun hc => hother cs (hc ▸ hpath)
        simp [hc]

theorem not_isRooted_iff {path : String} : isRooted path = false ↔ path.toList.head? ≠ some '/' := by
  rw [Ne, ← isRooted_iff, Bool.not_eq_true]

theorem isRooted_join {base path : String} (h : isRooted path = false) :
    isRooted (join base path) = isRooted base := by
  rw [Bool.eq_iff_iff, isRooted_iff, isRooted_iff]
  have hpath : ¬path.toList.head? = some '/' := not_isRooted_iff.mp h
  cases hbase : base.toList with
  | nil => simp [join, String.toList_eq_nil_iff.mp hbase, hpath]
  | cons c cs =>
      rw [join]
      split <;> simp [hbase]

/-! Walks -/

/-- A walk that starts at the root takes every parent step it can and leaves out the others. -/
theorem proper_of_mem_walk {names : List String} (h : ∀ name ∈ names, '/' ∉ name.toList) {name : String}
    (hname : name ∈ walk true names) : Proper name := by
  suffices ∀ stack : List String, (∀ name ∈ stack, Proper name) →
      ∀ name ∈ names.foldl (walkStep true) stack, Proper name from
    this [] (by simp) name (List.mem_reverse.mp hname)
  clear hname name
  intro stack hstack
  induction names generalizing stack with
  | nil => exact hstack
  | cons next names ih =>
      obtain ⟨hnext, hnames⟩ := List.forall_mem_cons.mp h
      refine ih hnames _ ?_
      unfold walkStep
      split
      · exact hstack
      · next hkept =>
        split
        · next hdown =>
          intro name hname
          rcases List.mem_cons.mp hname with rfl | hname
          · exact ⟨fun he => hkept (.inl he), fun he => hkept (.inr he), hdown, hnext⟩
          · exact hstack name hname
        · cases stack with
          | nil => simp
          | cons top stack =>
              obtain ⟨htop, hstack⟩ := List.forall_mem_cons.mp hstack
              simpa [htop.ne_dots] using hstack

theorem walk_of_proper {names : List String} (h : ∀ name ∈ names, Proper name) :
    walk false names = names := by
  suffices ∀ stack : List String,
      names.foldl (walkStep false) stack = names.reverse ++ stack by
    rw [walk, this [], List.append_nil, List.reverse_reverse]
  intro stack
  induction names generalizing stack with
  | nil => rfl
  | cons name names ih =>
      obtain ⟨hname, hnames⟩ := List.forall_mem_cons.mp h
      have hstep : walkStep false stack name = name :: stack := by
        unfold walkStep
        rw [if_neg (not_or.mpr ⟨hname.ne_empty, hname.ne_dot⟩), if_pos hname.ne_dots]
      rw [List.foldl_cons, hstep, ih hnames, List.reverse_cons, List.append_assoc]
      rfl

/-! Paths down from a place -/

/-- A path is written as proper names alone. -/
structure Spells (path : String) (names : List String) : Prop where
  proper : ∀ name ∈ names, Proper name
  eq : path = if names = [] then "." else ofComponents names

theorem Spells.unique {path path' : String} {names : List String} (h : Spells path names)
    (h' : Spells path' names) : path = path' :=
  h.eq.trans h'.eq.symm

theorem Spells.components_eq {path : String} {names : List String} (h : Spells path names)
    (hne : names ≠ []) : components path = names := by
  rw [h.eq, if_neg hne]
  exact components_ofComponents hne fun name hname => (h.proper name hname).unslashed

/-- A path without names is a dot; any other has components that are no dots. -/
theorem Spells.cases {path : String} {names : List String} (h : Spells path names) :
    names = [] ∧ path = "." ∨ names ≠ [] ∧ components path = names := by
  by_cases hne : names = []
  · refine .inl ⟨hne, ?_⟩
    rw [h.eq, if_pos hne]
  · exact .inr ⟨hne, h.components_eq hne⟩

theorem Spells.isRooted_eq {path : String} {names : List String} (h : Spells path names) :
    isRooted path = false := by
  by_contra hrooted
  rw [Bool.not_eq_false, isRooted_iff] at hrooted
  obtain ⟨rest, hrest⟩ := List.head?_eq_some_iff.mp hrooted
  have hpath : path = "" ++ "/" ++ String.ofList rest := by
    rw [← String.toList_inj, hrest]
    simp
  have hempty : "" ∈ components path := by
    rw [hpath, components_append]
    simp
  rcases h.cases with ⟨-, rfl⟩ | ⟨-, hcomponents⟩
  · simp at hempty
  · rw [hcomponents] at hempty
    exact (h.proper "" hempty).ne_empty rfl

theorem Spells.escapes_eq {path : String} {names : List String} (h : Spells path names) :
    escapes path = false := by
  by_contra hescapes
  have hdots : ".." ∈ components path := by
    rw [Bool.not_eq_false, escapes, Bool.or_eq_true] at hescapes
    rcases hescapes with heq | hprefix
    · simp [beq_iff_eq.mp heq]
    · obtain ⟨rest, hrest⟩ := List.isPrefixOf_iff_prefix.mp hprefix
      have hpath : path = ".." ++ "/" ++ String.ofList rest := by
        rw [← String.toList_inj, ← hrest]
        simp
      rw [hpath, components_append]
      simp
  rcases h.cases with ⟨-, rfl⟩ | ⟨-, hcomponents⟩
  · simp at hdots
  · rw [hcomponents] at hdots
    exact (h.proper ".." hdots).ne_dots rfl

/-- A path of proper names is normal. -/
theorem Spells.normalize_eq {path : String} {names : List String} (h : Spells path names) :
    normalize path = path := by
  rcases h.cases with ⟨-, rfl⟩ | ⟨hne, hcomponents⟩
  · decide +kernel
  · have hfront : leadingSlashes path = 0 := by simpa [isRooted] using h.isRooted_eq
    have hpath : ofComponents names = path := by rw [h.eq, if_neg hne]
    have hnonempty : path ≠ "" := by
      rintro rfl
      have hempty : "" ∈ names := by simp [← hcomponents]
      exact (h.proper "" hempty).ne_empty rfl
    rw [normalize, hcomponents, h.isRooted_eq, hfront, walk_of_proper h.proper, hpath]
    simp [hnonempty]

theorem Spells.dropLeadingSlashes_eq {path : String} {names : List String} (h : Spells path names) :
    dropLeadingSlashes path = path := by
  have hhead : ¬path.toList.head? = some '/' := not_isRooted_iff.mp h.isRooted_eq
  rw [dropLeadingSlashes]
  cases hchars : path.toList with
  | nil => rw [String.toList_eq_nil_iff.mp hchars]; rfl
  | cons c cs =>
      have hc : c ≠ '/' := by simpa [hchars] using hhead
      rw [List.dropWhile_cons_of_neg (by simpa using hc), ← hchars, String.ofList_toList]

end Path

namespace FileTree

open PersistedOps.Path

/-- Joining puts the names of a path behind those of what it is joined to. -/
theorem stepNames_join (base path : String) :
    stepNames (join base path) = stepNames base ++ stepNames path := by
  rw [join]
  split
  · next h =>
    rcases h with rfl | hlast
    · simp [stepNames, components, Text.pieces]
    · -- What stands in front of the last slash has the names of the whole.
      obtain ⟨front, hfront⟩ := List.getLast?_eq_some_iff.mp hlast
      have hbase : base = String.ofList front ++ "/" ++ "" := by
        rw [String.append_empty, ← String.ofList_toList (s := base), hfront, String.ofList_append]
      have hwhole : base ++ path = String.ofList front ++ "/" ++ path := by
        rw [hbase, String.append_empty]
      rw [stepNames, hwhole, components_append, stepNames, hbase, components_append]
      simp [stepNames, components, Text.pieces]
  · rw [stepNames, components_append, List.filter_append]
    rfl

theorem origin_join {base path : String} (directory : List String)
    (h : isRooted path = false) : origin directory (join base path) = origin directory base := by
  rw [origin, origin, isRooted_join h]

/-- A path leads through the names it is written as. -/
theorem stepNames_of_spells {path : String} {names : List String} (h : Spells path names) :
    stepNames path = names := by
  rcases h.cases with ⟨rfl, rfl⟩ | ⟨-, hcomponents⟩
  · simp [stepNames]
  · rw [stepNames, hcomponents]
    refine List.filter_eq_self.mpr fun name hname => ?_
    simp [(h.proper name hname).ne_empty, (h.proper name hname).ne_dot]

/-- A place holds proper names. -/
theorem proper_of_mem_absolute {directory : List String}
    (hdirectory : ∀ name ∈ directory, '/' ∉ name.toList) {path name : String}
    (h : name ∈ absolute directory path) : Proper name := by
  refine proper_of_mem_walk (fun name hname => ?_) h
  rcases List.mem_append.mp hname with hname | hname
  · rw [origin] at hname
    split at hname
    · cases hname
    · exact hdirectory name hname
  · exact unslashed_of_mem_components hname

/-- The path down to a place is written as the names that the place has more. -/
theorem exists_spells_of_relative? {root location : List String} {path : String}
    (hlocation : ∀ name ∈ location, Proper name) (h : relative? root location = some path) :
    ∃ names, location = root ++ names ∧ Spells path names := by
  rw [relative?] at h
  split at h
  · next hprefix =>
    obtain ⟨names, rfl⟩ := List.isPrefixOf_iff_prefix.mp hprefix
    rw [List.drop_left] at h
    have hnames : ∀ name ∈ names, Proper name := fun name hname =>
      hlocation name (List.mem_append_right root hname)
    refine ⟨names, rfl, hnames, ?_⟩
    by_cases hne : names = []
    · subst hne
      cases h
      rfl
    · have heq : (if ofComponents names = "" then "." else ofComponents names) = path :=
        Option.some.inj h
      rw [if_neg hne, ← heq, if_neg (ofComponents_ne_empty hne hnames)]
  · cases h

end FileTree

namespace Reference

open PersistedOps.Path

variable {reference path : String} {issuer : Option String} {names : List String}

/-- A path of proper names is what it refers to from the root. -/
theorem join_of_spells (hspells : Spells path names) (hbase : base reference issuer = "")
    (hpath : dropLeadingSlashes reference = path) : join reference issuer = .ok path := by
  have hjoin : Path.join "" path = path := by rw [Path.join, if_pos (.inl rfl), String.empty_append]
  rw [join, hbase, hpath, hjoin, hspells.normalize_eq, hspells.escapes_eq]
  rfl

theorem base_none (reference : String) : base reference none = "" := by
  unfold base
  split <;> rfl

theorem join_self (hspells : Spells path names) : join path none = .ok path :=
  join_of_spells hspells (base_none path) hspells.dropLeadingSlashes_eq

/-- The path that a reference leads to is the first that is looked at. -/
theorem locate_of_join {isUnit : String → Bool} (hjoin : join reference issuer = .ok path)
    (h : isUnit path = true) : locate isUnit reference issuer = .ok path := by
  have hfound : (candidates path).find? isUnit = some path := by
    rw [candidates]
    split <;> simp [h]
  rw [locate, hjoin]
  refine bind_eq_ok_iff.mpr ⟨path, rfl, ?_⟩
  simp only [hfound]
  rfl

end Reference

namespace DirectorySource

open PersistedOps.Path

/-- A path that names a file names that file, and no other candidate is looked at. -/
theorem locate_of_isFile {d : DirectorySource} {path : String} {names : List String}
    (hspells : Spells path names) (h : d.tree.isFile d.root path = true) :
    d.locate path none = .ok path :=
  Reference.locate_of_join (Reference.join_self hspells) h

end DirectorySource

end PersistedOps
