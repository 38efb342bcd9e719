import PersistedOps.Proofs.Session.Recursive
import PersistedOps.Proofs.Session.Shared
import PersistedOps.Proofs.Source.FileTree
import PersistedOps.Proofs.Source.Names

/-!
References taken from the root down. The names of a reference, behind those of its issuer's directory, are
taken one after the other from a stack, and there is no way up from the root. Main statement: where the
names lead somewhere, that is where a reference leads, in a form that leads there again; and whatever a
session reads stands below the root.
-/

namespace PersistedOps

namespace Path

variable {base path name : String} {names stack : List String}

/-- A path that begins with a step up leaves the place it is relative to. -/
theorem escapes_of_dots (names : List String) : escapes (ofComponents (".." :: names)) = true := by
  by_cases hne : names = []
  · rw [hne, ofComponents, String.intercalate_singleton]
    rfl
  · rw [ofComponents, String.intercalate_cons_of_ne_nil hne, escapes, Bool.or_eq_true,
      List.isPrefixOf_iff_prefix]
    exact .inr ⟨(String.intercalate "/" names).toList, by simp⟩

theorem isRooted_dropLeadingSlashes : isRooted (dropLeadingSlashes path) = false := by
  rw [not_isRooted_iff, dropLeadingSlashes, String.toList_ofList]
  intro hhead
  have hdrop := List.head?_dropWhile_not (· = '/') path.toList
  rw [hhead] at hdrop
  simp at hdrop

/-- The directory of a path is written as the path begins. -/
theorem directory_prefix (path : String) : (directory path).toList <+: path.toList := by
  have hhead : (splitLast path.toList.reverse).2 <:+ path.toList.reverse := List.dropWhile_suffix _
  have hreverse {cs : List Char} (h : cs <:+ path.toList.reverse) : cs.reverse <+: path.toList := by
    rw [← List.reverse_suffix, List.reverse_reverse]
    exact h
  rw [directory, String.toList_ofList]
  split
  · exact hreverse hhead
  · exact hreverse ((List.dropWhile_suffix _).trans hhead)

theorem isRooted_directory (h : isRooted path = false) : isRooted (directory path) = false := by
  rw [not_isRooted_iff] at h ⊢
  obtain ⟨rest, hrest⟩ := directory_prefix path
  intro hhead
  obtain ⟨cs, hcs⟩ := List.head?_eq_some_iff.mp hhead
  rw [← hrest, hcs] at h
  exact h rfl

end Path

namespace FileTree

open PersistedOps.Path

theorem stepNames_append (front back : String) :
    stepNames (front ++ "/" ++ back) = stepNames front ++ stepNames back := by
  rw [stepNames, components_append, List.filter_append]
  rfl

theorem stepNames_empty : stepNames "" = [] := by
  rw [stepNames, components_empty]
  rfl

theorem stepNames_dropLeadingSlashes (path : String) :
    stepNames (dropLeadingSlashes path) = stepNames path := by
  rw [dropLeadingSlashes, ← String.ofList_toList (s := path), String.toList_ofList]
  induction path.toList with
  | nil => rfl
  | cons c cs ih =>
      by_cases hc : c = '/'
      · have hslash : String.ofList (c :: cs) = "" ++ "/" ++ String.ofList cs := by
          rw [hc, ← String.toList_inj]
          simp
        rw [List.dropWhile_cons_of_pos (by simpa using hc), ih, hslash, stepNames_append,
          stepNames_empty, List.nil_append]
      · rw [List.dropWhile_cons_of_neg (by simpa using hc)]

/-- Slashes at the end add no name. Texts are given in reverse. -/
theorem stepNames_dropWhile (cs : List Char) :
    stepNames (String.ofList (cs.dropWhile (· = '/')).reverse) = stepNames (String.ofList cs.reverse) := by
  induction cs with
  | nil => rfl
  | cons c cs ih =>
      by_cases hc : c = '/'
      · have hslash : String.ofList (c :: cs).reverse = String.ofList cs.reverse ++ "/" ++ "" := by
          rw [hc, ← String.toList_inj]
          simp
        rw [List.dropWhile_cons_of_pos (by simpa using hc), ih, hslash, stepNames_append,
          stepNames_empty, List.append_nil]
      · rw [List.dropWhile_cons_of_neg (by simpa using hc)]

/-- The names of a path's directory are those in front of its last. -/
theorem stepNames_directory (path : String) : stepNames (directory path) =
    ((components path).dropLast).filter fun name => name ≠ "" ∧ name ≠ "." := by
  have hsplit : path.toList.reverse.takeWhile (· ≠ '/') ++ path.toList.reverse.dropWhile (· ≠ '/')
      = path.toList.reverse := List.takeWhile_append_dropWhile
  have hlast : '/' ∉ path.toList.reverse.takeWhile (· ≠ '/') := by
    intro hmem
    have hall := List.all_eq_true.mp (List.all_takeWhile (p := (· ≠ '/'))) '/' hmem
    simp at hall
  have hdirectory : stepNames (directory path)
      = stepNames (String.ofList (path.toList.reverse.dropWhile (· ≠ '/')).reverse) := by
    rw [directory, splitLast]
    split
    · rfl
    · exact stepNames_dropWhile _
  rw [hdirectory]
  generalize path.toList.reverse.takeWhile (· ≠ '/') = last at hsplit hlast
  cases hhead : path.toList.reverse.dropWhile (· ≠ '/') with
  | nil =>
      rw [hhead, List.append_nil] at hsplit
      have hpath : '/' ∉ path.toList := by
        rw [← List.mem_reverse, ← hsplit]
        exact hlast
      rw [components_of_unslashed hpath]
      exact stepNames_empty
  | cons c front =>
      have hc : c = '/' := by
        have hdrop := List.head?_dropWhile_not (· ≠ '/') path.toList.reverse
        rw [hhead] at hdrop
        simpa using hdrop
      rw [hhead, hc] at hsplit
      have hpath : path = String.ofList front.reverse ++ "/" ++ String.ofList last.reverse := by
        rw [← String.toList_inj, ← List.reverse_inj, ← hsplit]
        simp
      have hlast' : '/' ∉ (String.ofList last.reverse).toList := by simpa using hlast
      have hfront : String.ofList (c :: front).reverse = String.ofList front.reverse ++ "/" ++ "" := by
        rw [hc, ← String.toList_inj]
        simp
      rw [hfront, stepNames_append, stepNames_empty, List.append_nil]
      conv_rhs => rw [hpath, components_append, components_of_unslashed hlast', List.dropLast_concat]
      rfl

/-- Empty names and dots add nothing to a walk. -/
theorem foldl_walkStep_stepNames (path : String) (stack : List String) :
    (stepNames path).foldl (walkStep false) stack = (components path).foldl (walkStep false) stack := by
  rw [stepNames, List.foldl_filter]
  congr 1
  funext stack name
  by_cases hname : name = "" ∨ name = "."
  · rw [walkStep.eq_def, if_pos hname, if_neg (by simpa [← not_or] using hname)]
  · rw [if_pos (by simpa [← not_or] using hname)]

end FileTree

namespace Reference

open PersistedOps.Path FileTree

/-- One name taken from a place, whose own names stand innermost first. From the root no way leads up. -/
def climb? (stack : List String) (name : String) : Option (List String) :=
  if name = "" ∨ name = "." then some stack
  else if name ≠ ".." then some (name :: stack)
  else match stack with
    | [] => none
    | _ :: rest => some rest

/-- The place that names lead to from the root. -/
def descend? (names : List String) : Option (List String) :=
  (names.foldlM climb? []).map List.reverse

/-- The names of the directory of a path. -/
def directoryNames (path : String) : List String := (components path).dropLast

/-- The names that a reference takes: behind those of its issuer's directory, unless it begins with a
slash, its own. -/
def trail (reference : String) (issuer : Option String) : List String :=
  (if reference.startsWith "/" then [] else (issuer.map directoryNames).getD []) ++ components reference

variable {name reference path : String} {names stack result : List String} {issuer : Option String}

theorem foldlM_climb_filter (names stack : List String) :
    (names.filter fun name => name ≠ "" ∧ name ≠ ".").foldlM climb? stack = names.foldlM climb? stack := by
  induction names generalizing stack with
  | nil => rfl
  | cons name names ih =>
      rw [List.foldlM_cons]
      by_cases hname : name = "" ∨ name = "."
      · rw [List.filter_cons_of_neg (by simpa [← not_or] using hname), climb?.eq_def, if_pos hname]
        exact ih stack
      · rw [List.filter_cons_of_pos (by simpa [← not_or] using hname), List.foldlM_cons]
        exact congrArg (_ >>= ·) (funext fun _ => ih _)

/-- A step of a free walk is that from the root, or it goes up from there. -/
theorem walkStep_eq (hstack : ∀ name ∈ stack, Proper name) (hname : '/' ∉ name.toList) :
    (∃ next, climb? stack name = some next ∧ walkStep false stack name = next ∧
        ∀ name ∈ next, Proper name) ∨
      climb? stack name = none ∧ walkStep false stack name = [".."] := by
  rw [climb?.eq_def, walkStep.eq_def]
  split
  · exact .inl ⟨stack, rfl, rfl, hstack⟩
  · next hkept =>
    split
    · next hdown =>
      refine .inl ⟨name :: stack, rfl, rfl, List.forall_mem_cons.mpr ⟨?_, hstack⟩⟩
      exact ⟨fun h => hkept (.inl h), fun h => hkept (.inr h), hdown, hname⟩
    · cases stack with
      | nil => exact .inr ⟨rfl, rfl⟩
      | cons top rest =>
          obtain ⟨htop, hrest⟩ := List.forall_mem_cons.mp hstack
          exact .inl ⟨rest, rfl, if_neg htop.ne_dots, hrest⟩

/-- What has gone up from the root once is outside for good. -/
theorem foldl_walkStep_of_outside (rest : List String) :
    ∃ inner, names.foldl (walkStep false) (rest ++ [".."]) = inner ++ [".."] := by
  induction names generalizing rest with
  | nil => exact ⟨rest, rfl⟩
  | cons name names ih =>
      have hstep : ∃ inner, walkStep false (rest ++ [".."]) name = inner ++ [".."] := by
        rw [walkStep.eq_def]
        split
        · exact ⟨rest, rfl⟩
        · split
          · exact ⟨name :: rest, rfl⟩
          · cases rest with
            | nil => exact ⟨[".."], rfl⟩
            | cons top rest =>
                by_cases htop : top = ".."
                · exact ⟨".." :: top :: rest, if_pos htop⟩
                · exact ⟨rest, if_neg htop⟩
      obtain ⟨inner, hinner⟩ := hstep
      rw [List.foldl_cons, hinner]
      exact ih inner

/-- A free walk is that from the root, or it ends outside. -/
theorem foldl_walkStep_eq (hstack : ∀ name ∈ stack, Proper name)
    (hnames : ∀ name ∈ names, '/' ∉ name.toList) :
    (∃ last, names.foldlM climb? stack = some last ∧ names.foldl (walkStep false) stack = last ∧
        ∀ name ∈ last, Proper name) ∨
      names.foldlM climb? stack = none ∧
        ∃ inner, names.foldl (walkStep false) stack = inner ++ [".."] := by
  induction names generalizing stack with
  | nil => exact .inl ⟨stack, rfl, rfl, hstack⟩
  | cons name names ih =>
      obtain ⟨hname, hnames⟩ := List.forall_mem_cons.mp hnames
      rw [List.foldlM_cons, List.foldl_cons]
      rcases walkStep_eq hstack hname with ⟨next, hclimb, hwalk, hnext⟩ | ⟨hclimb, hwalk⟩
      · rw [hclimb, hwalk]
        exact ih hnext hnames
      · rw [hclimb, hwalk]
        exact .inr ⟨rfl, foldl_walkStep_of_outside []⟩

/-- The normal form of a relative path: the place it leads to, or the way out. -/
theorem normalize_eq (h : isRooted path = false) :
    (∃ names, descend? (stepNames path) = some names ∧ Spells (Path.normalize path) names) ∨
      descend? (stepNames path) = none ∧ escapes (Path.normalize path) = true := by
  have hslashes : ∀ name ∈ stepNames path, '/' ∉ name.toList := fun name hname =>
    unslashed_of_mem_components (List.mem_filter.mp hname).1
  have hfront : leadingSlashes path = 0 := by simpa [isRooted] using h
  have hwalk : walk false (components path) = ((stepNames path).foldl (walkStep false) []).reverse := by
    rw [foldl_walkStep_stepNames]
    rfl
  have hnormal : Path.normalize path = if ofComponents (walk false (components path)) = "" then "."
      else ofComponents (walk false (components path)) := by
    rw [Path.normalize, h, hfront]
    simp
  rw [hnormal, hwalk, descend?]
  have hroot : ∀ name ∈ ([] : List String), Proper name := List.forall_mem_nil Proper
  rcases foldl_walkStep_eq hroot hslashes with ⟨last, hclimb, hlast, hproper⟩ |
    ⟨hclimb, inner, hinner⟩
  · have hreverse : ∀ name ∈ last.reverse, Proper name := fun name hname =>
      hproper name (List.mem_reverse.mp hname)
    refine .inl ⟨last.reverse, by rw [hclimb]; rfl, hreverse, ?_⟩
    rw [hlast]
    by_cases hne : last.reverse = []
    · rw [if_pos hne, hne]
      rfl
    · rw [if_neg hne, if_neg (ofComponents_ne_empty hne hreverse)]
  · refine .inr ⟨by rw [hclimb]; rfl, ?_⟩
    rw [hinner, List.reverse_append, List.reverse_singleton, List.singleton_append]
    have hescapes : escapes (ofComponents (".." :: inner.reverse)) = true := escapes_of_dots _
    rwa [if_neg fun hempty => by rw [hempty] at hescapes; cases hescapes]

/-- A reference is looked for where its trail leads, and nowhere when it leads outside. -/
theorem join_eq (reference : String) (h : ∀ path ∈ issuer, isRooted path = false) :
    (∃ names path, descend? (trail reference issuer) = some names ∧ join reference issuer = .ok path ∧
        Spells path names) ∨
      descend? (trail reference issuer) = none ∧
        ∃ looked, join reference issuer = .error (.unitNotFound reference (some looked)) := by
  have hbase : isRooted (base reference issuer) = false ∧ stepNames (base reference issuer) =
      (if reference.startsWith "/" then [] else (issuer.map directoryNames).getD []).filter
        fun name => name ≠ "" ∧ name ≠ "." := by
    unfold base
    split
    · exact ⟨rfl, stepNames_empty⟩
    · cases issuer with
      | none => exact ⟨rfl, stepNames_empty⟩
      | some path => exact ⟨isRooted_directory (h path rfl), stepNames_directory path⟩
  have hrooted : isRooted (Path.join (base reference issuer) (dropLeadingSlashes reference)) = false := by
    rw [isRooted_join isRooted_dropLeadingSlashes, hbase.1]
  have hnames : descend? (stepNames (Path.join (base reference issuer) (dropLeadingSlashes reference)))
      = descend? (trail reference issuer) := by
    rw [stepNames_join, hbase.2, stepNames_dropLeadingSlashes, descend?, descend?, stepNames,
      ← List.filter_append, foldlM_climb_filter]
    rfl
  rw [join]
  rcases normalize_eq hrooted with ⟨names, hdescend, hspells⟩ | ⟨hdescend, hescapes⟩
  · refine .inl ⟨names, _, hnames ▸ hdescend, if_neg ?_, hspells⟩
    rw [hspells.escapes_eq]
    exact Bool.false_ne_true
  · exact .inr ⟨hnames ▸ hdescend, _, if_pos hescapes⟩

theorem join_eq_error_iff (h : ∀ path ∈ issuer, isRooted path = false) :
    (∃ looked, join reference issuer = .error (.unitNotFound reference looked)) ↔
      descend? (trail reference issuer) = none := by
  rcases join_eq reference h with ⟨names, path, hdescend, hjoin, -⟩ | ⟨hdescend, looked, hjoin⟩
  · rw [hdescend, hjoin]
    exact ⟨nofun, nofun⟩
  · rw [hdescend, hjoin]
    exact ⟨fun _ => rfl, fun _ => ⟨_, rfl⟩⟩

/-! ### Paths that stay below the root -/

/-- A path that stays below the root, in the one form in which it is located. -/
structure Confined (path : String) : Prop where
  unrooted : isRooted path = false
  names : path = "." ∨ ∀ name ∈ components path, name ≠ "" ∧ name ≠ "." ∧ name ≠ ".."
  again : join path none = .ok path

theorem confined_of_spells (h : Spells path names) : Confined path where
  unrooted := h.isRooted_eq
  names := by
    rcases h.cases with ⟨-, hdot⟩ | ⟨-, hcomponents⟩
    · exact .inl hdot
    · rw [hcomponents]
      exact .inr fun name hname =>
        ⟨(h.proper name hname).ne_empty, (h.proper name hname).ne_dot, (h.proper name hname).ne_dots⟩
  again := join_self h

/-- A confined path leads down from whatever it is taken from. -/
theorem Confined.prefix_place (h : Confined path) (root : List String) : root <+: place root path := by
  have hnames : ".." ∉ stepNames path := by
    rw [stepNames]
    intro hmem
    have hcomponent := (List.mem_filter.mp hmem).1
    rcases h.names with rfl | hall
    · simp at hcomponent
    · exact (hall ".." hcomponent).2.2 rfl
  have hfollow (location : List String) : location <+: (stepNames path).foldl follow location := by
    generalize stepNames path = names at hnames
    induction names generalizing location with
    | nil => exact List.prefix_refl location
    | cons name names ih =>
        rw [List.mem_cons, not_or] at hnames
        rw [List.foldl_cons, follow, if_neg (Ne.symm hnames.1)]
        exact (List.prefix_append location [name]).trans (ih _ hnames.2)
  rw [place, origin, h.unrooted, if_neg Bool.false_ne_true]
  exact hfollow root

theorem ofComponents_concat (front : List String) (last extra : String) :
    ofComponents (front ++ [last]) ++ extra = ofComponents (front ++ [last ++ extra]) := by
  by_cases hfront : front = []
  · rw [hfront, List.nil_append, List.nil_append, ofComponents, ofComponents,
      String.intercalate_singleton, String.intercalate_singleton]
  · rw [ofComponents, ofComponents,
      String.intercalate_append_of_ne_nil hfront (List.cons_ne_nil last []),
      String.intercalate_append_of_ne_nil hfront (List.cons_ne_nil (last ++ extra) []),
      String.intercalate_singleton, String.intercalate_singleton, String.append_assoc]

theorem proper_append_suffix (h : '/' ∉ name.toList) : Proper (name ++ suffix) := by
  have hlength : (name ++ suffix).length = name.length + 3 := String.length_append _ _
  have hne {short : String} (hshort : short.length < 3) : name ++ suffix ≠ short := by
    rintro rfl
    omega
  exact ⟨hne (by decide), hne (by decide), hne (by decide), by simpa [suffix] using h⟩

/-- With the suffix of compiled units a path is still one of proper names. -/
theorem exists_spells_suffix (h : Spells path names) : ∃ names', Spells (path ++ suffix) names' := by
  rcases List.eq_nil_or_concat' names with rfl | ⟨front, last, rfl⟩
  · have hpath : path = "." := h.eq
    refine ⟨["." ++ suffix], fun name hname => ?_, ?_⟩
    · rw [List.mem_singleton.mp hname]
      exact proper_append_suffix (by decide)
    · rw [hpath, if_neg (List.cons_ne_nil _ []), ofComponents, String.intercalate_singleton]
  · have hne (name : String) : front ++ [name] ≠ [] := List.append_ne_nil_of_right_ne_nil front (by simp)
    refine ⟨front ++ [last ++ suffix], fun name hname => ?_, ?_⟩
    · rcases List.mem_append.mp hname with hname | hname
      · exact h.proper name (List.mem_append_left _ hname)
      · rw [List.mem_singleton.mp hname]
        exact proper_append_suffix (h.proper last (by simp)).unslashed
    · rw [if_neg (hne _), ← ofComponents_concat, h.eq, if_neg (hne _)]

/-- What is located is a candidate of what the reference leads to, and stands for a unit. -/
theorem exists_of_locate {isUnit : String → Bool} (h : locate isUnit reference issuer = .ok path) :
    ∃ whole, join reference issuer = .ok whole ∧ (candidates whole).find? isUnit = some path := by
  obtain ⟨whole, hjoin, h⟩ := bind_eq_ok_iff.mp h
  refine ⟨whole, hjoin, ?_⟩
  split at h
  · next found hfound =>
    cases h
    exact hfound
  · cases h

/-- References of what stands below the root lead below the root. -/
theorem exists_spells_of_locate {isUnit : String → Bool} (hissuer : ∀ path ∈ issuer, isRooted path = false)
    (h : locate isUnit reference issuer = .ok path) : ∃ names, Spells path names := by
  obtain ⟨whole, hjoin, hfind⟩ := exists_of_locate h
  rcases join_eq reference hissuer with ⟨names, _, -, hok, hspells⟩ | ⟨-, _, herror⟩
  · cases hjoin.symm.trans hok
    have hmem := List.mem_of_find?_eq_some hfind
    rw [candidates] at hmem
    split at hmem
    · exact ⟨names, List.mem_singleton.mp hmem ▸ hspells⟩
    · rcases List.mem_cons.mp hmem with rfl | hmem
      · exact ⟨names, hspells⟩
      · rw [List.mem_singleton.mp hmem]
        exact exists_spells_suffix hspells
  · cases hjoin.symm.trans herror

end Reference

/-! ### What sessions read -/

/-- Sources that find units by looking at the candidates of what a reference leads to. -/
def Refers (σ : Type) [UnitSource σ] : Prop :=
  ∀ source : σ, ∃ isUnit, ∀ reference issuer,
    UnitSource.locate source reference issuer = Reference.locate isUnit reference issuer

theorem refers_memory : Refers MemorySource := fun m =>
  ⟨fun path => (m.get? path).isSome, fun _ _ => rfl⟩

theorem refers_directory : Refers DirectorySource := fun d =>
  ⟨d.tree.isFile d.root, fun _ _ => rfl⟩

/-- Events whose calls resolve for nobody, or for a path that is relative. -/
def Event.Unrooted {σ : Type} : Event σ → Prop
  | .call c => ∀ path ∈ c.issuer, Path.isRooted path = false
  | _ => True

namespace Session

variable {σ : Type}

/-- All that a session has found, and all that it has read, stands below the root. -/
structure Within (s : Session σ) : Prop where
  calls : ∀ c ∈ s.calls, ∀ path ∈ c.issuer, Path.isRooted path = false
  tasks : ∀ path ∈ s.tasks.map Prod.fst, Reference.Confined path
  reads : ∀ path ∈ s.reads, Reference.Confined path

theorem mem_keys_of_task? {s : Session σ} {path : String} {t : BuildTask} (h : s.task? path = some t) :
    path ∈ s.tasks.map Prod.fst := by
  obtain ⟨front, back, htasks, -⟩ := List.lookup_eq_some_iff.mp h
  rw [htasks]
  simp

variable [UnitSource σ]

/-- New tasks are those of units that have been located. -/
theorem keys_move {s s' : Session σ} {job : Job} (hmove : Move s job s') :
    ∀ path ∈ s'.tasks.map Prod.fst, path ∈ s.tasks.map Prod.fst ∨
      ∃ w reference, s.Seeks job w reference ∧
        UnitSource.locate s.source reference (s.issuer? w) = .ok path := by
  have keep {tasks : List (String × BuildTask)} (h : tasks.map Prod.fst = s.tasks.map Prod.fst) :
      ∀ path ∈ tasks.map Prod.fst, path ∈ s.tasks.map Prod.fst ∨
        ∃ w reference, s.Seeks job w reference ∧
          UnitSource.locate s.source reference (s.issuer? w) = .ok path :=
    fun path hpath => .inl (h ▸ hpath)
  have modify {r : Session σ} (hr : r.tasks = s.tasks) (path : String) (f : BuildTask → BuildTask)
      (jobs : List Job) : ((r.modifyTask path f).enqueue jobs).tasks.map Prod.fst = s.tasks.map Prod.fst :=
    hr ▸ keys_modifyTask r path f
  -- A task is added by a waiter that parks, for the path it has located. All other steps keep the keys.
  cases hmove with
  | lost | refused =>
      rw [deliver_eq]
      exact keep rfl
  | met | woken =>
      rw [deliver_eq, stopWaiting_eq]
      exact keep rfl
  | @parked _ w reference path seeks located =>
      intro p hp
      rw [park_eq, keys_modifyTask] at hp
      unfold ensureTask at hp
      split at hp
      · exact .inl hp
      · rw [List.map_append] at hp
        refine (List.mem_append.mp hp).imp_right fun hp => ?_
        rw [List.mem_singleton.mp hp]
        exact ⟨w, reference, seeks, located⟩
  | @ended path =>
      rw [finish]
      exact keep (modify (r := { s with reads := s.reads ++ [path] }) rfl _ _ _)
  | @expanded path =>
      rw [expand]
      exact keep (modify (r := { s with reads := s.reads ++ [path] }) rfl _ _ _)
  | noted task =>
      rw [settle_eq task]
      exact keep (modify rfl _ _ _)
  | resumed =>
      rw [finish]
      exact keep (modify rfl _ _ _)

theorem Within.move (hrefers : Refers σ) {s s' : Session σ} {job : Job} (h : s.Within)
    (hmove : Move s job s') : s'.Within where
  calls := calls_move hmove ▸ h.calls
  tasks path hpath := by
    rcases keys_move hmove path hpath with hold | ⟨w, reference, hseeks, hlocate⟩
    · exact h.tasks path hold
    · have hissuer : ∀ issuer ∈ s.issuer? w, Path.isRooted issuer = false := by
        cases hseeks with
        | call made =>
            rw [issuer?, made]
            exact h.calls _ (List.mem_of_getElem? made)
        | request task =>
            intro issuer hissuer
            cases hissuer
            exact (h.tasks _ (mem_keys_of_task? task)).unrooted
      obtain ⟨isUnit, hunits⟩ := hrefers s.source
      rw [hunits] at hlocate
      obtain ⟨names, hspells⟩ := Reference.exists_spells_of_locate hissuer hlocate
      exact Reference.confined_of_spells hspells
  reads path hpath := by
    rcases reads_move hmove with hreads | ⟨p, hqueued, -, hreads⟩
    · exact h.reads path (hreads ▸ hpath)
    · rw [hreads] at hpath
      rcases List.mem_append.mp hpath with hold | hnew
      · exact h.reads path hold
      · obtain ⟨t, htask, -⟩ := Option.map_eq_some_iff.mp hqueued
        rw [List.mem_singleton.mp hnew]
        exact h.tasks p (mem_keys_of_task? htask)

/-- However calls, changes of the source and steps are mixed, a session stays below the root. -/
theorem within_after (hrefers : Refers σ) (source : σ) (options : Options) (signer : Signer)
    {events : List (Event σ)} (h : ∀ e ∈ events, e.Unrooted) :
    ((start source options signer).after events).Within := by
  refine after_moves (P := Within) (A := Event.Unrooted) (fun s c hc _ hs => ?_)
    (fun s source _ hs => ⟨hs.calls, hs.tasks, hs.reads⟩) (fun s job rest s' _ hpick hmove hs => ?_)
    ⟨by simp [start], by simp [start], by simp [start]⟩ (accounted_start source options signer) h
  · refine ⟨fun d hd => ?_, hs.tasks, hs.reads⟩
    rcases List.mem_append.mp hd with hd | hd
    · exact hs.calls d hd
    · rw [List.mem_singleton.mp hd]
      exact hc
  · refine Within.move hrefers ?_ hmove
    rw [hpick.rest_eq]
    exact ⟨hs.calls, hs.tasks, hs.reads⟩

end Session

/-- What is read at a confined path is a file below the root. -/
theorem DirectorySource.exists_file_of_read {d : DirectorySource} {path text : String}
    (hpath : Reference.Confined path) (h : d.read path = .ok text) :
    ∃ location content, d.root <+: location ∧ d.tree.file? location = some content ∧
      decode content = some text := by
  rw [read] at h
  split at h
  · next content hfind =>
    refine ⟨FileTree.place d.root path, content, hpath.prefix_place d.root,
      (FileTree.find_eq_file_iff.mp hfind).2, ?_⟩
    split at h
    · next found hdecode =>
      cases h
      exact hdecode
    · cases h
  · cases h
  · cases h

/-- From the root, or from a relative path, a reference fails when its trail leads outside, and only
then; else it leads to the end of its trail, written so that it leads there again. However calls, changes
of the source and steps are mixed, what a session reads are such paths, and in a tree of files what is
read at them stands below the root. -/
theorem join_confined :
    (∀ reference issuer, (∀ path ∈ issuer, Path.isRooted path = false) →
      (Reference.descend? (Reference.trail reference issuer) = none ↔
        ∃ looked, Reference.join reference issuer = .error (.unitNotFound reference looked)) ∧
      ∀ names, Reference.descend? (Reference.trail reference issuer) = some names →
        ∃ path, Reference.join reference issuer = .ok path ∧
          path = (if names = [] then "." else Path.ofComponents names) ∧ Reference.Confined path) ∧
    (∀ (m : MemorySource) options signer events, (∀ e ∈ events, e.Unrooted) →
      ∀ path ∈ ((Session.start m options signer).after events).reads, Reference.Confined path) ∧
    ∀ (d : DirectorySource) options signer events, (∀ e ∈ events, e.Unrooted) →
      ∀ path ∈ ((Session.start d options signer).after events).reads, Reference.Confined path ∧
        ∀ (held : DirectorySource) text, held.read path = .ok text →
          ∃ location content, held.root <+: location ∧ held.tree.file? location = some content ∧
            DirectorySource.decode content = some text := by
  refine ⟨fun reference issuer hissuer => ?_, fun m options signer events hevents path hpath => ?_,
    fun d options signer events hevents path hpath => ?_⟩
  · refine ⟨(Reference.join_eq_error_iff hissuer).symm, fun names hnames => ?_⟩
    rcases Reference.join_eq reference hissuer with ⟨names', path, hdescend, hjoin, hspells⟩ | ⟨hnone, -⟩
    · cases hnames.symm.trans hdescend
      exact ⟨path, hjoin, hspells.eq, Reference.confined_of_spells hspells⟩
    · cases hnames.symm.trans hnone
  · exact (Session.within_after refers_memory m options signer hevents).reads path hpath
  · have hconfined := (Session.within_after refers_directory d options signer hevents).reads path hpath
    exact ⟨hconfined, fun held text htext => held.exists_file_of_read hconfined htext⟩

/-- From two directories down, three steps up lead outside and two do not. -/
theorem join_confined_deep :
    (∃ looked, Reference.join "../../../f" (some "a/b/q.py") = .error (.unitNotFound "../../../f" looked)) ∧
    (∃ path, Reference.join "../..//./f" (some "a/b/q.py") = .ok path ∧ path = "f" ∧
      Reference.Confined path) ∧
    ∀ path ∈ ["q", "f"], Reference.Confined path := by
  obtain ⟨hjoin, hreads, -⟩ := join_confined
  refine ⟨(hjoin "../../../f" (some "a/b/q.py") (by decide +kernel)).1.mp (by decide +kernel), ?_, ?_⟩
  · exact (hjoin "../..//./f" (some "a/b/q.py") (by decide +kernel)).2 ["f"] (by decide +kernel)
  · have hsession : ((Session.start Session.pairSource {} Signer.registry).after
        (.call ⟨"q", none⟩ :: List.replicate 8 (.work 0))).reads = ["q", "f"] := by decide +kernel
    rw [← hsession]
    refine hreads _ _ _ _ fun e he => ?_
    rcases List.mem_cons.mp he with rfl | he
    · exact nofun
    · rw [List.eq_of_mem_replicate he]
      trivial

end PersistedOps
