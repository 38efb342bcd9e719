import PersistedOps.Command.Run
import PersistedOps.Proofs.Session.Gather
import PersistedOps.Proofs.Source.FileTree
import PersistedOps.Proofs.Source.LineEnds
import PersistedOps.Proofs.Source.Names

/-!
What a command leaves in the files it writes. For each unit it is given there is one file, and this
holds the text of the unit with the statements of its identifiers behind it. The text is that of the
unit's file but for its line ends, so the bytes of the file come first exactly when no carriage return
is among them.
-/

namespace PersistedOps

open RecursiveBuild

/-- What is put behind the source of a unit. -/
def Processed.appended (p : Processed) : String :=
  String.join (p.identifiers.map fun e => "\n" ++ Script.documentIdStatement e.1 e.2)

/-- The source of a unit that has been built is the text it was read as, with its identifiers behind. -/
theorem RecursiveBuild.Builds.exists_source {σ : Type} [UnitSource σ] {source : σ}
    {options : Options} {signer : Signer} {path : String} {p : Processed}
    (h : Builds source options signer path p) :
    ∃ text, UnitSource.read source path = .ok text ∧ p.source = text ++ p.appended := by
  obtain ⟨depth, hdepth⟩ := h
  cases depth with
  | zero => cases hdepth
  | succ depth =>
      obtain ⟨text, unit, lists, hload, -, hp⟩ := buildWithin_succ_eq_ok_iff.mp hdepth
      obtain ⟨operations, -, rfl⟩ := ofDocuments_eq_ok_iff.mp hp
      exact ⟨text, hload.read, rfl⟩

namespace Command

open DirectorySource FileTree PersistedOps.Path

/-! Writing one unit after the other -/

/-- The place of a unit's file is below that of its target, by the names of the unit's path. -/
theorem place_join {directory : List String} {target path : String} {names : List String}
    (h : Spells path names) (hproper : ∀ name ∈ names, name ≠ "..") :
    place directory (join target path) = place directory target ++ names := by
  rw [place, stepNames_join, origin_join _ h.isRooted_eq, stepNames_of_spells h,
    List.foldl_append]
  show names.foldl follow (place directory target) = _
  generalize place directory target = location
  clear h
  induction names generalizing location with
  | nil => simp
  | cons name names ih =>
      obtain ⟨hname, hnames⟩ := List.forall_mem_cons.mp hproper
      rw [List.foldl_cons, ih hnames, follow, if_neg hname, List.append_assoc]
      rfl

/-- Different units are written to different places. -/
theorem eq_of_place_eq {directory : List String} {target path path' : String}
    {names names' : List String} (h : Spells path names) (h' : Spells path' names')
    (heq : place directory (join target path) = place directory (join target path')) :
    path = path' := by
  rw [place_join h fun name hname => (h.proper name hname).ne_dots,
    place_join h' fun name hname => (h'.proper name hname).ne_dots] at heq
  cases List.append_cancel_left heq
  exact h.unique h'

/-- After all units are written, each file holds the source of the last unit written there. -/
theorem find_writeAll {directory : List String} {target : String}
    {units : List (String × Processed)} {t t' : FileTree}
    (hspells : ∀ u ∈ units, ∃ names, Spells u.1 names)
    (hsame : ∀ u ∈ units, ∀ v ∈ units, u.1 = v.1 → u.2 = v.2)
    (h : writeAll directory target units t = some t') :
    KeepsDirectories t t' ∧
      (∀ l, (∀ u ∈ units, l ≠ place directory (join target u.1)) → t'.file? l = t.file? l) ∧
      ∀ u ∈ units, t'.find directory (join target u.1) = .file u.2.source.toUTF8 := by
  induction units generalizing t with
  | nil =>
      cases h
      exact ⟨fun _ => id, fun _ _ => rfl, by simp⟩
  | cons u units ih =>
      obtain ⟨written, hwritten, hrest⟩ := Option.bind_eq_some_iff.mp h
      obtain ⟨hfind, hkeeps, hothers⟩ := write_eq_some hwritten
      obtain ⟨⟨names, hnames⟩, hspells'⟩ := List.forall_mem_cons.mp hspells
      obtain ⟨hkeeps', hothers', hfinds⟩ := ih hspells'
        (fun v hv w hw => hsame v (List.mem_cons_of_mem _ hv) w (List.mem_cons_of_mem _ hw)) hrest
      refine ⟨hkeeps.trans hkeeps', fun l hl => ?_, fun v hv => ?_⟩
      · obtain ⟨hu, hunits⟩ := List.forall_mem_cons.mp hl
        rw [hothers' l hunits, hothers l hu]
      · rcases List.mem_cons.mp hv with rfl | hv
        · by_cases hagain : ∃ w ∈ units, w.1 = v.1
          · -- A unit named again is written again, with the same source.
            obtain ⟨w, hw, hpath⟩ := hagain
            rw [← hpath, ← hsame w (List.mem_cons_of_mem _ hw) v List.mem_cons_self hpath]
            exact hfinds w hw
          · refine find_keep hkeeps' (hothers' _ fun w hw heq => hagain ⟨w, hw, ?_⟩) hfind
            obtain ⟨names', hnames'⟩ := hspells' w hw
            exact (eq_of_place_eq hnames hnames' heq).symm
        · exact hfinds v hv

/-! A whole command -/

/-- What a command that ends well has done: it has found the paths of its units, built these, and
written them out. -/
theorem exists_emit {argv : List String} {s : Setting} {a : Arguments} {o : Outcome}
    (hargs : parse argv = .ok a) (hrun : run argv s = .done o) (hstatus : o.status = 0) :
    ∃ paths chosen units, a.units.mapM ((source a s).relative? s.directory) = some paths ∧
      options a s.environment = .ok chosen ∧
      (Session.start (source a s) chosen Signer.registry).buildAll paths = .ok units ∧
      emit a s paths units = .done o := by
  rw [run, hargs] at hrun
  simp only [perform] at hrun
  split at hrun
  · cases hrun
  · split at hrun
    · cases hrun
      cases hstatus
    · next paths hpaths =>
      rw [build] at hrun
      split at hrun
      · cases hrun
      · next chosen hchosen =>
        split at hrun
        · cases hrun
        · cases hrun
          cases hstatus
        · next units hunits => exact ⟨paths, chosen, units, hpaths, hchosen, hunits, hrun⟩

theorem exists_spells {d : DirectorySource} {directory : List String}
    (hdirectory : ∀ name ∈ directory, '/' ∉ name.toList) {unit path : String}
    (h : d.relative? directory unit = some path) : ∃ names, Spells path names := by
  rw [DirectorySource.relative?] at h
  split at h
  · cases h
  · obtain ⟨names, -, hnames⟩ := exists_spells_of_relative?
      (fun name => proper_of_mem_absolute hdirectory) h
    exact ⟨names, hnames⟩

/-- What has been read is a file that holds text. -/
theorem exists_file_of_read {d : DirectorySource} {path text : String} (h : d.read path = .ok text) :
    ∃ content, d.tree.find d.root path = .file content ∧ decode content = some text := by
  rw [DirectorySource.read] at h
  split at h
  · next content hcontent =>
    split at h
    · next held hheld =>
      cases h
      exact ⟨content, hcontent, hheld⟩
    · cases h
  · cases h
  · cases h

/-- The file that a command writes for one of its units: the text of the unit's file, line ends
unified, and behind it the statements of the unit's identifiers. The bytes of the unit's file stand in
it as they were exactly when they hold no carriage return. -/
theorem written_for_unit {argv : List String} {s : Setting} {a : Arguments} {o : Outcome}
    {target : String} (hdirectory : ∀ name ∈ s.directory, '/' ∉ name.toList)
    (hargs : parse argv = .ok a) (hlist : a.list = false) (hout : a.outDir = some target)
    (hrun : run argv s = .done o) (hstatus : o.status = 0) {unit : String} (hunit : unit ∈ a.units) :
    ∃ path located content text chosen p written,
      (source a s).relative? s.directory unit = some path ∧
      (source a s).locate path none = .ok located ∧
      (s.tree.isFile (source a s).root path = true → located = path) ∧
      s.tree.find (source a s).root located = .file content ∧ decode content = some text ∧
      options a s.environment = .ok chosen ∧
      Builds (source a s) chosen Signer.registry located p ∧
      o.tree.find s.directory (join target path) = .file written ∧
      written = (text ++ p.appended).toUTF8 ∧
      (written = content ++ p.appended.toUTF8 ↔ returnByte ∉ content.data) := by
  obtain ⟨paths, chosen, units, hpaths, hchosen, hunits, hemit⟩ := exists_emit hargs hrun hstatus
  have hrelated := mapM_eq_some_iff.mp hpaths
  obtain ⟨hlength, hbuilds⟩ := List.forall₂_iff_zip.mp (Session.builds_of_buildAll hunits)
  have hspells : ∀ path ∈ paths, ∃ names, Spells path names := by
    intro path hpath
    obtain ⟨unit, -, hrelative⟩ := exists_of_mem_left hrelated.flip hpath
    exact exists_spells hdirectory hrelative
  obtain ⟨path, hpath, hrelative⟩ := exists_of_mem_left hrelated hunit
  obtain ⟨names, hnames⟩ := hspells path hpath
  obtain ⟨p, hp⟩ : ∃ p, (path, p) ∈ paths.zip units := by
    obtain ⟨i, hi, rfl⟩ := List.getElem_of_mem hpath
    refine ⟨units[i], ?_⟩
    rw [← List.getElem_zip (h := by simp [hi, ← hlength])]
    exact List.getElem_mem _
  obtain ⟨located, hlocated, hbuilt⟩ := hbuilds hp
  obtain ⟨text, hread, hsource⟩ := hbuilt.exists_source
  obtain ⟨content, hfile, hdecode⟩ := exists_file_of_read hread
  -- The command has written all units, this one among them.
  have hfind : o.tree.find s.directory (join target path) = .file p.source.toUTF8 := by
    simp only [emit, hlist, hout, Bool.false_eq_true, if_false] at hemit
    split at hemit
    · next tree hwritten =>
      cases hemit
      refine (find_writeAll (fun u hu => hspells u.1 (List.of_mem_zip hu).1) ?_ hwritten).2.2
        (path, p) hp
      rintro ⟨q, d⟩ hu ⟨q', d'⟩ hv rfl
      obtain ⟨l, hl, hd⟩ := hbuilds hu
      obtain ⟨l', hl', hd'⟩ := hbuilds hv
      cases hl.symm.trans hl'
      exact hd.unique hd'
    · cases hemit
  refine ⟨path, located, content, text, chosen, p, _, hrelative, hlocated, fun hisFile => ?_, hfile,
    hdecode, hchosen, hbuilt, hfind, by rw [hsource], ?_⟩
  · have hself := locate_of_isFile (d := source a s) hnames hisFile
    exact Except.ok.inj (hlocated.symm.trans hself)
  · rw [← toUTF8_eq_iff_of_decode hdecode, hsource]
    exact ByteArray.append_left_inj _

/-- The file that a command leaves at a path, when it ends well. -/
def Ending.written? (directory : List String) (path : String) : Ending → Option ByteArray
  | .done o => if o.status = 0 then
      match o.tree.find directory path with
      | .file content => some content
      | _ => none
    else none
  | _ => none

theorem Ending.eq_done_of_written? {e : Ending} {directory : List String} {path : String}
    {content : ByteArray} (h : e.written? directory path = some content) :
    ∃ o, e = .done o ∧ o.status = 0 ∧ o.tree.find directory path = .file content := by
  cases e with
  | done o =>
      rw [written?] at h
      split at h
      · next hstatus =>
        split at h
        · next found hfound =>
          cases h
          exact ⟨o, rfl, hstatus, hfound⟩
        · cases h
      · cases h
  | refused => cases h
  | invalid => cases h
  | unexpected => cases h

/-- One file in the working directory. -/
def settingOf (unit : String) : Setting := ⟨[], ⟨[(["top", "q.py"], unit.toUTF8)], [["top"]]⟩, ["top"]⟩

def outArguments : Arguments := { units := ["q.py"], outDir := some "out" }

/-- A unit whose document is empty. -/
def plainUnit : String := "exports=\x7b'kind':'Document'\x7d"

theorem written_for_unit_plain : ∃ o p written,
    run ["q.py", "--out-dir", "out"] (settingOf plainUnit) = .done o ∧ o.status = 0 ∧
      Builds (source outArguments (settingOf plainUnit)) {} Signer.registry "q.py" p ∧
      o.tree.find ["top"] "out/q.py" = .file written ∧
      written = plainUnit.toUTF8 ++ p.appended.toUTF8 := by
  have hdirectory : ∀ name ∈ (settingOf plainUnit).directory, '/' ∉ name.toList := by decide +kernel
  have hargs : parse ["q.py", "--out-dir", "out"] = .ok outArguments :=
    eq_ok_of_toOption (by decide +kernel)
  have hends : ((run ["q.py", "--out-dir", "out"] (settingOf plainUnit)).written? ["top"]
      "out/q.py").isSome = true := by decide +kernel
  obtain ⟨left, hleft⟩ := Option.isSome_iff_exists.mp hends
  obtain ⟨o, hrun, hstatus, -⟩ := Ending.eq_done_of_written? hleft
  obtain ⟨path, located, content, text, chosen, p, written, hpath, -, hself, hfile, -, hchosen,
    hbuilt, hfind, -, hkept⟩ := written_for_unit hdirectory hargs rfl rfl hrun hstatus
      (show "q.py" ∈ outArguments.units from List.mem_cons_self)
  have hnamed : (source outArguments (settingOf plainUnit)).relative? ["top"] "q.py" =
      some "q.py" := by decide +kernel
  cases hpath.symm.trans hnamed
  cases hself (by decide +kernel)
  have hchoice : options outArguments (settingOf plainUnit).environment = .ok {} := rfl
  cases hchosen.symm.trans hchoice
  have hheld : (settingOf plainUnit).tree.find (source outArguments (settingOf plainUnit)).root
      "q.py" = .file plainUnit.toUTF8 := by
    have hroot : (source outArguments (settingOf plainUnit)).root = ["top"] := by decide +kernel
    have horigin : origin ["top"] "q.py" = ["top"] := by decide +kernel
    have hnames : stepNames "q.py" = ["q.py"] := by decide +kernel
    rw [find, hroot, horigin, hnames]
    rfl
  cases hfile.symm.trans hheld
  have hplain : returnByte ∉ plainUnit.toUTF8.data := by
    rw [returnByte_mem_toUTF8_iff]
    decide +kernel
  exact ⟨o, p, written, hrun, hstatus, hbuilt, hfind, hkept.mpr hplain⟩

/-- A unit whose lines end in two characters. -/
def returnUnit : String := "exports=\x7b'kind':'Document'\x7d\r\n"

/-- A file that has a carriage return is not kept: what is written does not begin with its bytes. -/
theorem written_loses_returns : ∃ o written,
    run ["q.py", "--out-dir", "out"] (settingOf returnUnit) = .done o ∧ o.status = 0 ∧
      o.tree.find ["top"] "out/q.py" = .file written ∧
      ∀ behind : ByteArray, written ≠ returnUnit.toUTF8 ++ behind := by
  have hends : ((run ["q.py", "--out-dir", "out"] (settingOf returnUnit)).written? ["top"]
      "out/q.py").any (fun written => written.size < returnUnit.toUTF8.size) = true := by
    decide +kernel
  obtain ⟨written, hwritten, hshort⟩ := (Option.any_eq_true ..).mp hends
  obtain ⟨o, hrun, hstatus, hfind⟩ := Ending.eq_done_of_written? hwritten
  refine ⟨o, written, hrun, hstatus, hfind, fun behind heq => ?_⟩
  rw [heq, ByteArray.size_append] at hshort
  have hlt := of_decide_eq_true hshort
  omega

end Command

end PersistedOps
