import PersistedOps.Proofs.Build.Attached
import PersistedOps.Proofs.Command.Written

/-!
How commands end. The units of a command are built side by side, in whatever order their tasks take their
steps, and all are built before the first is written out. Main statement: a command that fails has written
nothing but a message, and one that does not has built all its units and written out just these, in the
order in which they were named.
-/

namespace PersistedOps

open RecursiveBuild

/-- The identifiers of a unit that has been built are those of its merged operations, in their order. -/
theorem RecursiveBuild.Builds.exists_merged {σ : Type} [UnitSource σ] {source : σ} {options : Options}
    {path : String} {p : Processed} (h : Builds source options .registry path p) :
    ∃ m, Merged.ofDocuments p.documents = .ok m ∧
      m.operations.map Prod.fst = p.identifiers.map fun e => Scalar.text e.1 := by
  obtain ⟨depth, hdepth⟩ := h
  cases depth with
  | zero => cases hdepth
  | succ depth =>
      obtain ⟨text, unit, lists, -, -, hp⟩ := buildWithin_succ_eq_ok_iff.mp hdepth
      obtain ⟨operations, hoperations, rfl⟩ := ofDocuments_eq_ok_iff.mp hp
      obtain ⟨m, _, hm, -, -, hsigned⟩ := SignedOperation.exists_merged hoperations
      refine ⟨m, hm, ?_⟩
      rw [Processed.identifiers, List.map_map]
      exact map_eq_map_iff.mpr (hsigned.imp fun _ _ hpair => hpair.1)

namespace Logging

/-- All handlers of a configuration write to standard error. -/
def WritesToErrors (config : Json) : Prop :=
  ∀ handlers name handler, config.get? "handlers" = some handlers →
    handlers.get? name = some handler → handler.get? "stream" = some (.str "ext://sys.stderr")

theorem writesToErrors_default (env : Environment) : WritesToErrors (defaultConfiguration env) := by
  rintro handlers name handler ⟨⟩ hhandler
  obtain ⟨front, back, hentries, -⟩ := List.lookup_eq_some_iff.mp hhandler
  have hmem : (name, handler) ∈ front ++ (name, handler) :: back := by simp
  rw [← hentries] at hmem
  cases List.mem_singleton.mp hmem
  rfl

end Logging

namespace Command

open DirectorySource FileTree PersistedOps.Path

variable {argv : List String} {a : Arguments} {s : Setting} {o : Outcome} {paths : List String}
  {units : List Processed}

/-- What a command makes of what its units have come to. -/
def conclude (a : Arguments) (s : Setting) (paths : List String) :
    Except Failure (List Processed) → Ending
  | .error .unexpected => .unexpected
  | .error f => failed s 1 f.message
  | .ok units => emit a s paths units

/-- How a command can end whose settings are in order, whatever the order of the steps in which its units
are built. -/
inductive Ends (a : Arguments) (s : Setting) : Ending → Prop
  | outside {state : Logging.State} (logged : setupLogging a s = .ok state)
      (strange : a.units.mapM ((source a s).relative? s.directory) = none) :
      Ends a s (failed s 2
        ("every unit must live under --root (" ++ FileTree.display (source a s).root ++ ")"))
  | gathered {state : Logging.State} {paths : List String} {chosen : Options}
      {result : Except Failure (List Processed)} (logged : setupLogging a s = .ok state)
      (named : a.units.mapM ((source a s).relative? s.directory) = some paths)
      (chose : options a s.environment = .ok chosen)
      (gathers : Session.Gathers (source a s) chosen Signer.registry paths result) :
      Ends a s (conclude a s paths result)

/-- Taking the steps in the order in which they became ready is one of the orders. -/
theorem ends_of_run (hargs : parse argv = .ok a) (hrun : run argv s = .done o) : Ends a s (.done o) := by
  rw [run, hargs] at hrun
  simp only [perform] at hrun
  split at hrun
  · cases hrun
  · next state hlogged =>
    split at hrun
    · next hstrange =>
      rw [← hrun]
      exact .outside hlogged hstrange
    · next paths hpaths =>
      rw [build] at hrun
      split at hrun
      · cases hrun
      · next chosen hchosen =>
        have hconclude : conclude a s paths
            ((Session.start (source a s) chosen Signer.registry).buildAll paths) = .done o := hrun
        rw [← hconclude]
        refine .gathered hlogged hpaths hchosen (Session.gathers_of_buildAll rfl fun hunexpected => ?_)
        rw [hunexpected] at hconclude
        cases hconclude

/-- What a command has written out: lines for operations, files below a target, or sources. -/
structure Delivers (a : Arguments) (s : Setting) (paths : List String) (units : List Processed)
    (o : Outcome) : Prop where
  listed : a.list = true → o.tree = s.tree ∧ o.output =
    String.join (units.map fun p => String.join (p.identifiers.map fun e => e.1 ++ "\t" ++ e.2 ++ "\n"))
  printed : a.list = false → a.outDir = none → o.tree = s.tree ∧ o.output =
    String.join (units.map fun p => if p.source.endsWith "\n" then p.source else p.source ++ "\n")
  written : a.list = false → ∀ target, a.outDir = some target → o.output = "" ∧
    (∀ location, (∀ path ∈ paths, location ≠ place s.directory (join target path)) →
      o.tree.file? location = s.tree.file? location) ∧
    List.Forall₂ (fun path p =>
      o.tree.find s.directory (join target path) = .file p.source.toUTF8) paths units

/-- Paths that are the same have the same unit. -/
theorem eq_of_mem_zip {σ : Type} [UnitSource σ] {source : σ} {options : Options} {signer : Signer}
    (h : List.Forall₂ (fun path p => ∃ located, UnitSource.locate source path none = .ok located ∧
      Builds source options signer located p) paths units) {u v : String × Processed}
    (hu : u ∈ paths.zip units) (hv : v ∈ paths.zip units) (heq : u.1 = v.1) : u.2 = v.2 := by
  obtain ⟨-, hbuilds⟩ := List.forall₂_iff_zip.mp h
  obtain ⟨located, hlocated, hbuilt⟩ := hbuilds hu
  obtain ⟨located', hlocated', hbuilt'⟩ := hbuilds hv
  rw [heq] at hlocated
  cases hlocated.symm.trans hlocated'
  exact hbuilt.unique hbuilt'

/-- Units that have been built are written out as the arguments ask for. -/
theorem delivers_of_emit (hspells : ∀ path ∈ paths, ∃ names, Spells path names)
    (hlength : paths.length = units.length)
    (hsame : ∀ u ∈ paths.zip units, ∀ v ∈ paths.zip units, u.1 = v.1 → u.2 = v.2)
    (h : emit a s paths units = .done o) : o.status = 0 ∧ Delivers a s paths units o := by
  rw [emit] at h
  cases hlist : a.list with
  | true =>
      rw [hlist, if_pos rfl] at h
      cases h
      have hother (h : a.list = false) : False := Bool.false_ne_true (h.symm.trans hlist)
      exact ⟨rfl, fun _ => ⟨rfl, rfl⟩, fun h => (hother h).elim, fun h => (hother h).elim⟩
  | false =>
      rw [hlist, if_neg Bool.false_ne_true] at h
      have hother (h : a.list = true) : False := Bool.false_ne_true (hlist.symm.trans h)
      cases hout : a.outDir with
      | none =>
          simp only [hout] at h
          cases h
          refine ⟨rfl, fun h => (hother h).elim, fun _ _ => ⟨rfl, rfl⟩, fun _ target htarget => ?_⟩
          cases hout.symm.trans htarget
      | some target =>
          simp only [hout] at h
          split at h
          · next tree hwritten =>
            cases h
            obtain ⟨-, hothers, hfinds⟩ := find_writeAll
              (fun u hu => hspells u.1 (List.of_mem_zip hu).1) hsame hwritten
            refine ⟨rfl, fun h => (hother h).elim, fun _ hnone => ?_, fun _ target' htarget => ?_⟩
            · cases hout.symm.trans hnone
            · cases hout.symm.trans htarget
              refine ⟨rfl, fun location hlocation => hothers location fun u hu => ?_,
                List.forall₂_iff_zip.mpr ⟨hlength, fun {path p} hu => hfinds (path, p) hu⟩⟩
              exact hlocation u.1 (List.of_mem_zip hu).1
          · cases h

/-- Under the default configuration logs go to standard error alone, and a command that ends can do so in
two ways, whatever the order in which its units take their steps. It has failed, and has written nothing to
its output and left all files as they were. Or it has built all its units, and written out these, as they
were named: lines for their merged operations, or files at their paths below the target and no others, or
their sources. -/
theorem fails_or_delivers {c : Logging.Configuration} (hdirectory : ∀ name ∈ s.directory, '/' ∉ name.toList)
    (hargs : parse argv = .ok a)
    (hlogging : (Logging.Configuration.choose none s.environment).load s.environment s.tree s.directory
      = .ok (Logging.defaultConfiguration s.environment, c)) :
    (∀ config c', (Logging.Configuration.choose none s.environment).load s.environment s.tree s.directory
      = .ok (config, c') → Logging.WritesToErrors config) ∧
    (∀ o, run argv s = .done o → Ends a s (.done o)) ∧
    ∀ o, Ends a s (.done o) →
      (o.status = 1 ∨ o.status = 2) ∧ o.output = "" ∧ o.tree = s.tree ∨
      o.status = 0 ∧ ∃ paths chosen units,
        a.units.mapM ((source a s).relative? s.directory) = some paths ∧
        options a s.environment = .ok chosen ∧
        List.Forall₂ (fun path p => ∃ located, (source a s).locate path none = .ok located ∧
          Builds (source a s) chosen Signer.registry located p ∧
          ∃ m, Merged.ofDocuments p.documents = .ok m ∧
            m.operations.map Prod.fst = p.identifiers.map fun e => Scalar.text e.1) paths units ∧
        Delivers a s paths units o := by
  refine ⟨fun config c' hconfig => ?_, fun o => ends_of_run hargs, fun o hends => ?_⟩
  · cases hlogging.symm.trans hconfig
    exact Logging.writesToErrors_default s.environment
  · generalize hending : Ending.done o = ending at hends
    cases hends with
    | outside =>
        cases hending
        exact .inl ⟨.inr rfl, rfl, rfl⟩
    | @gathered _ paths chosen result _ named chose gathers =>
        cases result with
        | error f =>
            cases f <;> cases hending <;> exact .inl ⟨.inl rfl, rfl, rfl⟩
        | ok units =>
            have hbuilds := Session.builds_of_gathers gathers
            have hspells : ∀ path ∈ paths, ∃ names, Spells path names := by
              intro path hpath
              obtain ⟨unit, -, hrelative⟩ := exists_of_mem_left (mapM_eq_some_iff.mp named).flip hpath
              exact exists_spells hdirectory hrelative
            obtain ⟨hstatus, hdelivers⟩ := delivers_of_emit hspells hbuilds.length_eq
              (fun u hu v hv => eq_of_mem_zip hbuilds hu hv) hending.symm
            refine .inr ⟨hstatus, paths, chosen, units, named, chose, hbuilds.imp ?_, hdelivers⟩
            rintro path p ⟨located, hlocated, hbuilt⟩
            exact ⟨located, hlocated, hbuilt, hbuilt.exists_merged⟩

/-- The exit status of a command that ends. -/
def Ending.status? : Ending → Option Nat
  | .done o => some o.status
  | _ => none

def missingArguments : Arguments := { units := ["q.py", "gone.py"], outDir := some "out" }

/-- One of two units is there, and would have been built. -/
theorem fails_or_delivers_missing :
    ∃ o, run ["q.py", "gone.py", "--out-dir", "out"] (settingOf plainUnit) = .done o ∧ o.status = 1 ∧
      o.output = "" ∧ o.tree = (settingOf plainUnit).tree := by
  have hdirectory : ∀ name ∈ (settingOf plainUnit).directory, '/' ∉ name.toList := by decide +kernel
  have hargs : parse ["q.py", "gone.py", "--out-dir", "out"] = .ok missingArguments :=
    eq_ok_of_toOption (by decide +kernel)
  obtain ⟨-, hends, hways⟩ := fails_or_delivers (c := ⟨none, some (Logging.defaultConfiguration [])⟩)
    hdirectory hargs rfl
  have hstatus : (run ["q.py", "gone.py", "--out-dir", "out"] (settingOf plainUnit)).status?
      = some 1 := by decide +kernel
  cases hrun : run ["q.py", "gone.py", "--out-dir", "out"] (settingOf plainUnit) with
  | done o =>
      rw [hrun] at hstatus
      have hone : o.status = 1 := Option.some.inj hstatus
      rcases hways o (hends o hrun) with ⟨-, houtput, htree⟩ | ⟨hzero, -⟩
      · exact ⟨o, rfl, hone, houtput, htree⟩
      · cases hone.symm.trans hzero
  | _ =>
      rw [hrun] at hstatus
      cases hstatus

end Command

end PersistedOps
