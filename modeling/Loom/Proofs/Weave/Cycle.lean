import Loom.Proofs.Path.AbsoluteForm
import Loom.Proofs.Weave.Reachable

/-!
# The start of a search

A search passes over the file that it starts from, which it knows by the path as written, while the
files that it comes across are known by their absolute forms. So an absolute start is never found
again; a relative one is, as soon as a cycle of imports leads back to it.
-/

namespace Loom.ModuleFile

variable {fs : FileSystem} {s : SearchPaths} {m n : ModuleFile} {f : FilePath}
  {found : List ModuleFile}

theorem exists_tree_of_reachable {locate : Locator} (h : m.reachable fs locate = .ok found) :
    ∃ tree, m.tree = some tree := by
  cases loaded : m.tree with
  | some tree => exact ⟨tree, rfl⟩
  | none => simp [reachable, ModuleFile.imports, ModuleFile.loaded, loaded, bind, Except.bind] at h

/-- What is reached has been located. -/
theorem Reached.located {locate : Locator} (h : Reached fs locate m f) :
    ∃ module, LocatedAt fs locate m module f := by
  cases h with
  | start _ located => exact ⟨_, located⟩
  | step _ _ _ located => exact ⟨_, located⟩

/-- A search locates absolute paths. -/
theorem LocatedAt.isAbsolute {module : String} (written : fs.WrittenOut)
    (h : LocatedAt fs (s.locate fs) m module f) : f.isAbsolute = true := by
  obtain ⟨p, -, form⟩ := SearchPaths.locate_eq_ok h.located
  exact FileSystem.isAbsolute_of_absoluteComponents written (FilePath.components_of_absolute? form)

/-- An absolute start is not reached. -/
theorem Reached.not_sameForm (written : fs.WrittenOut) (h : Reached fs (s.locate fs) m f)
    (absolute : m.file.isAbsolute = true) : ¬ fs.SameForm m.file f := by
  intro form
  obtain ⟨module, located⟩ := h.located
  have same := form.same absolute (located.isAbsolute written)
  rw [located.other] at same
  cases same

theorem sameForm_of_same {p g : FilePath} (h : fs.SameForm p f) (same : g.same f = true)
    (g_absolute : g.isAbsolute = true) (f_absolute : f.isAbsolute = true) : fs.SameForm p g := by
  obtain ⟨p_text, -, eq⟩ := FileSystem.sameForm_iff.1 h
  refine FileSystem.sameForm_iff.2 ⟨p_text, ?_, ?_⟩
  · intro empty
    simp [FilePath.isAbsolute, empty] at g_absolute
  · rw [eq, FilePath.absoluteComponents_of_isAbsolute f_absolute,
      FilePath.absoluteComponents_of_isAbsolute g_absolute, FilePath.same_iff.1 same]

/-- A search finds the file that it starts from just if that is written as a relative path and a
cycle of imports leads back to it. -/
theorem exists_start_iff (written : fs.WrittenOut) (h : m.reachable fs (s.locate fs) = .ok found) :
    (∃ n ∈ found, fs.SameForm m.file n.file) ↔
      m.file.isAbsolute = false ∧ ∃ f, Reached fs (s.locate fs) m f ∧ fs.SameForm m.file f := by
  obtain ⟨tree, loaded⟩ := exists_tree_of_reachable h
  obtain ⟨-, -, sound, complete⟩ := (reachable_spec loaded fs (s.locate fs)).2.2 found h
  constructor
  · rintro ⟨n, hn, form⟩
    have reached := (sound n hn).1
    refine ⟨?_, n.file, reached, form⟩
    cases absolute : m.file.isAbsolute with
    | false => rfl
    | true => exact absurd form (reached.not_sameForm written absolute)
  · rintro ⟨-, f, reached, form⟩
    obtain ⟨-, n, hn, same⟩ := complete (SearchPaths.coherent_locate written s) f reached
    obtain ⟨_, n_located⟩ := (sound n hn).1.located
    obtain ⟨_, f_located⟩ := reached.located
    exact ⟨n, hn, sameForm_of_same form same (n_located.isAbsolute written)
      (f_located.isAbsolute written)⟩

/-- The module in a file of the cycle. -/
def inCycle (p : FilePath) : ModuleFile :=
  { ofFile cycle.workingDir p none with tree := cycle.treeAt? p }

theorem exists_start_iff_absolute :
    cycle.WrittenOut ∧ ∃ found,
      (inCycle ⟨"/x.json"⟩).reachable cycle (below.locate cycle) = .ok found ∧
      found.map (·.file) = [⟨"/y.json"⟩] ∧ ¬ ∃ n ∈ found, cycle.SameForm ⟨"/x.json"⟩ n.file := by
  have written : cycle.WrittenOut := ⟨[], by simp, rfl⟩
  have files : ((inCycle ⟨"/x.json"⟩).reachable cycle (below.locate cycle)).toOption.map
      (fun found => found.map (·.file)) = some [⟨"/y.json"⟩] := by
    decide +kernel
  obtain ⟨found, h, files⟩ := Option.map_eq_some_iff.1 files
  replace h := Except.toOption_eq_some.1 h
  refine ⟨written, found, h, files, fun again => ?_⟩
  obtain ⟨relative, -⟩ := (exists_start_iff written h).1 again
  exact Bool.noConfusion relative

/-- From a relative path the search leads around the cycle to its start. -/
theorem finds_relative_start :
    ∃ found, (inCycle ⟨"x.json"⟩).reachable cycle (below.locate cycle) = .ok found ∧
      ∃ n ∈ found, cycle.SameForm (inCycle ⟨"x.json"⟩).file n.file := by
  have files : ((inCycle ⟨"x.json"⟩).reachable cycle (below.locate cycle)).toOption.map
      (fun found => found.map (·.file)) = some [⟨"/y.json"⟩, ⟨"/x.json"⟩] := by
    decide +kernel
  obtain ⟨found, h, files⟩ := Option.map_eq_some_iff.1 files
  refine ⟨found, Except.toOption_eq_some.1 h, ?_⟩
  have last : ⟨"/x.json"⟩ ∈ found.map (·.file) := by simp [files]
  obtain ⟨n, hn, file⟩ := List.mem_map.1 last
  exact ⟨n, hn, ⟨"/x.json"⟩, ⟨"/x.json"⟩, rfl, by rw [file]; rfl, by decide⟩

end Loom.ModuleFile
