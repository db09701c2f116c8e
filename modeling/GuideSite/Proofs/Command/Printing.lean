import GuideSite.Command.Run
import GuideSite.Proofs.Page.Targets
import GuideSite.Proofs.Path.Legible

/-!
# Printed paths

A command that writes files tells of each of them by its path as it is seen from the working directory: the names below
that directory, if it is at the start of the path. Read from the working directory, what is printed is the path of the
file again, since the names that were left out are those of the directory.

* `relativeTo?_eq_some`, `join_seenFrom`: what is left out of a path.
* `parse_display`: nothing else is lost when it is printed.
* `join_display`: a printed path leads to the file.
* `lines_of_generate`, `line_of_emit`: so do the lines of the commands.
-/

namespace GuideSite

namespace Path

variable {p q cwd : Path}

/-! ## Paths seen from a directory -/

/-- The path seen from the working directory: relative if it lies below, else as it is. -/
def seenFrom (p cwd : Path) : Path :=
  if p.isAbsolute then (p.relativeTo? cwd).getD p else p

theorem display_eq (p cwd : Path) : p.display cwd = (p.seenFrom cwd).text := by
  rw [display, seenFrom]
  split <;> rfl

theorem seenFrom_of_relative (h : p.isAbsolute = false) : p.seenFrom cwd = p :=
  if_neg (by simp [h])

theorem seenFrom_of_isAbsolute (h : p.isAbsolute = true) : p.seenFrom cwd = (p.relativeTo? cwd).getD p :=
  if_pos h

theorem relativeTo?_eq_some :
    p.relativeTo? cwd = some q ↔ p.anchor = cwd.anchor ∧ q.anchor = .relative ∧ cwd.names ++ q.names = p.names := by
  rw [relativeTo?]
  split
  · rename_i hanchor
    simp only [Option.map_eq_some_iff, List.isPrefixOf?_eq_some_iff_append_eq, hanchor, true_and]
    constructor
    · rintro ⟨names, hnames, rfl⟩
      exact ⟨rfl, hnames⟩
    · rintro ⟨hrelative, hnames⟩
      exact ⟨q.names, hnames, by rw [← hrelative]⟩
  · rename_i hanchor
    simp [hanchor]

theorem relativeTo?_eq_none : p.relativeTo? cwd = none ↔ ¬(p.anchor = cwd.anchor ∧ cwd.names <+: p.names) := by
  rw [Option.eq_none_iff_forall_ne_some, ← not_exists]
  refine not_congr ⟨?_, ?_⟩
  · rintro ⟨q, hq⟩
    obtain ⟨hanchor, -, hnames⟩ := relativeTo?_eq_some.1 hq
    exact ⟨hanchor, ⟨q.names, hnames⟩⟩
  · rintro ⟨hanchor, names, hnames⟩
    exact ⟨⟨.relative, names⟩, relativeTo?_eq_some.2 ⟨hanchor, rfl, hnames⟩⟩

/-- What is left out of a path is the way to the directory that it is seen from. -/
theorem join_of_relativeTo? (h : p.relativeTo? cwd = some q) : cwd / q = p := by
  obtain ⟨hanchor, hrelative, hnames⟩ := relativeTo?_eq_some.1 h
  rw [div_of_relative hrelative, hnames, ← hanchor]

theorem join_of_isAbsolute (h : p.isAbsolute = true) (cwd : Path) : cwd / p = p := if_pos h

/-- A path leads where it does when it is seen from the directory. -/
theorem join_seenFrom (p cwd : Path) : cwd / p.seenFrom cwd = cwd / p := by
  cases habsolute : p.isAbsolute with
  | false => rw [seenFrom_of_relative habsolute]
  | true =>
    rw [seenFrom_of_isAbsolute habsolute]
    cases hbelow : p.relativeTo? cwd with
    | none => rfl
    | some q => rw [Option.getD_some, join_of_relativeTo? hbelow, join_of_isAbsolute habsolute]

/-- What is seen is relative just if the path is, or if it starts with the directory. -/
theorem isAbsolute_seenFrom (p cwd : Path) :
    (p.seenFrom cwd).isAbsolute = false ↔
      p.isAbsolute = false ∨ p.anchor = cwd.anchor ∧ cwd.names <+: p.names := by
  cases habsolute : p.isAbsolute with
  | false => simp [seenFrom_of_relative habsolute, habsolute]
  | true =>
    rw [seenFrom_of_isAbsolute habsolute]
    cases hbelow : p.relativeTo? cwd with
    | none =>
      have hoff := relativeTo?_eq_none.1 hbelow
      simp [habsolute, hoff]
    | some q =>
      obtain ⟨hanchor, hrelative, hnames⟩ := relativeTo?_eq_some.1 hbelow
      have hstarts : cwd.names <+: p.names := ⟨q.names, hnames⟩
      simp [isAbsolute, hrelative, hanchor, hstarts]

/-! ## Printed paths -/

theorem areNames_seenFrom (h : AreNames p.names) (cwd : Path) : AreNames (p.seenFrom cwd).names := by
  rw [seenFrom]
  split
  · cases hbelow : p.relativeTo? cwd with
    | none => exact h
    | some q =>
      obtain ⟨-, -, hnames⟩ := relativeTo?_eq_some.1 hbelow
      exact h.of_subset (hnames ▸ List.subset_append_right ..)
  · exact h

/-- What is printed is read again. -/
theorem parse_display (h : AreNames p.names) (cwd : Path) : parse (p.display cwd) = p.seenFrom cwd := by
  rw [display_eq, parse_text (areNames_seenFrom h cwd)]

/-- What is printed leads to the path. -/
theorem join_parse_display (h : AreNames p.names) (cwd : Path) : cwd / parse (p.display cwd) = cwd / p := by
  rw [parse_display h, join_seenFrom]

/-- **A printed path leads to the file.** Read from the working directory, what is printed for a path is the path again.
It is relative if the path is, or if the path starts with the anchor and the names of the working directory, and else
absolute. -/
theorem join_display (cwd : Path) (s : String) :
    cwd / parse ((parse s).display cwd) = cwd / parse s ∧
      ((parse ((parse s).display cwd)).isAbsolute = false ↔
        (parse s).isAbsolute = false ∨ (parse s).anchor = cwd.anchor ∧ cwd.names <+: (parse s).names) := by
  refine ⟨join_parse_display (areNames_parse s) cwd, ?_⟩
  rw [parse_display (areNames_parse s), isAbsolute_seenFrom]

example : (parse "/work/site/../a.html").display (parse "/work/site") = "../a.html" ∧
    (parse "/work/sites/a.html").display (parse "/work/site") = "/work/sites/a.html" ∧
    (parse "//work/site/a.html").display (parse "/work/site") = "//work/site/a.html" := by
  decide

end Path

/-- The files of a build have such paths as can be read again, if its directory has. -/
theorem PageBuilder.areNames_of_mem_written {b : PageBuilder} {site : Site} {cwd : Location} {t : FileTree}
    {dir : Option Path} {paths : Option (List String)} {written : List Path}
    (hdir : Path.AreNames (dir.getD site.outputDir).names) (h : (b.run site cwd t dir paths).2 = .ok written)
    {file : Path} (hfile : file ∈ written) : Path.AreNames file.names := by
  obtain ⟨pages, hselected⟩ := selected_of_run h
  rw [run_eq_writePages hselected (shown_of_run hselected h)] at h
  rw [written_eq (Prod.ext rfl h)] at hfile
  obtain ⟨page, -, rfl⟩ := List.mem_map.1 hfile
  exact hdir.join (Path.areNames_parse page.path)

/-! ## Lines of commands -/

namespace Command

open PageBuilder

variable {w : World} {t t' : FileTree} {site : Site} {report : Report}

/-- The line tells of the file: read from the working directory, the path in it is that of the file. -/
def Tells (w : World) (file : Path) (line : String) : Prop :=
  ∃ printed, line = "wrote " ++ printed ∧ w.path / .parse printed = w.path / file

theorem tells_wroteLine {file : Path} (h : Path.AreNames file.names) (w : World) : Tells w file (wroteLine w file) :=
  ⟨file.display w.path, rfl, Path.join_parse_display h w.path⟩

theorem perform_generate (w : World) (t : FileTree) (site : Site) (paths : Option (List String)) (dir : Option Path) :
    (perform w t site (.generate paths dir)).2 =
      ((ofSite site).run site w.cwd t dir paths).2.map fun written => ⟨0, linesOf (written.map (wroteLine w))⟩ := rfl

/-- A build that succeeds reports one line for each file, in the order in which they were written. -/
theorem lines_of_generate {paths : Option (List String)} {dir : Option Path}
    (hdir : Path.AreNames (dir.getD site.outputDir).names)
    (h : (perform w t site (.generate paths dir)).2 = .ok report) :
    ∃ written lines, ((ofSite site).run site w.cwd t dir paths).2 = .ok written ∧ report = ⟨0, linesOf lines⟩ ∧
      List.Forall₂ (Tells w) written lines := by
  rw [perform_generate] at h
  cases hrun : ((ofSite site).run site w.cwd t dir paths).2 with
  | error e =>
    rw [hrun] at h
    cases h
  | ok written =>
    rw [hrun] at h
    refine ⟨written, written.map (wroteLine w), rfl, (Except.ok.inj h).symm, ?_⟩
    rw [List.forall₂_map_right_iff, List.forall₂_same]
    exact fun file hfile => tells_wroteLine (areNames_of_mem_written hdir hrun hfile) w

/-- A fragment that was written to a file is reported by one line. -/
theorem line_of_emit {fragment : String} {output : Path} (houtput : Path.AreNames output.names)
    (h : emit w t fragment (some output) = (t', .ok report)) :
    ∃ line, report = ⟨0, linesOf [line]⟩ ∧ Tells w output line := by
  refine ⟨wroteLine w output, ?_, tells_wroteLine houtput w⟩
  rw [emit] at h
  split at h
  · exact (Except.ok.inj (congrArg Prod.snd h)).symm
  · cases h

end Command

end GuideSite
