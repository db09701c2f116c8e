import GuideSite.Path.Depth
import GuideSite.Proofs.Path.Trimmed

/-!
# The steps from a page to the root

A page is asked for by a text that is read three times: when it is accepted, when the steps to the root are counted, and
when its file is written. The count strips the text once more, and this is seen just where the blanks that it drops are
the whole name of a directory, or all but a dot of it: `hidesDirectory` tells these paths.

* `lexicalFrom_append`, `lexicalFrom_up`: names are resolved one after the other, and steps upwards undo as many names.
* `toRoot_eq_climb`, `toRoot_of_hidesDirectory`: the steps of a page by the names of its path.
* `leads_climb`: a link after that many steps leads where the link alone leads from the root.
-/

namespace GuideSite

namespace Path

/-! ## Resolving names -/

theorem lexicalFrom_nil (above : List String) : lexicalFrom above [] = above.reverse := rfl

theorem lexicalFrom_cons_of_not_isName {segment : String} (h : isName segment = false) (above rest : List String) :
    lexicalFrom above (segment :: rest) = lexicalFrom above rest :=
  if_pos (by simpa [isName, imp_iff_not_or] using h)

theorem lexicalFrom_cons {segment : String} (h : isName segment = true) (hup : segment ≠ "..")
    (above rest : List String) :
    lexicalFrom above (segment :: rest) = lexicalFrom (segment :: above) rest :=
  (if_neg (by simpa [isName] using h)).trans (if_neg hup)

/-- A step upwards stays where there is nothing to undo. -/
theorem lexicalFrom_up_nil (rest : List String) : lexicalFrom [] (".." :: rest) = lexicalFrom [".."] rest := rfl

theorem lexicalFrom_up_up (above rest : List String) :
    lexicalFrom (".." :: above) (".." :: rest) = lexicalFrom (".." :: ".." :: above) rest := rfl

/-- A step upwards undoes the name before it. -/
theorem lexicalFrom_up_cons {name : String} (h : name ≠ "..") (above rest : List String) :
    lexicalFrom (name :: above) (".." :: rest) = lexicalFrom above rest := by
  calc lexicalFrom (name :: above) (".." :: rest)
      = if name = ".." then lexicalFrom (".." :: name :: above) rest else lexicalFrom above rest := rfl
    _ = lexicalFrom above rest := if_neg h

/-- Names are resolved one after the other. -/
theorem lexicalFrom_append (above xs ys : List String) :
    lexicalFrom above (xs ++ ys) = lexicalFrom (lexicalFrom above xs).reverse ys := by
  induction xs generalizing above with
  | nil => simp [lexicalFrom_nil]
  | cons x xs ih =>
    rw [List.cons_append]
    cases hname : isName x with
    | false => rw [lexicalFrom_cons_of_not_isName hname, ih, lexicalFrom_cons_of_not_isName hname]
    | true =>
      by_cases hup : x = ".."
      · subst hup
        cases above with
        | nil => rw [lexicalFrom_up_nil, ih, lexicalFrom_up_nil]
        | cons top below =>
          by_cases htop : top = ".."
          · subst htop
            rw [lexicalFrom_up_up, ih, lexicalFrom_up_up]
          · rw [lexicalFrom_up_cons htop, ih, lexicalFrom_up_cons htop]
      · rw [lexicalFrom_cons hname hup, ih, lexicalFrom_cons hname hup]

/-- Segments that name nothing change nothing. -/
theorem lexicalFrom_filter (above xs : List String) :
    lexicalFrom above (xs.filter isName) = lexicalFrom above xs := by
  induction xs generalizing above with
  | nil => rfl
  | cons x xs ih =>
    cases hx : isName x with
    | false => rw [List.filter_cons_of_neg (by simp [hx]), ih, lexicalFrom_cons_of_not_isName hx]
    | true =>
      rw [List.filter_cons_of_pos hx]
      calc lexicalFrom above (x :: xs.filter isName)
          = lexicalFrom (lexicalFrom above [x]).reverse (xs.filter isName) := lexicalFrom_append above [x] _
        _ = lexicalFrom (lexicalFrom above [x]).reverse xs := ih _
        _ = lexicalFrom above (x :: xs) := (lexicalFrom_append above [x] xs).symm

/-- Names that lead downwards are all kept. -/
theorem lexicalFrom_of_down {names : List String} (hnames : ∀ name ∈ names, isName name = true) (hdown : ".." ∉ names)
    (above : List String) : lexicalFrom above names = above.reverse ++ names := by
  induction names generalizing above with
  | nil => simp [lexicalFrom_nil]
  | cons name names ih =>
    obtain ⟨hname, hnames⟩ := List.forall_mem_cons.1 hnames
    obtain ⟨hne, hdown⟩ := List.ne_and_not_mem_of_not_mem_cons hdown
    rw [lexicalFrom_cons hname (Ne.symm hne), ih hnames hdown]
    simp

/-- As many steps upwards undo as many names. -/
theorem lexicalFrom_up {names : List String} (hdown : ".." ∉ names) (above rest : List String) :
    lexicalFrom (names ++ above) (List.replicate names.length ".." ++ rest) = lexicalFrom above rest := by
  induction names with
  | nil => rfl
  | cons name names ih =>
    obtain ⟨hne, hdown⟩ := List.ne_and_not_mem_of_not_mem_cons hdown
    rw [List.length_cons, List.replicate_succ, List.cons_append, List.cons_append,
      lexicalFrom_up_cons (Ne.symm hne), ih hdown]

/-- Going down and then up by as many steps leads back. -/
theorem lexicalFrom_down_up {names : List String} (hnames : ∀ name ∈ names, isName name = true) (hdown : ".." ∉ names)
    (above rest : List String) :
    lexicalFrom above (names ++ (List.replicate names.length ".." ++ rest)) = lexicalFrom above rest := by
  have hdown' : ".." ∉ names.reverse := fun hmem => hdown (List.mem_reverse.1 hmem)
  rw [lexicalFrom_append, lexicalFrom_of_down hnames hdown, List.reverse_append, List.reverse_reverse,
    ← List.length_reverse, lexicalFrom_up hdown']

/-- As many names are left as there were, if only the first may lead upwards: nothing stands before it to undo. -/
theorem length_lexicalFrom {first : String} {others : List String} (hdown : ".." ∉ others) :
    (lexicalFrom [] (first :: others)).length = ((first :: others).filter isName).length := by
  have hothers : ∀ above, (lexicalFrom above others).length = above.length + (others.filter isName).length := by
    intro above
    rw [← lexicalFrom_filter, lexicalFrom_of_down (fun name h => List.of_mem_filter h)
      (fun h => hdown (List.mem_of_mem_filter h))]
    simp
  cases hname : isName first with
  | false =>
    rw [lexicalFrom_cons_of_not_isName hname, hothers, List.filter_cons_of_neg (by simp [hname])]
    exact Nat.zero_add _
  | true =>
    rw [List.filter_cons_of_pos hname, List.length_cons, Nat.add_comm]
    by_cases hup : first = ".."
    · rw [hup, lexicalFrom_up_nil, hothers]
      rfl
    · rw [lexicalFrom_cons hname hup, hothers]
      rfl

/-! ## Counting the steps -/

/-- As many names are counted for a page as its path has without the blanks it starts with. -/
theorem length_lexical_trimmed {page : String} (h : Text.EndsPlain page) (hinside : ".." ∉ segments page) :
    (lexical (Text.dropSlashes (Text.strip page))).length =
      (((segments page).modifyHead Text.dropBlanks).filter isName).length := by
  rw [lexical, ← lexicalFrom_filter, filter_isName_segments_dropSlashes, lexicalFrom_filter,
    Text.strip_eq_dropBlanks h, segments_dropBlanks]
  cases hsegments : segments page with
  | nil => rfl
  | cons first others =>
    rw [hsegments] at hinside
    exact length_lexicalFrom (List.not_mem_of_not_mem_cons hinside)

/-- The path has a directory whose name is lost with the blanks that the path starts with. -/
def hidesDirectory (page : String) : Bool :=
  match segments page with
  | [] => false
  | first :: others => isName first && !isName (Text.dropBlanks first) && others.any isName

/-- The text of `n` steps upwards. -/
def climb (n : Nat) : String := String.join (List.replicate n "../")

theorem toRoot_eq (page : String) :
    toRoot page = climb ((lexical (Text.dropSlashes (Text.strip page))).length - 1) := rfl

theorem isName_of_dropBlanks {segment : String} (h : isName (Text.dropBlanks segment) = true) :
    isName segment = true := by
  by_contra hnot
  have hcases : segment = "" ∨ segment = "." := by simpa [isName, imp_iff_not_or] using hnot
  obtain rfl | rfl := hcases <;> revert h <;> decide

/-- A page that hides no directory has a step for each name before the last. -/
theorem toRoot_eq_climb {page : String} (h : Text.EndsPlain page) (hinside : ".." ∉ segments page)
    (hhides : hidesDirectory page = false) : toRoot page = climb ((parse page).names.length - 1) := by
  rw [toRoot_eq, length_lexical_trimmed h hinside, parse]
  rw [hidesDirectory] at hhides
  cases hsegments : segments page with
  | nil => rfl
  | cons first others =>
    rw [hsegments] at hhides
    dsimp only at hhides ⊢
    rw [List.modifyHead_cons]
    cases htrimmed : isName (Text.dropBlanks first) with
    | true => rw [List.filter_cons_of_pos htrimmed, List.filter_cons_of_pos (isName_of_dropBlanks htrimmed)]; rfl
    | false =>
      rw [List.filter_cons_of_neg (by simp [htrimmed])]
      cases hname : isName first with
      | false => rw [List.filter_cons_of_neg (by simp [hname])]
      | true =>
        -- The hidden directory would be the only name.
        have hothers : others.filter isName = [] := by simpa [htrimmed, hname] using hhides
        rw [List.filter_cons_of_pos hname, hothers]
        rfl

/-- A page that hides a directory lacks a step. -/
theorem toRoot_of_hidesDirectory {page : String} (h : Text.EndsPlain page) (hinside : ".." ∉ segments page)
    (hhides : hidesDirectory page = true) :
    2 ≤ (parse page).names.length ∧ toRoot page = climb ((parse page).names.length - 2) := by
  rw [toRoot_eq, length_lexical_trimmed h hinside, parse]
  rw [hidesDirectory] at hhides
  cases hsegments : segments page with
  | nil => simp [hsegments] at hhides
  | cons first others =>
    rw [hsegments] at hhides
    dsimp only at hhides ⊢
    simp only [Bool.and_eq_true, Bool.not_eq_true'] at hhides
    obtain ⟨⟨hname, htrimmed⟩, hothers⟩ := hhides
    rw [List.modifyHead_cons, List.filter_cons_of_pos hname, List.filter_cons_of_neg (by simp [htrimmed]),
      List.length_cons]
    obtain ⟨name, hmem, hname'⟩ := List.any_eq_true.1 hothers
    have hpos : 0 < (others.filter isName).length :=
      List.length_pos_of_mem (List.mem_filter.2 ⟨hmem, hname'⟩)
    exact ⟨by omega, by congr 1⟩

example : hidesDirectory " /x.html" = true ∧ toRoot " /x.html" = "" ∧ (parse " /x.html").names = [" ", "x.html"] := by
  decide

/-! ## Following links -/

theorem toList_climb (n : Nat) : (climb n).toList = (List.replicate n ['.', '.', '/']).flatten := by
  rw [climb, String.toList_join, List.flatMap_def, List.map_replicate]
  rfl

theorem climb_injective : Function.Injective climb := by
  intro m n h
  have hlength : m * 3 = n * 3 := by simpa [toList_climb] using congrArg (List.length ∘ String.toList) h
  omega

theorem splitOn_climb_append (n : Nat) (cs : List Char) :
    ((climb n).toList ++ cs).splitOn '/' = List.replicate n ['.', '.'] ++ cs.splitOn '/' := by
  rw [toList_climb]
  induction n with
  | zero => rfl
  | succ n ih =>
    have hslash : '/' ∉ ['.', '.'] := by decide
    have hsplit := List.splitOn_append_cons_self_of_not_mem hslash
      ((List.replicate n ['.', '.', '/']).flatten ++ cs)
    rw [List.replicate_succ, List.flatten_cons, List.append_assoc]
    exact hsplit.trans (congrArg (['.', '.'] :: ·) ih)

theorem segments_climb_append (n : Nat) (s : String) :
    segments (climb n ++ s) = List.replicate n ".." ++ segments s := by
  rw [segments, String.toList_append, splitOn_climb_append, List.map_append, List.map_replicate]
  rfl

theorem names_climb_append (n : Nat) (s : String) :
    (parse (climb n ++ s)).names = List.replicate n ".." ++ (parse s).names := by
  have hup : (List.replicate n "..").filter isName = List.replicate n ".." :=
    List.filter_eq_self.2 fun name hmem => by rw [List.eq_of_mem_replicate hmem]; decide
  simp only [parse, segments_climb_append, List.filter_append, hup]

theorem anchorOf_climb_append {n : Nat} (h : n ≠ 0) (s : String) : anchorOf (climb n ++ s) = .relative := by
  obtain ⟨n, rfl⟩ := Nat.exists_eq_succ_of_ne_zero h
  rw [anchorOf, String.toList_append, toList_climb, List.replicate_succ, List.flatten_cons]
  rfl

/-- The path with `..` resolved on its names alone; nothing is above the root. -/
def resolved (p : Path) : Path :=
  ⟨p.anchor, if p.isAbsolute then (lexicalFrom [] p.names).dropWhile (· = "..") else lexicalFrom [] p.names⟩

theorem resolved_congr {p q : Path} (hanchor : p.anchor = q.anchor)
    (hnames : lexicalFrom [] p.names = lexicalFrom [] q.names) : p.resolved = q.resolved := by
  have habsolute : p.isAbsolute = q.isAbsolute := by rw [isAbsolute, isAbsolute, hanchor]
  rw [resolved, resolved, hanchor, habsolute, hnames]

/-- The link of a file leads where a link of the output directory does. -/
def Leads (file : Path) (href : String) (target : Path) : Prop :=
  (file.parent / parse href).resolved = target.resolved

/-- After a step for each directory above the file, a link leads below the output directory. Without a step, a link
with a slash before it leaves that directory. -/
theorem leads_climb {page : Path} (hrelative : page.anchor = .relative) (hne : page.names ≠ [])
    (hnames : ∀ name ∈ page.names, isName name = true) (hdown : ".." ∉ page.names) (out : Path) (link : String) :
    Leads (out / page) (climb (page.names.length - 1) ++ link)
      (out / parse (if page.names.length = 1 then link else Text.dropSlashes link)) := by
  have hparent : (out / page).parent = ⟨out.anchor, out.names ++ page.names.dropLast⟩ := by
    rw [div_of_relative hrelative, parent, List.dropLast_append_of_ne_nil hne]
  rw [Leads, hparent]
  split
  · rename_i hone
    have hnil : page.names.dropLast = [] := List.eq_nil_of_length_eq_zero (by simp [hone])
    rw [hone, hnil, List.append_nil]
    exact congrArg (fun href => (out / parse href).resolved) (String.empty_append ..)
  · rename_i hmany
    have hpos : page.names.length - 1 ≠ 0 := by
      have := List.length_pos_of_ne_nil hne
      omega
    have hsublist := List.dropLast_sublist page.names
    have hback := lexicalFrom_down_up (fun name h => hnames name (hsublist.subset h)) (fun h => hdown (hsublist.subset h))
      (lexicalFrom [] out.names).reverse (parse link).names
    rw [List.length_dropLast] at hback
    rw [div_of_relative (anchorOf_climb_append hpos link), div_of_relative (anchorOf_dropSlashes link)]
    refine resolved_congr rfl ?_
    rw [names_climb_append, names_dropSlashes, List.append_assoc, lexicalFrom_append, hback, ← lexicalFrom_append]

/-! ## Directories -/

/-- How many directories a file below an output directory has between them. -/
def directoriesBetween (out file : Path) : Nat :=
  ((file.relativeTo? out).map fun below => below.names.length - 1).getD 0

theorem isPrefixOf?_append (xs ys : List String) : xs.isPrefixOf? (xs ++ ys) = some ys := by
  induction xs with
  | nil => rfl
  | cons x xs ih => simp [List.isPrefixOf?, ih]

theorem directoriesBetween_join {page : Path} (hrelative : page.anchor = .relative) (out : Path) :
    directoriesBetween out (out / page) = page.names.length - 1 := by
  rw [directoriesBetween, relativeTo?, div_of_relative hrelative, if_pos rfl, isPrefixOf?_append]
  rfl

end Path

end GuideSite
