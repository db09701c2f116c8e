import GuideSite.Proofs.Path.Depth
import GuideSite.Proofs.Path.Legible

/-!
# The depth of a page on a stack

When names are resolved, a step upwards with nothing to undo is kept. A stack has no place for such a step: each name
is pushed, a step upwards pops the one before it, and where there is none the stack fails. As long as it does not, it
holds the names that resolving gives, so there is a step to the root for each name on it but the last. The stack then
tells which changes of a text matter for that number, and which do not.

* `lexicalFrom_of_stackFrom`: the stack holds the resolved names.
* `length_stackFrom_insert`: a name more makes the stack grow by one.
* `toRoot_eq_directoryText`: the steps, counted on the text of the directory.
* `toRoot_of_stack`: the steps, counted on the stack.
-/

namespace GuideSite.Path

variable {above names segs before after : List String} {name last segment page : String}

/-! ## The stack -/

/-- The stack after some segments, the last name first; nothing once a step upwards finds no name before it. -/
def stackFrom (above : List String) : List String → Option (List String)
  | [] => some above
  | segment :: rest =>
    if segment = "" ∨ segment = "." then stackFrom above rest
    else if segment = ".." then
      match above with
      | [] => none
      | _ :: below => stackFrom below rest
    else stackFrom (segment :: above) rest

theorem stackFrom_cons_of_not_isName (h : isName segment = false) (above rest : List String) :
    stackFrom above (segment :: rest) = stackFrom above rest :=
  if_pos (isName_eq_false_iff.1 h)

theorem stackFrom_cons (h : isName segment = true) (hup : segment ≠ "..") (above rest : List String) :
    stackFrom above (segment :: rest) = stackFrom (segment :: above) rest :=
  (if_neg (isName_iff.1 h)).trans (if_neg hup)

theorem stackFrom_up_nil (rest : List String) : stackFrom [] (".." :: rest) = none := rfl

theorem stackFrom_up_cons (top : String) (below rest : List String) :
    stackFrom (top :: below) (".." :: rest) = stackFrom below rest := rfl

/-- The stack holds the resolved names. No step upwards is on it, so none keeps another from undoing a name. -/
theorem lexicalFrom_of_stackFrom (hup : ".." ∉ above) (h : stackFrom above segs = some names) :
    lexicalFrom above segs = names.reverse := by
  fun_induction stackFrom above segs with
  | case1 above =>
    obtain rfl := Option.some.inj h
    rfl
  | case2 above segment rest hnone ih =>
    rw [lexicalFrom_cons_of_not_isName (isName_eq_false_iff.2 hnone), ih hup h]
  | case3 rest => cases h
  | case4 rest _ top below ih =>
    obtain ⟨htop, hbelow⟩ := List.ne_and_not_mem_of_not_mem_cons hup
    rw [lexicalFrom_up_cons htop.symm, ih hbelow h]
  | case5 above segment rest hnone hsegment ih =>
    have hpushed : ".." ∉ segment :: above := List.not_mem_cons_of_ne_of_not_mem (Ne.symm hsegment) hup
    rw [lexicalFrom_cons (isName_iff.2 hnone) hsegment, ih hpushed h]

theorem stackFrom_append (above xs ys : List String) :
    stackFrom above (xs ++ ys) = (stackFrom above xs).bind (stackFrom · ys) := by
  fun_induction stackFrom above xs with
  | case1 above => rfl
  | case2 above segment rest hnone ih =>
    rw [List.cons_append, stackFrom_cons_of_not_isName (isName_eq_false_iff.2 hnone), ih]
  | case3 rest => rw [List.cons_append, stackFrom_up_nil, Option.bind_none]
  | case4 rest _ top below ih => rw [List.cons_append, stackFrom_up_cons, ih]
  | case5 above segment rest hnone hsegment ih =>
    rw [List.cons_append, stackFrom_cons (isName_iff.2 hnone) hsegment, ih]

/-- From a stack with one name more, the same segments lead to one with one name more. -/
theorem length_stackFrom_of_longer {above' : List String} (hlength : above'.length = above.length + 1)
    (h : stackFrom above segs = some names) :
    ∃ names', stackFrom above' segs = some names' ∧ names'.length = names.length + 1 := by
  fun_induction stackFrom above segs generalizing above' with
  | case1 above =>
    obtain rfl := Option.some.inj h
    exact ⟨above', rfl, hlength⟩
  | case2 above segment rest hnone ih =>
    rw [stackFrom_cons_of_not_isName (isName_eq_false_iff.2 hnone)]
    exact ih hlength h
  | case3 rest => cases h
  | case4 rest _ top below ih =>
    obtain ⟨top', below', rfl⟩ := List.exists_cons_of_length_eq_add_one hlength
    rw [stackFrom_up_cons]
    exact ih (Nat.succ.inj hlength) h
  | case5 above segment rest hnone hsegment ih =>
    rw [stackFrom_cons (isName_iff.2 hnone) hsegment]
    exact ih (by simpa using hlength) h

/-- A name more makes the stack grow by one, wherever it is put. -/
theorem length_stackFrom_insert (hname : isName name = true) (hup : name ≠ "..")
    (h : stackFrom above (before ++ after) = some names) :
    ∃ names', stackFrom above (before ++ name :: after) = some names' ∧ names'.length = names.length + 1 := by
  rw [stackFrom_append] at h ⊢
  obtain ⟨middle, hmiddle, hafter⟩ := Option.bind_eq_some_iff.1 h
  rw [hmiddle, Option.bind_some, stackFrom_cons hname hup]
  exact length_stackFrom_of_longer rfl hafter

/-! ## The text of the directory -/

/-- The text of a page that its steps are counted on: neither blanks nor slashes are before it, and no blanks after. -/
def countedText (page : String) : String := Text.dropSlashes (Text.strip page)

/-- What a text has before its last slash, without the slashes at the end of that, unless it is made of slashes. -/
def directoryText (s : String) : String :=
  let head := s.toList.rdropWhile (· ≠ '/')
  let bare := head.rdropWhile (· == '/')
  String.ofList (if bare = [] then head else bare)

/-- Resolving names gives names. -/
theorem areNames_lexicalFrom (habove : AreNames above) (hsegs : ∀ segment ∈ segs, '/' ∉ segment.toList) :
    AreNames (lexicalFrom above segs) := by
  fun_induction lexicalFrom above segs with
  | case1 above => exact habove.of_subset (List.reverse_subset.2 (List.Subset.refl _))
  | case2 above segment rest hnone ih => exact ih habove (List.forall_mem_cons.1 hsegs).2
  | case3 rest _ ih => exact ih (by decide) (List.forall_mem_cons.1 hsegs).2
  | case4 rest _ below ih => exact ih (habove.cons (by decide) (by decide)) (List.forall_mem_cons.1 hsegs).2
  | case5 rest top below _ _ ih => exact ih (List.forall_mem_cons.1 habove).2 (List.forall_mem_cons.1 hsegs).2
  | case6 above segment rest hnone _ ih =>
    obtain ⟨hsegment, hrest⟩ := List.forall_mem_cons.1 hsegs
    exact ih (habove.cons (isName_iff.2 hnone) hsegment) hrest

theorem rdropWhile_append_of_forall {p : Char → Bool} {cs : List Char} (h : ∀ c ∈ cs, p c = true) (before : List Char) :
    (before ++ cs).rdropWhile p = before.rdropWhile p := by
  rw [List.rdropWhile, List.reverse_append, List.dropWhile_append_of_pos (by simpa using h)]
  rfl

theorem rdropWhile_name (h : '/' ∉ last.toList) (before : List Char) :
    (before ++ last.toList).rdropWhile (· ≠ '/') = before.rdropWhile (· ≠ '/') :=
  rdropWhile_append_of_forall (fun c hc => by simpa using ne_of_mem_of_not_mem hc h) before

theorem rdropWhile_intercalate (h : AreNames names) :
    (String.intercalate "/" names).toList.rdropWhile (· == '/') = (String.intercalate "/" names).toList := by
  rw [List.rdropWhile_eq_self_iff]
  intro hne hlast
  exact getLast?_intercalate h (eq_of_beq hlast ▸ List.getLast?_eq_some_getLast hne)

theorem toList_intercalate_ne_nil (h : AreNames names) (hne : names ≠ []) :
    (String.intercalate "/" names).toList ≠ [] := by
  intro hnil
  refine empty_not_mem_segments h hne ?_
  rw [segments, hnil]
  decide

/-- The directory of names with slashes between them has all names but the last. -/
theorem directoryText_intercalate (h : AreNames (names ++ [last])) :
    directoryText (String.intercalate "/" (names ++ [last])) = String.intercalate "/" names := by
  obtain ⟨hnames, hlast⟩ := List.forall_mem_append.1 h
  have hslash : '/' ∉ last.toList := (hlast last (List.mem_singleton_self _)).2
  by_cases hne : names = []
  · have hhead : last.toList.rdropWhile (· ≠ '/') = [] := by
      simpa using rdropWhile_name hslash []
    rw [hne, List.nil_append, String.intercalate_singleton, directoryText, hhead]
    rfl
  · have htext : (String.intercalate "/" (names ++ [last])).toList =
        (String.intercalate "/" names).toList ++ ['/'] ++ last.toList := by
      rw [String.intercalate_append_of_ne_nil hne (by simp), String.intercalate_singleton, String.toList_append,
        String.toList_append]
      rfl
    have hhead : (String.intercalate "/" (names ++ [last])).toList.rdropWhile (· ≠ '/') =
        (String.intercalate "/" names).toList ++ ['/'] := by
      rw [htext, rdropWhile_name hslash, List.rdropWhile_concat_neg _ _ _ (by simp)]
    have hbare : ((String.intercalate "/" names).toList ++ ['/']).rdropWhile (· == '/') =
        (String.intercalate "/" names).toList := by
      rw [List.rdropWhile_concat_pos _ _ _ (by simp), rdropWhile_intercalate hnames]
    rw [directoryText, hhead, hbare, if_neg (toList_intercalate_ne_nil hnames hne), String.ofList_toList]

/-- The steps of a page are those of the directory of its text, once `..` is resolved in it: one for each name of the
directory. -/
theorem toRoot_eq_directoryText (page : String) :
    toRoot page =
      let directory := directoryText (text ⟨.relative, lexical (countedText page)⟩)
      if directory = "" ∨ directory = "." then "" else climb ((segments directory).filter (· ≠ "")).length := by
  have hnames : AreNames (lexical (countedText page)) :=
    areNames_lexicalFrom areNames_nil fun _ => not_mem_of_mem_segments
  rw [toRoot_eq, ← countedText]
  dsimp only
  obtain hnil | ⟨names, last, hlexical⟩ := List.eq_nil_or_concat' (lexical (countedText page))
  · rw [hnil]
    decide
  · rw [hlexical] at hnames ⊢
    have htext : text ⟨.relative, names ++ [last]⟩ = String.intercalate "/" (names ++ [last]) := by
      rw [text, if_neg (by simp), Anchor.text, String.empty_append]
    have hbefore : AreNames names := hnames.of_subset (List.subset_append_left ..)
    rw [htext, directoryText_intercalate hnames, List.length_append, List.length_singleton, Nat.add_sub_cancel]
    by_cases hne : names = []
    · rw [hne]
      decide
    · have hdirectory : ¬(String.intercalate "/" names = "" ∨ String.intercalate "/" names = ".") := by
        rintro (hempty | hplace)
        · exact toList_intercalate_ne_nil hbefore hne (hempty ▸ rfl)
        · have hsegments := segments_intercalate hbefore hne
          rw [hplace] at hsegments
          exact absurd (hbefore "." (hsegments ▸ by decide)).1 (by decide)
      have hfilter : names.filter (· ≠ "") = names := by
        refine List.filter_eq_self.2 fun name hmem => ?_
        have hname := isName_iff.1 (hbefore name hmem).1
        exact decide_eq_true fun hempty => hname (.inl hempty)
      rw [if_neg hdirectory, segments_intercalate hbefore hne, hfilter]

/-! ## Steps of a page -/

theorem toRoot_eq_of_lexicalFrom {page' : String}
    (h : lexicalFrom [] (segments (countedText page')) = lexicalFrom [] (segments (countedText page))) :
    toRoot page' = toRoot page :=
  congrArg (fun names : List String => climb (names.length - 1)) h

theorem toRoot_of_stackFrom (h : stackFrom [] (segments (countedText page)) = some names) :
    toRoot page = climb (names.length - 1) := by
  have hresolved : lexical (countedText page) = names.reverse := lexicalFrom_of_stackFrom List.not_mem_nil h
  rw [countedText] at hresolved
  rw [toRoot_eq, hresolved, List.length_reverse]

theorem climb_succ (n : Nat) : climb (n + 1) = "../" ++ climb n := by
  rw [climb, List.replicate_succ, String.join_cons]
  rfl

theorem segments_append_slash (s : String) : segments (s ++ "/") = segments s ++ [""] := by
  have hsplit : (s.toList ++ ['/']).splitOn '/' = s.toList.splitOn '/' ++ [[]] :=
    List.splitOn_append_cons_self ..
  rw [segments, String.toList_append, show "/".toList = ['/'] from rfl, hsplit, List.map_append]
  rfl

/-- A segment that names nothing adds no step. -/
theorem toRoot_of_not_isName {page' : String} (hsegment : isName segment = false)
    (h : segments (countedText page) = before ++ after)
    (h' : segments (countedText page') = before ++ segment :: after) :
    toRoot page' = toRoot page :=
  toRoot_eq_of_lexicalFrom (by
    rw [h, h', lexicalFrom_append, lexicalFrom_append, lexicalFrom_cons_of_not_isName hsegment])

/-- A name and the step upwards that undoes it add no step. -/
theorem toRoot_of_undone {page' : String} (hname : isName name = true) (hup : name ≠ "..")
    (h : segments (countedText page) = before ++ after)
    (h' : segments (countedText page') = before ++ name :: ".." :: after) :
    toRoot page' = toRoot page :=
  toRoot_eq_of_lexicalFrom (by
    rw [h, h', lexicalFrom_append, lexicalFrom_append, lexicalFrom_cons hname hup, lexicalFrom_up_cons hup])

/-- **The depth of a page is that of a stack.** As long as no step upwards finds the stack empty, there is a step to the
root for each name on it but the last. A slash at the end, a segment that names nothing and a name that is undone add no
step; any other name adds one, if there is a page for it to be a directory of. -/
theorem toRoot_of_stack (h : stackFrom [] (segments (countedText page)) = some names) :
    toRoot page = climb (names.length - 1) ∧
    ∀ page', (countedText page' = countedText page ++ "/" → toRoot page' = toRoot page) ∧
      ∀ before after, segments (countedText page) = before ++ after →
        (∀ segment, isName segment = false → segments (countedText page') = before ++ segment :: after →
          toRoot page' = toRoot page) ∧
        ∀ name, isName name = true → name ≠ ".." →
          (segments (countedText page') = before ++ name :: ".." :: after → toRoot page' = toRoot page) ∧
          (segments (countedText page') = before ++ name :: after → names ≠ [] →
            toRoot page' = "../" ++ toRoot page) := by
  have hsteps := toRoot_of_stackFrom h
  refine ⟨hsteps, fun page' => ⟨fun hslash => ?_, fun before after hsplit => ⟨?_, ?_⟩⟩⟩
  · have hempty : isName "" = false := by decide
    exact toRoot_of_not_isName hempty (List.append_nil _).symm (by rw [hslash, segments_append_slash])
  · exact fun segment hsegment => toRoot_of_not_isName hsegment hsplit
  · refine fun name hname hup => ⟨toRoot_of_undone hname hup hsplit, fun hinsert hne => ?_⟩
    rw [hsplit] at h
    obtain ⟨names', hnames', hlength⟩ := length_stackFrom_insert hname hup h
    rw [← hinsert] at hnames'
    have hpos := List.length_pos_of_ne_nil hne
    have hcount : names'.length - 1 = names.length - 1 + 1 := by omega
    rw [toRoot_of_stackFrom hnames', hsteps, hcount, climb_succ]

/-- A page below two directories, and the same page with a slash, a dot and a detour more and in one directory more. -/
theorem toRoot_of_stack_detour :
    stackFrom [] (segments (countedText "/guide/x/../components//index.html")) =
        some ["index.html", "components", "guide"] ∧
      toRoot "/guide/x/../components//index.html" = climb 2 ∧
      toRoot "/guide/x/../components//index.html/" = climb 2 ∧
      toRoot "/guide/./x/../components//index.html" = climb 2 ∧
      toRoot "/guide/x/../components//y/../index.html" = climb 2 ∧
      toRoot "/en/guide/x/../components//index.html" = "../" ++ climb 2 := by
  have hsegments : segments (countedText "/guide/x/../components//index.html") =
      ["guide", "x", "..", "components", "", "index.html"] := by decide +kernel
  have hstack : stackFrom [] (segments (countedText "/guide/x/../components//index.html")) =
      some ["index.html", "components", "guide"] := by rw [hsegments]; decide
  obtain ⟨hcount, hchanges⟩ := toRoot_of_stack hstack
  have hsteps : toRoot "/guide/x/../components//index.html" = climb 2 := hcount
  have hslash := (hchanges "/guide/x/../components//index.html/").1
    (String.toList_inj.1 (by rw [String.toList_append]; decide +kernel))
  obtain ⟨hempty, -⟩ := (hchanges "/guide/./x/../components//index.html").2 ["guide"]
    ["x", "..", "components", "", "index.html"] hsegments
  obtain ⟨-, hnames⟩ := (hchanges "/guide/x/../components//y/../index.html").2
    ["guide", "x", "..", "components", ""] ["index.html"] hsegments
  obtain ⟨-, hfurther⟩ := (hchanges "/en/guide/x/../components//index.html").2 []
    ["guide", "x", "..", "components", "", "index.html"] hsegments
  have hdot := hempty "." (by decide) (by decide +kernel)
  have hdetour := (hnames "y" (by decide) (by decide)).1 (by decide +kernel)
  have hdirectory := (hfurther "en" (by decide) (by decide)).2 (by decide +kernel) (by decide)
  rw [hsteps] at hslash hdot hdetour hdirectory
  exact ⟨hstack, hsteps, hslash, hdot, hdetour, hdirectory⟩

end GuideSite.Path
