import Mathlib
import ComponentServer.FileTree
import ComponentServer.Proofs.Text.Stretch

/-!
# What counts in a path

Two paths with the same names may be spelled differently, by repeated separators and names `.`. The
folder of a file and what a path seen from it leads to depend on the names alone. A path without
`..` leads to the place that has its names, so two such paths that lead to one file are the same
path; with `..` this fails.
-/

namespace ComponentServer

namespace Path

/-! ### Names between separators -/

/-- Whether a name counts for comparison. -/
def counts (name : Name) : Bool := name != [] && name != hereName

def names (bytes : List UInt8) : List Name := (split bytes).filter counts

theorem parts_eq (path : Path) : path.parts = ⟨path.root, names path.body⟩ := rfl

theorem split_ne_nil (bytes : List UInt8) : split bytes ≠ [] := by
  cases bytes with
  | nil => exact List.cons_ne_nil _ _
  | cons byte rest =>
    rw [split]
    split
    · exact List.cons_ne_nil _ _
    · split <;> exact List.cons_ne_nil _ _

theorem split_append_separator (front rest : List UInt8) :
    split (front ++ separator :: rest) = split front ++ split rest := by
  induction front with
  | nil => rfl
  | cons byte front ih =>
    rw [List.cons_append, split, ih, split]
    split
    · rfl
    · obtain ⟨name, others, hsplit⟩ := List.exists_cons_of_ne_nil (split_ne_nil front)
      rw [hsplit]
      rfl

theorem split_of_notMem {name : List UInt8} (hname : separator ∉ name) : split name = [name] := by
  induction name with
  | nil => rfl
  | cons byte name ih =>
    obtain ⟨hbyte, hname⟩ := not_or.mp (List.mem_cons.not.mp hname)
    rw [split, if_neg (Ne.symm hbyte), ih hname]

@[simp]
theorem names_nil : names [] = [] := rfl

theorem names_append_separator (front rest : List UInt8) :
    names (front ++ separator :: rest) = names front ++ names rest := by
  rw [names, split_append_separator, List.filter_append, names, names]

theorem names_of_counts {name : Name} (hname : separator ∉ name) (hcounts : counts name) :
    names name = [name] := by
  rw [names, split_of_notMem hname, List.filter_cons_of_pos hcounts, List.filter_nil]

/-! ### The folder of a path -/

theorem names_reverse_trimBack (reversed : List UInt8) :
    names (trimBack reversed).reverse = names reversed.reverse := by
  fun_induction trimBack reversed with
  | case1 => rfl
  | case2 byte hbyte => rcases hbyte with rfl | rfl <;> rfl
  | case3 => rfl
  | case4 byte rest ih =>
    have hreverse : (separator :: byte :: rest).reverse = (byte :: rest).reverse ++ [separator] :=
      List.reverse_cons
    rw [ih, hreverse, names_append_separator, names_nil, List.append_nil]
  | case5 a b rest ha hb ih =>
    obtain ⟨rfl, rfl⟩ := hb
    rw [ih, List.reverse_cons, List.reverse_cons, List.append_assoc, List.singleton_append,
      names_append_separator]
    exact (List.append_nil _).symm
  | case6 => rfl

/-- What is left after trimming ends with a name that counts. -/
theorem counts_takeWhile_trimBack {reversed : List UInt8} (hne : trimBack reversed ≠ []) :
    counts ((trimBack reversed).takeWhile (· != separator)).reverse := by
  fun_induction trimBack reversed with
  | case1 => exact absurd rfl hne
  | case2 => exact absurd rfl hne
  | case3 byte hbyte =>
    obtain ⟨hseparator, hdot⟩ := not_or.mp hbyte
    simp [counts, hereName, hseparator, hdot]
  | case4 byte rest ih => exact ih hne
  | case5 a b rest ha hb ih => exact ih hne
  | case6 a b rest ha hb =>
    by_cases hsep : b = separator
    · have hdot : a ≠ dot := fun hdot => hb ⟨hdot, hsep⟩
      simp [counts, hereName, ha, hsep, hdot]
    · have hlong : (rest.takeWhile (· != separator)).reverse ++ [b, a] ≠ [dot] := fun heq => by
        simpa using congrArg List.length heq
      simpa [counts, hereName, ha, hsep] using hlong

theorem names_reverse_of_trimBack {reversed : List UInt8} (hne : trimBack reversed ≠ []) :
    names reversed.reverse =
      names (((trimBack reversed).dropWhile (· != separator)).drop 1).reverse ++
        [((trimBack reversed).takeWhile (· != separator)).reverse] := by
  have hcounts := counts_takeWhile_trimBack hne
  rw [← names_reverse_trimBack]
  generalize trimBack reversed = trimmed at hcounts ⊢
  have hlast : separator ∉ (trimmed.takeWhile (· != separator)).reverse := by
    intro hmem
    simpa using List.mem_takeWhile_imp (List.mem_reverse.mp hmem)
  conv_lhs => rw [← List.takeWhile_append_dropWhile (p := (· != separator)) (l := trimmed),
    List.reverse_append]
  cases hrest : trimmed.dropWhile (· != separator) with
  | nil => exact names_of_counts hlast hcounts
  | cons byte rest =>
    have hbyte : byte = separator := by
      simpa [hrest] using
        List.head_dropWhile_not (· != separator) (l := trimmed) (by rw [hrest]; simp)
    rw [hbyte, List.reverse_cons, List.append_assoc, List.singleton_append,
      names_append_separator, names_of_counts hlast hcounts]
    rfl

theorem trimBack_suffix (reversed : List UInt8) : trimBack reversed <:+ reversed := by
  fun_induction trimBack reversed with
  | case1 => exact List.suffix_rfl
  | case2 => exact List.nil_suffix
  | case3 => exact List.suffix_rfl
  | case4 byte rest ih => exact ih.trans (List.suffix_cons _ _)
  | case5 a b rest ha hb ih => exact ih.trans ((List.suffix_cons _ _).trans (List.suffix_cons _ _))
  | case6 => exact List.suffix_rfl

theorem isAbsolute_iff (path : Path) :
    path.isAbsolute = true ↔ path.bytes.head? = some separator := by
  rw [isAbsolute, root]
  split
  next habsolute => simp [habsolute]
  next habsolute => split <;> simp [habsolute]

theorem exists_of_isAbsolute {path : Path} (habsolute : path.isAbsolute) :
    ∃ body, path.bytes = separator :: body ∧ path.lead = [separator] ∧ path.body = body := by
  obtain ⟨body, hbytes⟩ := List.head?_eq_some_iff.mp ((isAbsolute_iff path).mp habsolute)
  have hroot : path.root = .absolute := eq_of_beq habsolute
  have hlead : path.lead = [separator] := by rw [lead, hroot, hbytes]; rfl
  exact ⟨body, hbytes, hlead, by rw [Path.body, hlead, hbytes]; rfl⟩

theorem same_of_names_eq {left right : Path} (hleft : left.isAbsolute = true)
    (hright : right.isAbsolute = true) (hnames : left.parts.names = right.parts.names) :
    left.same right = true := by
  have hroot : left.root = right.root := (eq_of_beq hleft).trans (eq_of_beq hright).symm
  exact beq_iff_eq.mpr (congrArg₂ Parts.mk hroot hnames)

theorem body_mk_cons (body : List UInt8) : (Path.mk (separator :: body)).body = body := by
  obtain ⟨other, hbytes, -, hbody⟩ :=
    exists_of_isAbsolute ((isAbsolute_iff ⟨separator :: body⟩).mpr rfl)
  cases hbytes
  exact hbody

/-- Two folders from which every path leads to the same place. -/
structure Alike (left right : Path) : Prop where
  absolute : left.isAbsolute = right.isAbsolute
  sameNames : left.isAbsolute = true → names left.body = names right.body

theorem Alike.of_same {left right : Path} (hsame : left.same right) : left.Alike right := by
  have hparts : left.parts = right.parts := eq_of_beq hsame
  rw [parts_eq, parts_eq, Parts.mk.injEq] at hparts
  exact ⟨by rw [isAbsolute, isAbsolute, hparts.1], fun _ => hparts.2⟩

theorem trimBack_eq_nil_iff (reversed : List UInt8) :
    trimBack reversed = [] ↔ names reversed.reverse = [] := by
  constructor
  · intro hnil
    rw [← names_reverse_trimBack, hnil]
    rfl
  · intro hnil
    by_contra hne
    rw [names_reverse_of_trimBack hne] at hnil
    exact List.append_ne_nil_of_right_ne_nil _ (List.cons_ne_nil _ _) hnil

theorem parent?_eq_none_iff (path : Path) :
    path.parent? = none ↔ path.parts.names = [] ∧ path.root ≠ .here := by
  have hnames : path.parts.names = [] ↔ trimBack path.body.reverse = [] := by
    rw [trimBack_eq_nil_iff, List.reverse_reverse]
    rfl
  rw [hnames, parent?]
  split
  next hnil =>
    by_cases hhere : path.root = .here
    · simp [hhere]
    · simp [hhere, hnil]
  next hne =>
    simp only [reduceCtorEq, false_iff, not_and_or]
    exact Or.inl hne

theorem lead_append_body (path : Path) : path.lead ++ path.body = path.bytes := by
  have hlead : path.lead = path.bytes.take path.lead.length := by
    rw [lead]
    split
    · rfl
    · rw [List.length_take, ← List.take_take, List.take_length]
  rw [hlead, body]
  exact List.take_append_drop _ _

/-- The folder of a path has its names but the last. -/
theorem parent?_eq_some {path folder : Path} (hparent : path.parent? = some folder) :
    folder.isAbsolute = path.isAbsolute ∧
      (path.isAbsolute = true → names folder.body = (names path.body).dropLast) := by
  rw [parent?] at hparent
  split at hparent
  next hnil =>
    split at hparent
    next hhere =>
      cases hparent
      have hrelative : path.isAbsolute = false := by rw [isAbsolute, hhere]; rfl
      exact ⟨hrelative.symm, fun habsolute => by simp [hrelative] at habsolute⟩
    next => cases hparent
  next hne =>
    cases hparent
    have hnames := names_reverse_of_trimBack hne
    rw [List.reverse_reverse] at hnames
    generalize hfolder : trimBack (((trimBack path.body.reverse).dropWhile (· != separator)).drop 1)
      = folder
    have hfolderNames : names folder.reverse = (names path.body).dropLast := by
      rw [hnames, List.dropLast_concat, ← hfolder, names_reverse_trimBack]
    by_cases habsolute : path.isAbsolute = true
    · obtain ⟨body, -, hlead, -⟩ := exists_of_isAbsolute habsolute
      rw [hlead, List.singleton_append, body_mk_cons, habsolute, isAbsolute_iff]
      exact ⟨rfl, fun _ => hfolderNames⟩
    · have hinit : path.lead ++ folder.reverse <+: path.bytes := by
        rw [← lead_append_body, List.prefix_append_right_inj, ← List.reverse_suffix,
          List.reverse_reverse, ← hfolder]
        exact (trimBack_suffix _).trans ((List.drop_suffix _ _).trans
          ((List.dropWhile_suffix _).trans (trimBack_suffix _)))
      have hrelative : ¬ (Path.mk (path.lead ++ folder.reverse)).isAbsolute = true := by
        rw [isAbsolute_iff] at habsolute ⊢
        intro hhead
        obtain ⟨rest, hrest⟩ := hinit
        exact habsolute (by rw [← hrest, List.head?_append, hhead]; rfl)
      exact ⟨by rw [eq_false_of_ne_true habsolute, eq_false_of_ne_true hrelative],
        fun h => absurd h habsolute⟩

/-- The same path has the same folder. -/
theorem Alike.parent? {left right : Path} (hsame : left.same right) :
    Option.Rel Alike left.parent? right.parent? := by
  have hparts : left.parts = right.parts := eq_of_beq hsame
  have hroot : left.root = right.root := congrArg Parts.root hparts
  have hnone : left.parent? = none ↔ right.parent? = none := by
    rw [parent?_eq_none_iff, parent?_eq_none_iff, hparts, hroot]
  have halike := Alike.of_same hsame
  cases hleft : left.parent? with
  | none =>
    rw [hnone.mp hleft]
    exact .none
  | some folder =>
    obtain ⟨other, hright⟩ := Option.ne_none_iff_exists'.mp (hnone.not.mp (by simp [hleft]))
    obtain ⟨hfolder, hfolderNames⟩ := parent?_eq_some hleft
    obtain ⟨hother, hotherNames⟩ := parent?_eq_some hright
    rw [hright]
    refine .some ⟨by rw [hfolder, hother, halike.absolute], fun habsolute => ?_⟩
    rw [hfolder] at habsolute
    rw [hfolderNames habsolute, hotherNames (halike.absolute ▸ habsolute),
      halike.sameNames habsolute]

/-! ### Paths seen from a folder -/

end Path

/-! ### What a path leads to -/

namespace FileTree

open ComponentServer.Path

variable (tree : FileTree)

/-- A path without `..` leads to the place of its names. -/
theorem eq_of_follow? {place target : Place} {followed : List Name}
    (habove : aboveName ∉ followed) (htarget : tree.follow? place followed = some target) :
    target = place ++ followed.filter counts := by
  induction followed generalizing place with
  | nil =>
    cases htarget
    exact (List.append_nil _).symm
  | cons name others ih =>
    obtain ⟨hname, hothers⟩ := not_or.mp (List.mem_cons.not.mp habove)
    rw [follow?] at htarget
    split at htarget
    · cases htarget
    · split at htarget
      next hskipped =>
        have hcounts : ¬ counts name = true := by
          simpa [counts, or_iff_not_imp_left] using hskipped
        rw [ih hothers htarget, List.filter_cons_of_neg hcounts]
      next hkept =>
        have hcounts : counts name = true := by simpa [counts] using hkept
        rw [if_neg (Ne.symm hname)] at htarget
        rw [ih hothers htarget, List.filter_cons_of_pos hcounts, List.append_assoc,
          List.singleton_append]

theorem isFile_eq_false_of_relative {path : Path} (hrelative : path.isAbsolute = false) :
    tree.isFile path = false := by
  rw [isFile, locate?, hrelative]
  rfl

theorem file?_names_of_isFile {path : Path} (hfile : tree.isFile path = true)
    (habove : aboveName ∉ path.parts.names) :
    path.isAbsolute = true ∧ tree.locate? path = some path.parts.names ∧
      (tree.file? path.parts.names).isSome := by
  by_cases habsolute : path.isAbsolute = true
  · obtain ⟨place, hplace⟩ := Option.isSome_iff_exists.mp
      (Option.isSome_of_isSome_bind hfile)
    have hfollow := hplace
    rw [locate?, if_pos habsolute] at hfollow
    have habove : aboveName ∉ split path.body := by
      intro hmem
      exact habove (List.mem_filter.mpr ⟨hmem, rfl⟩)
    have hnames : place = path.parts.names := tree.eq_of_follow? habove hfollow
    rw [isFile, hplace] at hfile
    exact ⟨habsolute, by rw [hplace, hnames], hnames ▸ hfile⟩
  · rw [tree.isFile_eq_false_of_relative (eq_false_of_ne_true habsolute)] at hfile
    cases hfile

theorem follow?_mono {tree other : FileTree}
    (hfolders : ∀ place, tree.isFolder place = true → other.isFolder place = true)
    {place target : Place} {followed : List Name}
    (htarget : tree.follow? place followed = some target) :
    other.follow? place followed = some target := by
  induction followed generalizing place with
  | nil => exact htarget
  | cons name others ih =>
    rw [follow?] at htarget ⊢
    by_cases hfolder : tree.isFolder place = true
    · simp only [hfolder, hfolders place hfolder, Bool.not_true, Bool.false_eq_true,
        if_false] at htarget ⊢
      split at htarget
      next hskipped => rw [if_pos hskipped]; exact ih htarget
      next hkept =>
        rw [if_neg hkept]
        split at htarget
        next habove => rw [if_pos habove]; exact ih htarget
        next hbelow => rw [if_neg hbelow]; exact ih htarget
    · simp [hfolder] at htarget

end FileTree

end ComponentServer
