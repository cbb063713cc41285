import ClassGraph.Proofs.InOrder
import ClassGraph.Proofs.Trees

/-!
# What loading a folder gives

A way down from a folder is a list of names, and a file is part of the project if its own name tells a
known format and no folder on the way to it is left out, the outermost one included (`IsProjectFile`).
Only folders are left out by their names: a file called like an excluded folder is loaded, and a folder
called like a source file is walked through.

The walk finds exactly those files (`mem_collect_iff`, by induction over the tree). It finds them in
the order of the listings. Then they are sorted by the paths that are shown, and of files that are
shown alike the first one found is kept (`mem_inOrder_iff`).

Two things stand between that and the project itself (`loadFolder_gives_project_files`):

* The name of the folder is taken from its path. A path that ends in two dots tells no name, and then the
  folder itself is never left out, and its crate has no name. The same holds of a name that is no text.
* Names that are no text may be shown alike. Then one of the files is lost, and **which one it is depends
  on the listing**, unless both have the same text.
-/

set_option autoImplicit false

namespace ClassGraph.Loader

/-! ## Project files -/

/-- Folders of this name are left out. -/
def LeftOut (excluded : List String) (name : FileName) : Prop :=
  ∃ s ∈ alwaysExcluded ++ excluded, name = Text.Utf8.encode s

instance (excluded : List String) : DecidablePred (LeftOut excluded) :=
  fun name => inferInstanceAs (Decidable (∃ s ∈ alwaysExcluded ++ excluded, name = Text.Utf8.encode s))

/-- From something that may have a name of its own, some names lead to a file of the project. -/
structure IsProjectFile (excluded : List String) (own : Option FileName) (t : FileTree)
    (names : List FileName) (bytes : List UInt8) : Prop where
  found : t.find? names = some (.file bytes)
  format : ∃ name, (own.toList ++ names).getLast? = some name ∧ (InputFormat.ofPath? name).isSome
  included : ∀ dir ∈ (own.toList ++ names).dropLast, ¬ LeftOut excluded dir

section

variable {excluded : List String} {path : PathName} {t : FileTree}

/-! ## The walk -/

/-- A name that is no text is never left out, and one that is text if it is listed. -/
theorem isExcluded_eq_false_iff :
    isExcluded excluded path = false ↔
      ∀ dir ∈ (PathName.fileName? path).toList, ¬ LeftOut excluded dir := by
  unfold isExcluded
  cases PathName.fileName? path with
  | none => simp
  | some name =>
    rw [Option.bind_some, Option.toList_some, List.forall_mem_singleton, LeftOut]
    cases hdecode : Text.Utf8.decode? name with
    | none =>
      refine iff_of_true rfl ?_
      rintro ⟨s, -, hs⟩
      rw [Text.Utf8.decode?_eq_some_iff.mpr hs] at hdecode
      cases hdecode
    | some text =>
      rw [Text.Utf8.decode?_eq_some_iff] at hdecode
      subst hdecode
      simp [Text.Utf8.encode_inj]

theorem collectAll_eq_flatMap (entries : List (FileName × FileTree)) :
    collectAll excluded path entries =
      entries.flatMap fun e => collect excluded (PathName.join path e.1) e.2 := by
  induction entries with
  | nil => rw [collectAll, List.flatMap_nil]
  | cons e entries ih => rw [collectAll, List.flatMap_cons, ih]

theorem isSome_ofPath?_iff : (InputFormat.ofPath? path).isSome ↔
    ∃ name, PathName.fileName? path = some name ∧ (InputFormat.ofPath? name).isSome := by
  cases hname : PathName.fileName? path with
  | none => simp [InputFormat.ofPath?, PathName.extension?, hname]
  | some name => simp [InputFormat.ofPath?_of_fileName? hname]

theorem isProjectFile_file_iff {content bytes : List UInt8} {names : List FileName} :
    IsProjectFile excluded (PathName.fileName? path) (.file content) names bytes ↔
      names = [] ∧ bytes = content ∧ (InputFormat.ofPath? path).isSome := by
  have hlast : ((PathName.fileName? path).toList ++ []).getLast? = PathName.fileName? path := by
    cases PathName.fileName? path <;> rfl
  constructor
  · rintro ⟨hfound, hformat, -⟩
    cases names with
    | nil =>
      cases hfound
      rw [hlast] at hformat
      exact ⟨rfl, rfl, isSome_ofPath?_iff.mpr hformat⟩
    | cons name names => cases hfound
  · rintro ⟨rfl, rfl, hformat⟩
    refine ⟨rfl, ?_, ?_⟩
    · rw [hlast]
      exact isSome_ofPath?_iff.mp hformat
    · rw [List.append_nil]
      cases PathName.fileName? path <;> simp

/-- One step down: the folder itself is not left out, and the rest is a way down from the entry. -/
theorem isProjectFile_cons_iff {own : Option FileName} {entries : List (FileName × FileTree)}
    {name : FileName} {u : FileTree} {names : List FileName} {bytes : List UInt8}
    (hchild : FileTree.child? name entries = some u) :
    IsProjectFile excluded own (.folder entries) (name :: names) bytes ↔
      (∀ dir ∈ own.toList, ¬ LeftOut excluded dir) ∧ IsProjectFile excluded (some name) u names bytes := by
  have hfind : (FileTree.folder entries).find? (name :: names) = u.find? names := by
    rw [FileTree.find?_folder_cons, hchild, Option.bind_some]
  have hlast : (own.toList ++ name :: names).getLast? = ((some name).toList ++ names).getLast? :=
    List.getLast?_append_of_ne_nil _ (List.cons_ne_nil _ _)
  have hfolders : (own.toList ++ name :: names).dropLast
      = own.toList ++ ((some name).toList ++ names).dropLast :=
    List.dropLast_append_of_ne_nil (List.cons_ne_nil _ _)
  constructor
  · rintro ⟨hfound, hformat, hincluded⟩
    rw [hfolders, List.forall_mem_append] at hincluded
    exact ⟨hincluded.1, hfind ▸ hfound, hlast ▸ hformat, hincluded.2⟩
  · rintro ⟨hentered, hfound, hformat, hincluded⟩
    refine ⟨hfind ▸ hfound, hlast ▸ hformat, ?_⟩
    rw [hfolders, List.forall_mem_append]
    exact ⟨hentered, hincluded⟩

/-- In a folder there is always a step down. -/
theorem IsProjectFile.exists_child {own : Option FileName} {entries : List (FileName × FileTree)}
    {names : List FileName} {bytes : List UInt8}
    (h : IsProjectFile excluded own (.folder entries) names bytes) :
    ∃ name more u, names = name :: more ∧ FileTree.child? name entries = some u := by
  have hfound := h.found
  cases names with
  | nil => cases hfound
  | cons name names =>
    rw [FileTree.find?_folder_cons] at hfound
    obtain ⟨u, hchild, -⟩ := Option.bind_eq_some_iff.mp hfound
    exact ⟨name, names, u, rfl, hchild⟩

theorem IsProjectFile.eq_bytes {own : Option FileName} {names : List FileName}
    {bytes bytes' : List UInt8} (h : IsProjectFile excluded own t names bytes)
    (h' : IsProjectFile excluded own t names bytes') : bytes = bytes' := by
  have hfound := h.found
  rw [h'.found] at hfound
  cases hfound
  rfl

/-- The files of a project are told by their paths, though not by how these are shown. -/
theorem IsProjectFile.eq_of_pathTo {own : Option FileName} {names names' : List FileName}
    {bytes bytes' : List UInt8} (ht : t.WellFormed) (h : IsProjectFile excluded own t names bytes)
    (h' : IsProjectFile excluded own t names' bytes')
    (heq : PathName.pathTo path names = PathName.pathTo path names') : names = names' :=
  PathName.pathTo_inj (ht.isName_of_find? h.found) (ht.isName_of_find? h'.found) heq

/-- The walk finds the files of the project, and nothing else. -/
theorem mem_collect_iff (ht : t.WellFormed) {p : PathName} {bytes : List UInt8} :
    (p, bytes) ∈ collect excluded path t ↔
      ∃ names, IsProjectFile excluded (PathName.fileName? path) t names bytes ∧
        p = PathName.pathTo path names := by
  -- The path grows on the way down, so the statement is about every path.
  induction ht generalizing path with
  | file content =>
    rw [collect]
    split
    · next hformat => simp [isProjectFile_file_iff, hformat, PathName.pathTo, and_comm]
    · next hformat => simp [isProjectFile_file_iff, hformat]
  | @folder entries hnodup hnames hentries ih =>
    rw [collect]
    constructor
    · intro hmem
      split at hmem
      · cases hmem
      · next hentered =>
        rw [Bool.not_eq_true, isExcluded_eq_false_iff] at hentered
        rw [collectAll_eq_flatMap] at hmem
        obtain ⟨⟨name, u⟩, he, hmem⟩ := List.mem_flatMap.mp hmem
        obtain ⟨names, hfile, rfl⟩ := (ih _ he).mp hmem
        rw [PathName.fileName?_join path (hnames _ he)] at hfile
        have hchild := (FileTree.child?_eq_some_iff hnodup).mpr he
        exact ⟨name :: names, (isProjectFile_cons_iff hchild).mpr ⟨hentered, hfile⟩, rfl⟩
    · rintro ⟨names, hfile, rfl⟩
      obtain ⟨name, names, u, rfl, hchild⟩ := hfile.exists_child
      have he := FileTree.mem_of_child? hchild
      obtain ⟨hentered, hbelow⟩ := (isProjectFile_cons_iff hchild).mp hfile
      rw [← PathName.fileName?_join path (hnames _ he)] at hbelow
      rw [isExcluded_eq_false_iff.mpr hentered, if_neg Bool.false_ne_true, collectAll_eq_flatMap]
      exact List.mem_flatMap.mpr ⟨(name, u), he, (ih _ he).mpr ⟨names, hbelow, rfl⟩⟩

/-- A project with folders that are called like files, and the other way round. -/
def shop : List (FileName × FileTree) :=
  [(PathName.ofText "vendor", .folder [(PathName.ofText "lib.rs", .file [])]),
    (PathName.ofText "src", .folder [(PathName.ofText "main.RS", .file [0x66]),
      (PathName.ofText "gen.rs", .folder [(PathName.ofText "vendor.rs", .file [0xFF])])]),
    (PathName.ofText "src.rs", .file []),
    (PathName.ofText "target", .folder [(PathName.ofText "out.json", .file [])]),
    (PathName.ofText "README", .file [0x23])]

example : (collect ["vendor", "src.rs"] (PathName.ofText "my-shop/") (.folder shop)).map
    (fun e => PathName.shown e.1) =
      ["my-shop/src/main.RS", "my-shop/src/gen.rs/vendor.rs", "my-shop/src.rs"] := by
  decide +kernel

/-- A file that is listed first on the whole way is found first. -/
theorem collect_bringFront {names : List FileName} {bytes : List UInt8} (ht : t.WellFormed)
    (h : IsProjectFile excluded (PathName.fileName? path) t names bytes) :
    ∃ rest, collect excluded path (t.bringFront names) = (PathName.pathTo path names, bytes) :: rest := by
  induction names generalizing path t with
  | nil =>
    cases Option.some.inj h.found
    obtain ⟨-, -, hformat⟩ := isProjectFile_file_iff.mp h
    refine ⟨[], ?_⟩
    rw [FileTree.bringFront, collect, if_pos hformat]
    rfl
  | cons name names ih =>
    cases ht with
    | file content => cases h.found
    | @folder entries hnodup hnames hentries =>
      obtain ⟨_, _, u, heq, hchild⟩ := h.exists_child
      cases heq
      have he := FileTree.mem_of_child? hchild
      obtain ⟨hentered, hbelow⟩ := (isProjectFile_cons_iff hchild).mp h
      rw [← PathName.fileName?_join path (hnames _ he)] at hbelow
      obtain ⟨rest, hrest⟩ := ih (hentries _ he) hbelow
      rw [FileTree.bringFront_folder hchild, collect, isExcluded_eq_false_iff.mpr hentered,
        if_neg Bool.false_ne_true, collectAll, hrest]
      exact ⟨_, rfl⟩

end

/-! ## What is loaded -/

/-- **What loading the folder at a path gives**: project files only, all of the crate that the path
    tells, something for every path that one of them is shown with, in the order of the bytes of these
    paths. -/
structure Loads (excluded : List String) (folder : PathName) (t : FileTree) (files : List SourceFile) :
    Prop where
  sound : ∀ f ∈ files, ∃ names bytes,
    IsProjectFile excluded (PathName.fileName? folder) t names bytes ∧
      f = sourceFile (crateName folder) (PathName.pathTo folder names) bytes
  complete : ∀ names bytes, IsProjectFile excluded (PathName.fileName? folder) t names bytes →
    ∃ f ∈ files, f.path = PathName.shown (PathName.pathTo folder names)
  increasing : InByteOrder files

/-- The crate that a folder stands for by its own name. -/
def crateOfName (own : Option FileName) : String :=
  (own.map fun name => crateOf (PathName.shown name)).getD ""

/-- **The project of a folder**: each project file once, with the crate that the folder's own name
    stands for, in the order of the bytes of the paths. -/
structure IsProject (excluded : List String) (own : Option FileName) (folder : PathName) (t : FileTree)
    (files : List SourceFile) : Prop where
  mem_iff : ∀ f, f ∈ files ↔ ∃ names bytes, IsProjectFile excluded own t names bytes ∧
    f = sourceFile (crateOfName own) (PathName.pathTo folder names) bytes
  once : ∀ names bytes names' bytes', IsProjectFile excluded own t names bytes →
    IsProjectFile excluded own t names' bytes' →
      sourceFile (crateOfName own) (PathName.pathTo folder names) bytes
        = sourceFile (crateOfName own) (PathName.pathTo folder names') bytes' → names = names'
  increasing : InByteOrder files

/-- The path of a folder ends in the folder's own name, which is text. -/
def TellsName (fs : FileSystem) (folder : PathName) : Prop :=
  PathName.fileName? folder = fs.ownName? folder ∧
    ∀ name, fs.ownName? folder = some name → PathName.IsText name

/-- Different project files are shown with different paths. -/
def ShownApart (excluded : List String) (folder : PathName) (t : FileTree) : Prop :=
  ∀ names bytes names' bytes', IsProjectFile excluded (PathName.fileName? folder) t names bytes →
    IsProjectFile excluded (PathName.fileName? folder) t names' bytes' →
      PathName.shown (PathName.pathTo folder names) = PathName.shown (PathName.pathTo folder names') →
        names = names'

/-- Project files that are shown with one path have the same text. -/
def AlikeInText (excluded : List String) (folder : PathName) (t : FileTree) : Prop :=
  ∀ names bytes names' bytes', IsProjectFile excluded (PathName.fileName? folder) t names bytes →
    IsProjectFile excluded (PathName.fileName? folder) t names' bytes' →
      PathName.shown (PathName.pathTo folder names) = PathName.shown (PathName.pathTo folder names') →
        Text.Utf8.decodeLossy bytes = Text.Utf8.decodeLossy bytes'

section

variable {excluded : List String} {folder : PathName} {t : FileTree} {files files' : List SourceFile}

theorem mem_found_iff (ht : t.WellFormed) {crate : String} {path : PathName} {f : SourceFile} :
    f ∈ found excluded crate path t ↔
      ∃ names bytes, IsProjectFile excluded (PathName.fileName? path) t names bytes ∧
        f = sourceFile crate (PathName.pathTo path names) bytes := by
  unfold found
  constructor
  · intro hf
    obtain ⟨⟨p, bytes⟩, hp, rfl⟩ := List.mem_map.mp hf
    obtain ⟨names, hfile, rfl⟩ := (mem_collect_iff ht).mp hp
    exact ⟨names, bytes, hfile, rfl⟩
  · rintro ⟨names, bytes, hfile, rfl⟩
    exact List.mem_map.mpr ⟨_, (mem_collect_iff ht).mpr ⟨names, hfile, rfl⟩, rfl⟩

/-- A folder's files are what loading it is to give. -/
theorem loads_folderFiles (ht : t.WellFormed) :
    Loads excluded folder t (folderFiles excluded folder t) := by
  refine ⟨fun f hf => ?_, fun names bytes hfile => ?_, inByteOrder_inOrder _⟩
  · exact (mem_found_iff ht).mp (List.mem_of_find?_eq_some (mem_inOrder_iff.mp hf))
  · have hmem : sourceFile (crateName folder) (PathName.pathTo folder names) bytes
        ∈ found excluded (crateName folder) folder t := (mem_found_iff ht).mpr ⟨_, _, hfile, rfl⟩
    exact exists_mem_inOrder hmem

/-! ## The project itself -/

theorem crateName_of_tellsName {fs : FileSystem} (h : TellsName fs folder) :
    crateName folder = crateOfName (fs.ownName? folder) := by
  obtain ⟨hname, htext⟩ := h
  unfold crateName crateOfName
  rw [hname]
  cases hown : fs.ownName? folder with
  | none => rfl
  | some name =>
    obtain ⟨s, rfl⟩ := htext name hown
    rw [Option.bind_some, Text.Utf8.decode?_encode, Option.map_some, Option.map_some, PathName.shown,
      Text.Utf8.decodeLossy_encode]

theorem crateOf_ne_empty {s : String} (h : s ≠ "") : crateOf s ≠ "" := by
  intro hempty
  have hchars := congrArg String.toList hempty
  rw [crateOf, Text.replaceChar, String.toList_ofList] at hchars
  exact h (String.toList_inj.mp (List.map_eq_nil_iff.mp hchars))

/-- A crate name that is the one of the folder's own name is told by the path. -/
theorem tellsName_of_crateName {fs : FileSystem} (hroot : fs.root.WellFormed)
    (hfolder : fs.find folder = .ok t) (h : crateName folder = crateOfName (fs.ownName? folder)) :
    TellsName fs folder := by
  cases hown : fs.ownName? folder with
  | none =>
    refine ⟨?_, by simp [hown]⟩
    cases hname : PathName.fileName? folder with
    | none => exact hown.symm
    | some name =>
      rw [FileSystem.ownName?_of_fileName? hfolder hname] at hown
      cases hown
  | some own =>
    have hne := (FileSystem.isName_of_ownName? hroot hfolder hown).1
    have hcrate : crateName folder ≠ "" := by
      rw [h, hown]
      exact crateOf_ne_empty (PathName.shown_ne_empty hne)
    -- A crate has a name only if the path tells one that is text.
    cases htext : (PathName.fileName? folder).bind Text.Utf8.decode? with
    | none =>
      rw [crateName, htext] at hcrate
      exact absurd rfl hcrate
    | some s =>
      obtain ⟨name, hname, hs⟩ := Option.bind_eq_some_iff.mp htext
      have hsame := FileSystem.ownName?_of_fileName? hfolder hname
      refine ⟨hname.trans hsame.symm, fun n hn => ⟨s, ?_⟩⟩
      rw [hsame] at hn
      rw [← Option.some.inj hn]
      exact Text.Utf8.decode?_eq_some_iff.mp hs

/-- What counts by the folder's own name counts by the name that its path tells, if it tells one. -/
theorem IsProjectFile.of_ownName? {fs : FileSystem} {entries : List (FileName × FileTree)}
    {names : List FileName} {bytes : List UInt8} (hfolder : fs.find folder = .ok (.folder entries))
    (h : IsProjectFile excluded (fs.ownName? folder) (.folder entries) names bytes) :
    IsProjectFile excluded (PathName.fileName? folder) (.folder entries) names bytes := by
  cases hname : PathName.fileName? folder with
  | some name => rwa [FileSystem.ownName?_of_fileName? hfolder hname] at h
  | none =>
    obtain ⟨name, names, u, rfl, hchild⟩ := h.exists_child
    have hbelow := ((isProjectFile_cons_iff hchild).mp h).2
    exact (isProjectFile_cons_iff hchild).mpr ⟨by simp, hbelow⟩

/-- **Loading gives the project exactly if nothing is loaded, or if the path tells the folder's name and
    no two project files are shown alike.** -/
theorem Loads.isProject_iff {fs : FileSystem} {entries : List (FileName × FileTree)}
    (hroot : fs.root.WellFormed) (hfolder : fs.find folder = .ok (.folder entries))
    (h : Loads excluded folder (.folder entries) files) :
    IsProject excluded (fs.ownName? folder) folder (.folder entries) files ↔
      files = [] ∨ (TellsName fs folder ∧ ShownApart excluded folder (.folder entries)) := by
  constructor
  · intro hproject
    rw [or_iff_not_imp_left]
    intro hfiles
    obtain ⟨f, hf⟩ := List.exists_mem_of_ne_nil files hfiles
    obtain ⟨_, _, -, hpath⟩ := h.sound f hf
    obtain ⟨_, _, -, hown⟩ := (hproject.mem_iff f).mp hf
    have htells : TellsName fs folder :=
      tellsName_of_crateName hroot hfolder (congrArg SourceFile.crateName (hpath.symm.trans hown))
    refine ⟨htells, fun names bytes names' bytes' hfile hfile' heq => ?_⟩
    rw [htells.1] at hfile hfile'
    have hmem := (hproject.mem_iff _).mpr ⟨names, bytes, hfile, rfl⟩
    have hmem' := (hproject.mem_iff _).mpr ⟨names', bytes', hfile', rfl⟩
    exact hproject.once _ _ _ _ hfile hfile' (h.increasing.eq_of_path hmem hmem' heq)
  · rintro (rfl | ⟨htells, hapart⟩)
    · have hnone : ∀ names bytes,
          ¬ IsProjectFile excluded (fs.ownName? folder) (.folder entries) names bytes := by
        intro names bytes hfile
        obtain ⟨f, hf, -⟩ := h.complete names bytes (hfile.of_ownName? hfolder)
        exact absurd hf List.not_mem_nil
      refine ⟨fun f => ?_, fun names bytes _ _ hfile => absurd hfile (hnone names bytes), h.increasing⟩
      refine iff_of_false List.not_mem_nil ?_
      rintro ⟨names, bytes, hfile, -⟩
      exact hnone names bytes hfile
    · have hcrate := crateName_of_tellsName htells
      rw [← htells.1] at hcrate ⊢
      refine ⟨fun f => ⟨fun hf => ?_, ?_⟩, fun names bytes names' bytes' hfile hfile' heq => ?_,
        h.increasing⟩
      · rw [← hcrate]
        exact h.sound f hf
      · rintro ⟨names, bytes, hfile, rfl⟩
        -- What is loaded with this path can be no other file.
        obtain ⟨f, hf, hpath⟩ := h.complete names bytes hfile
        obtain ⟨names', bytes', hfile', rfl⟩ := h.sound f hf
        obtain rfl := hapart _ _ _ _ hfile' hfile hpath
        obtain rfl := hfile'.eq_bytes hfile
        rwa [← hcrate]
      · exact hapart _ _ _ _ hfile hfile' (congrArg SourceFile.path heq)

/-- Text is shown as it is, so that names that are text are shown apart. -/
theorem shownApart_of_isText (ht : t.WellFormed) (hfolder : PathName.IsText folder)
    (hnames : ∀ names bytes, IsProjectFile excluded (PathName.fileName? folder) t names bytes →
      ∀ name ∈ names, PathName.IsText name) : ShownApart excluded folder t := by
  intro names bytes names' bytes' hfile hfile' heq
  have hpath := PathName.shown_inj (hfolder.pathTo (hnames _ _ hfile))
    (hfolder.pathTo (hnames _ _ hfile')) heq
  exact hfile.eq_of_pathTo ht hfile' hpath

/-- Whether project files are shown apart can be read off the walk. -/
theorem shownApart_of_nodup (ht : t.WellFormed)
    (h : ((collect excluded folder t).map fun e => PathName.shown e.1).Nodup) :
    ShownApart excluded folder t := by
  intro names bytes names' bytes' hfile hfile' heq
  have hmem := (mem_collect_iff ht).mpr ⟨names, hfile, rfl⟩
  have hmem' := (mem_collect_iff ht).mpr ⟨names', hfile', rfl⟩
  have hpath := congrArg Prod.fst (List.inj_on_of_nodup_map h hmem hmem' heq)
  exact hfile.eq_of_pathTo ht hfile' hpath

/-! ## The order of the listings -/

theorem Loads.alikeInText (h : Loads excluded folder t files)
    (hapart : files = [] ∨ ShownApart excluded folder t) : AlikeInText excluded folder t := by
  intro names bytes names' bytes' hfile hfile' heq
  rcases hapart with rfl | hapart
  · obtain ⟨f, hf, -⟩ := h.complete names bytes hfile
    exact absurd hf List.not_mem_nil
  · obtain rfl := hapart _ _ _ _ hfile hfile' heq
    rw [hfile.eq_bytes hfile']

theorem mem_folderFiles_of_alike (ht : t.WellFormed) (h : AlikeInText excluded folder t)
    {f : SourceFile} : f ∈ folderFiles excluded folder t ↔ ∃ names bytes,
      IsProjectFile excluded (PathName.fileName? folder) t names bytes ∧
        f = sourceFile (crateName folder) (PathName.pathTo folder names) bytes := by
  refine Iff.trans (mem_inOrder_of_alike fun a ha b hb hpath => ?_) (mem_found_iff ht)
  obtain ⟨names, bytes, hfile, rfl⟩ := (mem_found_iff ht).mp ha
  obtain ⟨names', bytes', hfile', rfl⟩ := (mem_found_iff ht).mp hb
  have hcontent := h _ _ _ _ hfile hfile' hpath
  have hshown : PathName.shown (PathName.pathTo folder names)
    = PathName.shown (PathName.pathTo folder names') := hpath
  rw [sourceFile, sourceFile, hcontent, hshown]

theorem isProjectFile_of_reordered {t' : FileTree} (hre : t.Reordered t') (ht : t.WellFormed)
    {own : Option FileName} {names : List FileName} {bytes : List UInt8} :
    IsProjectFile excluded own t' names bytes ↔ IsProjectFile excluded own t names bytes := by
  constructor
  · rintro ⟨hfound, hformat, hincluded⟩
    exact ⟨(hre.find?_file_iff ht).mpr hfound, hformat, hincluded⟩
  · rintro ⟨hfound, hformat, hincluded⟩
    exact ⟨(hre.find?_file_iff ht).mp hfound, hformat, hincluded⟩

/-- If files that are shown alike have the same text, it does not matter which one is kept. -/
theorem folderFiles_of_reordered {t' : FileTree} (hre : t.Reordered t') (ht : t.WellFormed)
    (h : AlikeInText excluded folder t) :
    folderFiles excluded folder t' = folderFiles excluded folder t := by
  have h' : AlikeInText excluded folder t' := by
    unfold AlikeInText
    simp only [isProjectFile_of_reordered hre ht]
    exact h
  refine InByteOrder.eq_of_mem_iff (inByteOrder_inOrder _) (inByteOrder_inOrder _) fun f => ?_
  rw [mem_folderFiles_of_alike (hre.wellFormed ht) h', mem_folderFiles_of_alike ht h]
  simp only [isProjectFile_of_reordered hre ht]

theorem loadFolder_of_find {fs : FileSystem} {entries : List (FileName × FileTree)}
    (h : fs.find folder = .ok (.folder entries)) :
    loadFolder fs excluded folder = .ok (folderFiles excluded folder (.folder entries)) := by
  rw [loadFolder, h]

/-- Every project file is loaded in some order of the listings. -/
theorem exists_reordered_loads {fs : FileSystem} {entries : List (FileName × FileTree)}
    (hroot : fs.root.WellFormed) (hfolder : fs.find folder = .ok (.folder entries))
    {names : List FileName} {bytes : List UInt8}
    (hfile : IsProjectFile excluded (PathName.fileName? folder) (.folder entries) names bytes) :
    ∃ root', fs.root.Reordered root' ∧ ∃ files,
      loadFolder { fs with root := root' } excluded folder = .ok files ∧
        sourceFile (crateName folder) (PathName.pathTo folder names) bytes ∈ files := by
  have hwell := FileSystem.wellFormed_of_find hroot hfolder
  obtain ⟨place, hlocate, hfound⟩ := FileSystem.find_eq_ok_iff.mp hfolder
  have hre := hroot.reordered_bringFront (place ++ names)
  have hfind : FileSystem.find { fs with root := fs.root.bringFront (place ++ names) } folder
      = .ok (FileTree.bringFront names (.folder entries)) :=
    FileSystem.find_eq_ok_iff.mpr ⟨place, (FileSystem.locate_of_reordered hre hroot folder).trans hlocate,
      FileTree.find?_bringFront names hfound⟩
  obtain ⟨rest, hcollect⟩ := collect_bringFront hwell hfile
  obtain ⟨name, more, u, rfl, hchild⟩ := hfile.exists_child
  rw [FileTree.bringFront_folder hchild] at hfind hcollect
  refine ⟨_, hre, _, loadFolder_of_find hfind, mem_inOrder_iff.mpr ?_⟩
  rw [found, hcollect, List.map_cons, find?_path_cons]
  exact .inl rfl

/-- **The order of the listings does not matter exactly if files that are shown alike have the same
    text.** -/
theorem loadFolder_reordered_iff (excluded : List String) {fs : FileSystem}
    {entries : List (FileName × FileTree)} (hroot : fs.root.WellFormed)
    (hfolder : fs.find folder = .ok (.folder entries)) :
    (∀ root', fs.root.Reordered root' →
      loadFolder { fs with root := root' } excluded folder = loadFolder fs excluded folder) ↔
        AlikeInText excluded folder (.folder entries) := by
  have hwell := FileSystem.wellFormed_of_find hroot hfolder
  constructor
  · intro h names bytes names' bytes' hfile hfile' heq
    -- Each of the two files is loaded in some order, so in this one too, and no two files of it have
    -- one path.
    have hkept : ∀ {names bytes},
        IsProjectFile excluded (PathName.fileName? folder) (.folder entries) names bytes →
          sourceFile (crateName folder) (PathName.pathTo folder names) bytes
            ∈ folderFiles excluded folder (.folder entries) := by
      intro names bytes hfile
      obtain ⟨root', hre, files, hload, hmem⟩ := exists_reordered_loads hroot hfolder hfile
      rw [h root' hre, loadFolder_of_find hfolder] at hload
      cases hload
      exact hmem
    have hsame := (loads_folderFiles hwell).increasing.eq_of_path (hkept hfile) (hkept hfile') heq
    exact congrArg SourceFile.content hsame
  · intro h root' hre
    obtain ⟨t', hfind, hre⟩ := FileSystem.find_of_reordered hre hroot hfolder
    have hfiles := folderFiles_of_reordered hre hwell h
    -- What is a folder in one order of the listings is a folder in the other.
    cases hre with
    | folder hnames hentries => rw [loadFolder_of_find hfind, loadFolder_of_find hfolder, hfiles]

end

/-- Loading a folder gives files of its project, with paths that lead to them. However the folders list
    their entries, it gives the project itself, exactly if there is nothing to load, or the path tells
    the folder's name and no two project files are shown alike. -/
theorem loadFolder_gives_project_files {fs : FileSystem} {folder : PathName}
    {entries : List (FileName × FileTree)} (hroot : fs.root.WellFormed)
    (hfolder : fs.find folder = .ok (.folder entries)) (excluded : List String) :
    ∃ files, loadFolder fs excluded folder = .ok files ∧
      Loads excluded folder (.folder entries) files ∧
      (∀ names bytes, IsProjectFile excluded (PathName.fileName? folder) (.folder entries) names bytes →
        fs.read (PathName.pathTo folder names) = .ok bytes) ∧
      ((∀ root', fs.root.Reordered root' →
          loadFolder { fs with root := root' } excluded folder = .ok files) ↔
        AlikeInText excluded folder (.folder entries)) ∧
      ((∀ root', fs.root.Reordered root' →
          ∃ files', loadFolder { fs with root := root' } excluded folder = .ok files' ∧
            IsProject excluded (fs.ownName? folder) folder (.folder entries) files') ↔
        files = [] ∨ (TellsName fs folder ∧ ShownApart excluded folder (.folder entries))) ∧
      (PathName.IsText folder →
        (∀ names bytes, IsProjectFile excluded (PathName.fileName? folder) (.folder entries) names bytes →
          ∀ name ∈ names, PathName.IsText name) →
        ShownApart excluded folder (.folder entries)) := by
  have hwell : (FileTree.folder entries).WellFormed := FileSystem.wellFormed_of_find hroot hfolder
  have hloads : Loads excluded folder (.folder entries) _ := loads_folderFiles hwell
  have hload : loadFolder fs excluded folder = _ := loadFolder_of_find hfolder
  have horder := loadFolder_reordered_iff excluded hroot hfolder
  rw [hload] at horder
  refine ⟨_, hload, hloads, fun names bytes hfile => ?_, horder, ⟨fun h => ?_, fun h => ?_⟩,
    shownApart_of_isText hwell⟩
  · exact FileSystem.read_of_find (FileSystem.find_pathTo hfolder hwell hfile.found)
  · obtain ⟨files, hfiles, hproject⟩ := h fs.root hroot.reordered_refl
    cases hload.symm.trans hfiles
    exact (hloads.isProject_iff hroot hfolder).mp hproject
  · intro root' hre
    have halike := hloads.alikeInText (h.imp_right And.right)
    exact ⟨_, horder.mpr halike root' hre, (hloads.isProject_iff hroot hfolder).mpr h⟩

/-- A file system with a folder in it, which lists its entries in a given order. -/
def withFolder (name : String) (entries : List (FileName × FileTree)) : FileSystem :=
  { root := .folder [(PathName.ofText name, .folder entries)]
    here := []
    workspace := fun _ => .error "" }

theorem wellFormed_withFolder (name : String) {entries : List (FileName × FileTree)}
    (hname : PathName.IsName (PathName.ofText name)) (h : (FileTree.folder entries).WellFormed) :
    (withFolder name entries).root.WellFormed :=
  .folder (List.nodup_singleton _) (List.forall_mem_singleton.mpr hname)
    (List.forall_mem_singleton.mpr h)

theorem project_files_of_shop :
    (withFolder "my-shop" shop).root.WellFormed ∧
      (withFolder "my-shop" shop).find (PathName.ofText "my-shop/") = .ok (.folder shop) ∧
      ∀ root', (withFolder "my-shop" shop).root.Reordered root' → ∃ files,
        loadFolder { withFolder "my-shop" shop with root := root' } ["vendor"]
          (PathName.ofText "my-shop/") = .ok files ∧
        IsProject ["vendor"] (some (PathName.ofText "my-shop")) (PathName.ofText "my-shop/")
          (.folder shop) files ∧
        ⟨"my_shop", "my-shop/src/gen.rs/vendor.rs", "\uFFFD"⟩ ∈ files := by
  have hshop : FileTree.WellFormed (.folder shop) := by
    simp only [shop, FileTree.wellFormed_folder_iff, FileTree.WellFormed.file, List.forall_mem_cons,
      List.not_mem_nil, false_implies, implies_true]
    decide +kernel
  have hroot := wellFormed_withFolder "my-shop" (by decide +kernel) hshop
  have hfind : (withFolder "my-shop" shop).find (PathName.ofText "my-shop/") = .ok (.folder shop) := by
    rfl
  have hown : (withFolder "my-shop" shop).ownName? (PathName.ofText "my-shop/")
      = some (PathName.ofText "my-shop") := by
    decide +kernel
  have htells : TellsName (withFolder "my-shop" shop) (PathName.ofText "my-shop/") := by
    refine ⟨by decide +kernel, fun name hname => ?_⟩
    rw [hown] at hname
    cases hname
    exact PathName.isText_ofText "my-shop"
  have hapart : ShownApart ["vendor"] (PathName.ofText "my-shop/") (.folder shop) :=
    shownApart_of_nodup hshop (by decide +kernel)
  have hfile : IsProjectFile ["vendor"] (some (PathName.ofText "my-shop")) (.folder shop)
      [PathName.ofText "src", PathName.ofText "gen.rs", PathName.ofText "vendor.rs"] [0xFF] := by
    exact ⟨rfl, ⟨_, rfl, by decide +kernel⟩, by decide +kernel⟩
  obtain ⟨_, -, -, -, -, hiff, -⟩ := loadFolder_gives_project_files hroot hfind ["vendor"]
  refine ⟨hroot, hfind, fun root' hre => ?_⟩
  obtain ⟨files, hload, hproject⟩ := hiff.mpr (.inr ⟨htells, hapart⟩) root' hre
  rw [hown] at hproject
  exact ⟨files, hload, hproject, (hproject.mem_iff _).mpr ⟨_, _, hfile, by decide +kernel⟩⟩

/-- A folder with one file in a folder. -/
def app : List (FileName × FileTree) :=
  [(PathName.ofText "src", .folder [(PathName.ofText "lib.rs", .file [])])]

/-- Two names that are no text and are shown alike. -/
def twins : List (FileName × FileTree) :=
  [(0xFE :: PathName.ofText ".rs", .file [0x61]), (0xFF :: PathName.ofText ".rs", .file [0x62])]

/-- A folder whose path ends in two dots has a name, but the path does not tell it: its crate has none,
    and it is not left out. And of two files that are shown alike one is lost, in each order of the
    listing another one. -/
theorem loadFolder_up_and_twins :
    (withFolder "my-app" app).ownName? (PathName.ofText "my-app/src/..")
      = some (PathName.ofText "my-app") ∧
    (∀ excluded ∈ [[], ["my-app"]],
      loadFolder (withFolder "my-app" app) excluded (PathName.ofText "my-app/src/..")
        = .ok [⟨"", "my-app/src/../src/lib.rs", ""⟩]) ∧
    loadFolder (withFolder "app" twins) [] (PathName.ofText "app")
      = .ok [⟨"app", "app/\uFFFD.rs", "a"⟩] ∧
    loadFolder (withFolder "app" twins.reverse) [] (PathName.ofText "app")
      = .ok [⟨"app", "app/\uFFFD.rs", "b"⟩] := by
  have hup : (withFolder "my-app" app).find (PathName.ofText "my-app/src/..") = .ok (.folder app) := by
    rfl
  have hone : ∀ excluded ∈ [[], ["my-app"]], found excluded (crateName (PathName.ofText "my-app/src/.."))
      (PathName.ofText "my-app/src/..") (.folder app) = [⟨"", "my-app/src/../src/lib.rs", ""⟩] := by
    decide +kernel
  have htwins : ∀ entries, (withFolder "app" entries).find (PathName.ofText "app")
      = .ok (.folder entries) := by
    intro entries
    rfl
  have hfirst : found [] (crateName (PathName.ofText "app")) (PathName.ofText "app") (.folder twins)
      = [⟨"app", "app/\uFFFD.rs", "a"⟩, ⟨"app", "app/\uFFFD.rs", "b"⟩] := by
    decide +kernel
  have hsecond : found [] (crateName (PathName.ofText "app")) (PathName.ofText "app")
      (.folder twins.reverse) = [⟨"app", "app/\uFFFD.rs", "b"⟩, ⟨"app", "app/\uFFFD.rs", "a"⟩] := by
    decide +kernel
  refine ⟨by decide +kernel, fun excluded hexcluded => ?_, ?_, ?_⟩
  · rw [loadFolder_of_find hup, folderFiles, hone excluded hexcluded, inOrder, List.mergeSort_singleton]
    rfl
  · rw [loadFolder_of_find (htwins twins), folderFiles, hfirst]
    exact congrArg Except.ok (inOrder_pair rfl)
  · rw [loadFolder_of_find (htwins twins.reverse), folderFiles, hsecond]
    exact congrArg Except.ok (inOrder_pair rfl)

end ClassGraph.Loader
