import ClassGraph.Proofs.Skipped

/-!
# Projects of more than one format

A project may mix Rust files, dumps, and files that are neither. Its units come from one walk over all
files, with one index for the Rust files, while a project of one format is read by a front end of its
own. Two things could go wrong in the mixed walk: units could come in another order, and a file of one
format could show in the units of another, above all through the index.

Neither happens (`mixed_units_spec`). What the Rust files contribute is what their front end makes of
the Rust files alone, what the dumps contribute is what theirs makes of the dumps alone, and both stand
where their files stand.
-/

set_option autoImplicit false

namespace ClassGraph

/-! ## Formats and extensions -/

/-- The extension of a file, in lower case. -/
def SourceFile.extension? (f : SourceFile) : Option String :=
  ((PathName.extension? (PathName.ofText f.path)).bind Text.Utf8.decode?).map Text.lowercase

section

variable {f : SourceFile}

/-- The extension alone decides the format. -/
theorem SourceFile.format?_eq (f : SourceFile) :
    f.format? = if f.extension? = some "rs" then some .rust
      else if f.extension? = some "json" then some .dump else none := by
  unfold format? InputFormat.ofPath? extension?
  cases (PathName.extension? (PathName.ofText f.path)).bind Text.Utf8.decode? with
  | none => rfl
  | some extension => simp [InputFormat.ofExtension?]

theorem SourceFile.format?_eq_rust_iff : f.format? = some .rust ↔ f.extension? = some "rs" := by
  rw [format?_eq]
  split
  · next h => simp [h]
  · next h => split <;> simp [h]

theorem SourceFile.format?_eq_dump_iff : f.format? = some .dump ↔ f.extension? = some "json" := by
  rw [format?_eq]
  split
  · next h => simp [h]
  · split
    · next h => simp [h]
    · next h => simp [h]

theorem SourceFile.format?_eq_none_iff :
    f.format? = none ↔ f.extension? ≠ some "rs" ∧ f.extension? ≠ some "json" := by
  rw [format?_eq]
  split
  · next h => simp [h]
  · next h => split <;> simp [*]

end

/-- The files of a project with one extension, in order. -/
def filesWith (extension : String) (files : List SourceFile) : List SourceFile :=
  files.filter fun f => f.extension? = some extension

/-! ## What each file contributes -/

/-- Only the Rust files take part in the index. -/
theorem sharedIndex_eq (files : List SourceFile) :
    sharedIndex files = Rust.Index.ofSources (filesWith "rs" files) := by
  unfold sharedIndex filesWith
  congr 1
  refine List.filter_congr fun f _ => ?_
  simp [SourceFile.format?_eq_rust_iff]

section

variable [Rust.Complaints] {f : SourceFile} (index : Rust.Index)

theorem fileUnits_of_rust (h : f.extension? = some "rs") :
    fileUnits index f = [Rust.unitOf index f] := by
  simp only [fileUnits, SourceFile.format?_eq_rust_iff.mpr h]

theorem fileUnits_of_dump (h : f.extension? = some "json") : fileUnits index f = dumpUnits f := by
  simp only [fileUnits, SourceFile.format?_eq_dump_iff.mpr h]

theorem fileUnits_of_other (hrust : f.extension? ≠ some "rs") (hdump : f.extension? ≠ some "json") :
    fileUnits index f = [] := by
  simp only [fileUnits, SourceFile.format?_eq_none_iff.mpr ⟨hrust, hdump⟩]

end

theorem extension?_of_mem_filesWith {extension : String} {files : List SourceFile} {f : SourceFile}
    (h : f ∈ filesWith extension files) : f.extension? = some extension := by
  simpa using (List.mem_filter.mp h).2

/-- The Rust files contribute what they would as a project of their own. -/
theorem contribution_rust [Rust.Complaints] (files : List SourceFile) :
    (filesWith "rs" files).flatMap (fileUnits (sharedIndex files))
      = unitsOf (.all .rust) (filesWith "rs" files) := by
  have hone : ∀ f ∈ filesWith "rs" files,
      fileUnits (sharedIndex files) f = [Rust.unitOf (sharedIndex files) f] :=
    fun f hf => fileUnits_of_rust _ (extension?_of_mem_filesWith hf)
  rw [List.flatMap_congr hone, sharedIndex_eq]
  exact List.map_eq_flatMap.symm

theorem contribution_dump [Rust.Complaints] (files : List SourceFile) :
    (filesWith "json" files).flatMap (fileUnits (sharedIndex files))
      = unitsOf (.all .dump) (filesWith "json" files) :=
  List.flatMap_congr fun _ hf => fileUnits_of_dump _ (extension?_of_mem_filesWith hf)

/-- **The formats of a project do not mix.** Its units are those of its files, file by file. What the
    Rust files contribute among them is what they give as a project of their own, what the dumps
    contribute is what they give as a project of their own, and nothing else contributes. So whatever
    other files there are, the units of a file stay the same as long as the Rust files do, and the
    units of a dump stay the same always. -/
theorem mixed_units_spec [Rust.Complaints] (files : List SourceFile) :
    unitsOf .byExtension files = files.flatMap (fileUnits (sharedIndex files)) ∧
    (filesWith "rs" files).flatMap (fileUnits (sharedIndex files))
      = unitsOf (.all .rust) (filesWith "rs" files) ∧
    (filesWith "json" files).flatMap (fileUnits (sharedIndex files))
      = unitsOf (.all .dump) (filesWith "json" files) ∧
    (∀ f, f.extension? ≠ some "rs" → f.extension? ≠ some "json" →
      fileUnits (sharedIndex files) f = []) ∧
    (∀ others, filesWith "rs" others = filesWith "rs" files → ∀ f,
      fileUnits (sharedIndex others) f = fileUnits (sharedIndex files) f) ∧
    (∀ others f, f.extension? = some "json" →
      fileUnits (sharedIndex others) f = fileUnits (sharedIndex files) f) := by
  refine ⟨unitsOf_byExtension files, contribution_rust files, contribution_dump files, ?_, ?_, ?_⟩
  · intro f hrust hdump
    exact fileUnits_of_other _ hrust hdump
  · intro others hothers f
    rw [sharedIndex_eq, sharedIndex_eq, hothers]
  · intro others f hdump
    rw [fileUnits_of_dump _ hdump, fileUnits_of_dump _ hdump]

/-- A dump of two units, one with a type that has the method called in `callerFile` too. -/
def rivalDump : SourceFile :=
  ⟨"", "d.JSON",
    "[\x7b\"name\":\"d\",\"types\":[\x7b\"name\":\"C\",\"methods\":[\x7b\"name\":\"show\"\x7d]\x7d]\x7d,\x7b\"name\":\"e\"\x7d]"⟩

/-- A file of no known format. -/
def plainFile : SourceFile := ⟨"", "README.md", "impl C { fn show() {} }"⟩

/-- A project of both formats and more. -/
def mixedFiles : List SourceFile := [callerFile, rivalDump, plainFile, calleeFile]

section

attribute [local instance] Rust.plainComplaints

/-- The units of the dump stand between the Rust units, and the call still leads to `B`: neither the
    dump nor the plain file takes part in the index. -/
theorem mixed_units_of_mixedFiles :
    filesWith "rs" mixedFiles = [callerFile, calleeFile] ∧
    rivalDump.extension? = some "json" ∧ plainFile.extension? = some "md" ∧
    ∃ caller callee, unitsOf (.all .rust) [callerFile, calleeFile] = [caller, callee] ∧
      unitsOf .byExtension mixedFiles = caller :: (dumpUnits rivalDump ++ [callee]) ∧
      (dumpUnits rivalDump).length = 2 ∧
      (CallGraph.ofUnits .project [caller]).calls? "A" "run" = some [⟨"show", "B"⟩] := by
  have hrs : filesWith "rs" mixedFiles = [callerFile, calleeFile] := by decide +kernel
  have hdump : rivalDump.extension? = some "json" := by decide +kernel
  have hplain : plainFile.extension? = some "md" := by decide +kernel
  obtain ⟨hunits, hrust, -, hother, -, -⟩ := mixed_units_spec mixedFiles
  have hcaller := fileUnits_of_rust (f := callerFile) (sharedIndex mixedFiles) (by decide +kernel)
  have hcallee := fileUnits_of_rust (f := calleeFile) (sharedIndex mixedFiles) (by decide +kernel)
  have hbetween := fileUnits_of_dump (sharedIndex mixedFiles) hdump
  have hnone := hother plainFile (by rw [hplain]; decide) (by rw [hplain]; decide)
  rw [hrs] at hrust
  refine ⟨hrs, hdump, hplain, Rust.unitOf (sharedIndex mixedFiles) callerFile,
    Rust.unitOf (sharedIndex mixedFiles) calleeFile, ?_, ?_, by decide +kernel, by decide +kernel⟩
  · rw [← hrust, List.flatMap_cons, List.flatMap_singleton, hcaller, hcallee, List.singleton_append]
  · rw [hunits, mixedFiles]
    simp only [List.flatMap_cons, List.flatMap_nil]
    rw [← mixedFiles, hcaller, hbetween, hnone, hcallee, List.singleton_append, List.nil_append,
      List.append_nil]

end

end ClassGraph
