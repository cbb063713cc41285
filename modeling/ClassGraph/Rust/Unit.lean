import ClassGraph.Project.SourceFile
import ClassGraph.Rust.Calls
import ClassGraph.Rust.File
import ClassGraph.Rust.Package
import ClassGraph.Table

/-!
# The declarations of a Rust file

Records, enumerations and unions are classes, traits are interfaces, and implementations add their
functions and constants to the type they are for. What is said of one type in several places of a
file is put together.
-/

set_option autoImplicit false

namespace ClassGraph.Rust

/-- Types that are never declared by the project, so that implementations for them do not count. -/
def foreignTypes : List String :=
  ["bool", "char", "str", "i8", "i16", "i32", "i64", "i128", "isize", "u8", "u16", "u32", "u64", "u128",
   "usize", "f32", "f64", "slice", "array", "String", "Vec", "VecDeque", "LinkedList", "HashMap",
   "HashSet", "BTreeMap", "BTreeSet", "Option", "Result", "Cow", "Path", "PathBuf"]

/-- The name of a type as far as it has a label. -/
def Ty.name? (owner : String) (t : Ty) : Option String := (t.label? owner).map Label.name

/-- The declarations of the fields of a type. -/
def fieldDecls (owner : String) (fields : List FieldItem) : List FieldDecl :=
  fields.zipIdx.map fun (f, position) => ⟨f.nameAt position, f.type.name? owner⟩

/-- Has the parameter a type of its own? -/
def Param.isTyped : Param → Bool
  | .typed _ _ _ => true
  | .receiver _ => false

/-- The declaration of a function of a type. -/
def Function.decl (index : Index) (owner : String) (f : Function) : MethodDecl :=
  { name := f.name
    parameters := f.params.countP Param.isTyped
    lines := f.lines
    invocations := f.calls ⟨index, owner⟩ }

/-- The methods among the members of a type. -/
def methodDecls (index : Index) (owner : String) (members : List Member) : List MethodDecl :=
  members.filterMap fun
    | .function f => some (f.decl index owner)
    | _ => none

/-- The constants among the members of a type. -/
def constantDecls (owner : String) (members : List Member) : List FieldDecl :=
  members.filterMap fun
    | .constant name _ type _ => some ⟨name, type.name? owner⟩
    | _ => none

mutual

/-- What an item says of types. -/
def Item.types (index : Index) : Item → List TypeDecl
  | .record name _ fields => [{ TypeDecl.bare name with fields := fieldDecls name fields }]
  | .enumeration name _ => [TypeDecl.bare name]
  | .traitItem name _ members =>
    [⟨name, true, methodDecls index name members, constantDecls name members⟩]
  | .implementation _ type members =>
    match implementationOwner? type with
    | none => []
    | some owner =>
      if owner ∈ foreignTypes then []
      else [⟨owner, false, methodDecls index owner members, constantDecls owner members⟩]
  | .module _ items => itemsTypes index items
  | .other _ => []

/-- What some items say of types. -/
def itemsTypes (index : Index) : List Item → List TypeDecl
  | [] => []
  | item :: items => item.types index ++ itemsTypes index items

end

end ClassGraph.Rust

namespace ClassGraph

/-- Adds what is said of a type in another place. -/
def TypeDecl.extend (t more : TypeDecl) : TypeDecl :=
  { t with
    isInterface := t.isInterface || more.isInterface
    methods := t.methods ++ more.methods
    fields := t.fields ++ more.fields }

/-- Puts together what is said of each type, in the order of their first names. -/
def combineTypes (ts : List TypeDecl) : Table TypeDecl :=
  ts.foldl (fun table t => table.upsert t.name fun old => (old.getD (.bare t.name)).extend t) ∅

end ClassGraph

namespace ClassGraph.Rust

/-- The items of the files that can be read. -/
def readableItems (files : List SourceFile) : List (List Item) :=
  files.filterMap fun f => parseFile? f.content

/-- The index of some files; those that cannot be read state nothing. -/
def Index.ofSources (files : List SourceFile) : Index := Index.ofFiles (readableItems files)

/-- What is said about a text that is not Rust. The words belong to the reader in use; nothing
depends on them. -/
class Complaints where
  about : String → String

/-- The same words about every text. -/
@[reducible] def plainComplaints : Complaints := ⟨fun _ => "rust syntax error"⟩

/-- The unit that items in a file declare. -/
def unitOfItems (index : Index) (file : SourceFile) (items : List Item) : CompilationUnit :=
  let package := modulePath file.crateName file.path
  { name := file.path
    package := if package.isEmpty then none else some package
    lines := Text.countLines file.content
    types := (combineTypes (itemsTypes index items)).values }

/-- The unit of a file. -/
def unitOf [Complaints] (index : Index) (file : SourceFile) : SourceUnit :=
  match parseFile? file.content with
  | some items => .read (unitOfItems index file items)
  | none => .skipped ⟨file.path, Complaints.about file.content⟩

end ClassGraph.Rust
