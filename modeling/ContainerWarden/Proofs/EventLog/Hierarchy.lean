import ContainerWarden.Proofs.EventLog.Storage

namespace ContainerWarden

namespace Path

theorem prefix_dropLast {path q : Path} (front : q <+: path) (other : q ≠ path) : q <+: path.dropLast := by
  have shorter : q.length < path.length :=
    Nat.lt_of_le_of_ne front.length_le fun same => other (front.eq_of_length same)
  refine List.prefix_of_prefix_length_le front (List.dropLast_prefix path) ?_
  rw [List.length_dropLast]
  omega

end Path

namespace FileTree

variable {tree : FileTree α} {path q : Path}

def IsTree (tree : FileTree α) : Prop := ∀ entry ∈ tree.entries, tree.isDirectory entry.1.dropLast = true

instance : Decidable tree.IsTree :=
  inferInstanceAs (Decidable (∀ entry ∈ tree.entries, tree.isDirectory entry.1.dropLast = true))

def IsFile (tree : FileTree α) (path : Path) : Prop := ∃ content, tree.get? path = some (.file content)

theorem get?_eq_of_isDirectory (directory : tree.isDirectory path = true) :
    tree.get? path = some .directory := by
  unfold isDirectory at directory
  split at directory
  · assumption
  · cases directory

theorem IsFile.not_isDirectory (file : tree.IsFile path) : tree.isDirectory path = false := by
  obtain ⟨content, found⟩ := file
  rw [isDirectory, found]

theorem IsFile.exists? (file : tree.IsFile path) : tree.exists? path = true := by
  obtain ⟨content, found⟩ := file
  rw [FileTree.exists?, found]
  rfl

theorem isFile_of_exists (present : tree.exists? path = true) (other : tree.isDirectory path = false) :
    tree.IsFile path := by
  cases found : tree.get? path with
  | none => simp [FileTree.exists?, found] at present
  | some node =>
    cases node with
    | directory => simp [isDirectory, found] at other
    | file content => exact ⟨content, found⟩

theorem IsTree.parent (isTree : tree.IsTree) (present : tree.exists? path = true) :
    tree.isDirectory path.dropLast = true := by
  by_cases root : path = []
  · subst root
    rfl
  · have listed : (tree.entries.lookup path).isSome = true := by
      simpa [FileTree.exists?, get?, root] using present
    obtain ⟨node, found⟩ := Option.isSome_iff_exists.mp listed
    obtain ⟨front, back, split, -⟩ := List.lookup_eq_some_iff.mp found
    exact isTree (path, node) (by simp [split])

theorem IsTree.above (isTree : tree.IsTree) (present : tree.exists? path = true) (front : q <+: path)
    (other : q ≠ path) : tree.isDirectory q = true := by
  induction path using List.reverseRecOn with
  | nil => exact absurd (List.prefix_nil.mp front) other
  | append_singleton path name ih =>
    have parent := isTree.parent present
    have within := Path.prefix_dropLast front other
    rw [List.dropLast_concat] at parent within
    by_cases same : q = path
    · rwa [same]
    · exact ih (exists?_of_isDirectory parent) within same

theorem IsTree.below (isTree : tree.IsTree) (plain : tree.isDirectory q = false) (front : q <+: path)
    (other : q ≠ path) : tree.get? path = none := by
  cases present : tree.exists? path with
  | true => cases plain.symm.trans (isTree.above present front other)
  | false => exact Option.not_isSome_iff_eq_none.mp (by simpa [FileTree.exists?] using present)

end FileTree

end ContainerWarden
