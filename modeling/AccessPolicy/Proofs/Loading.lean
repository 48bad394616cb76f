import AccessPolicy.Loading
import AccessPolicy.Proofs.Result

/-! What is loaded from a file depends on the bytes that its path leads to, and on nothing else. -/

namespace AccessPolicy

variable {reserve : Text.Reserve} {disk other : Disk} {path : Path}

/-- Paths that lead to the same bytes lead to the same tree. -/
theorem Disk.readTree_congr (same : other.bytes? path = disk.bytes? path) (kind : String) :
    other.readTree reserve kind path = disk.readTree reserve kind path := by
  rw [readTree, readTree, same]

/-- Paths that lead to the same bytes lead to the same policy. -/
theorem Policy.Document.load_congr (same : other.bytes? path = disk.bytes? path) :
    Document.load reserve other path = Document.load reserve disk path := by
  rw [Document.load, Document.load, Disk.readTree_congr same]

/-- Paths that lead to the same bytes lead to the same context. -/
theorem Context.load_congr (same : other.bytes? path = disk.bytes? path)
    (resource : Option String) :
    Context.load reserve other path resource = Context.load reserve disk path resource := by
  rw [Context.load, Context.load, Disk.readTree_congr same]

/-- A policy is loaded where the file holds a tree that is read as one. -/
theorem Policy.Document.load_eq_ok_iff {document : Policy.Document} :
    (Document.load reserve disk path).result = .ok document ↔
      ∃ tree, disk.readTree reserve "policy" path = .ok tree ∧
        (Document.read tree).result = .ok document := by
  unfold Document.load
  cases held : disk.readTree reserve "policy" path with
  | error fault => simp
  | ok tree => cases read : (Document.read tree).result <;> simp [read]

/-- A context is loaded where the file holds a tree that describes it. -/
theorem Context.load_eq_ok_iff {resource : Option String} {context : Context} :
    Context.load reserve disk path resource = .ok context ↔
      ∃ tree, disk.readTree reserve "context" path = .ok tree ∧
        ofTree tree resource = .ok context := by
  simp only [Context.load, bind_eq_ok_iff, mapError_eq_ok_iff]

/-- Settings are loaded where the file holds a tree that describes them. -/
theorem Config.load_eq_ok_iff {config : Config} :
    Config.load reserve disk path = .ok config ↔
      ∃ tree, disk.readTree reserve "config" path = .ok tree ∧ ofTree tree = .ok config := by
  simp only [Config.load, Config.loadAs, bind_eq_ok_iff, mapError_eq_ok_iff]

end AccessPolicy
