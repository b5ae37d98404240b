import Readership.Calendar.Notation
import Readership.Dataset.Basic
import Readership.LoadError
import Readership.Yaml.Decode

/-!
# Readership.Dataset.Document

Datasets as YAML documents.

A document has up to four lists of rows, `countries`, `users`, `blogs` and `views`; a list that is
left out is empty, and so is one without a value.  Other fields do not matter, in the document as
in its rows.
-/

namespace Readership

open Calendar Yaml

namespace Document

def instant? (n : Node) : Option Instant := do Instant.ofRelaxed? (← n.text?)

def country? (n : Node) : Option Country := do
  let f ← Fields.open? ["id", "name", "code"] n
  pure
    { id := ← f.required? "id" Node.integer?
      name := ← f.required? "name" Node.text?
      code := ← f.required? "code" Node.text? }

def user? (n : Node) : Option User := do
  let f ← Fields.open? ["id", "username", "email", "first_name", "last_name", "bio", "is_active",
    "created_at", "country"] n
  pure
    { id := ← f.required? "id" Node.integer?
      username := ← f.required? "username" Node.text?
      email := ← f.default? "email" "" Node.text?
      firstName := ← f.default? "first_name" "" Node.text?
      lastName := ← f.default? "last_name" "" Node.text?
      bio := ← f.default? "bio" "" Node.text?
      isActive := ← f.default? "is_active" true Node.bool?
      createdAt := ← f.required? "created_at" instant?
      country := ← f.default? "country" none (Node.optional? Node.integer?) }

def blog? (n : Node) : Option Blog := do
  let f ← Fields.open? ["id", "title", "content", "author", "country", "created_at", "updated_at",
    "is_published"] n
  pure
    { id := ← f.required? "id" Node.integer?
      title := ← f.required? "title" Node.text?
      content := ← f.default? "content" "" Node.text?
      author := ← f.required? "author" Node.integer?
      country := ← f.default? "country" none (Node.optional? Node.integer?)
      createdAt := ← f.required? "created_at" instant?
      updatedAt := ← f.default? "updated_at" none (Node.optional? instant?)
      isPublished := ← f.default? "is_published" true Node.bool? }

def view? (n : Node) : Option View := do
  let f ← Fields.open? ["id", "blog", "viewer", "country", "viewed_at", "ip_address"] n
  pure
    { id := ← f.required? "id" Node.integer?
      blog := ← f.required? "blog" Node.integer?
      viewer := ← f.default? "viewer" none (Node.optional? Node.integer?)
      country := ← f.default? "country" none (Node.optional? Node.integer?)
      viewedAt := ← f.required? "viewed_at" instant?
      ipAddress := ← f.default? "ip_address" none (Node.optional? Node.text?) }

def table? {α : Type} (row? : Node → Option α) (n : Node) : Option (Array α) := do
  pure (← (← n.items?).mapM row?).toArray

def tables? (n : Node) : Option Tables := do
  let f ← Fields.open? ["countries", "users", "blogs", "views"] n
  pure
    { countries := ← f.default? "countries" #[] (table? country?)
      users := ← f.default? "users" #[] (table? user?)
      blogs := ← f.default? "blogs" #[] (table? blog?)
      views := ← f.default? "views" #[] (table? view?) }

end Document

def Dataset.ofYaml (s : String) : Except LoadError Dataset :=
  match (document? s).bind Document.tables? with
  | some t => (Dataset.ofTables t).mapError .integrity
  | none => .error .malformed

end Readership
