/-!
Contract: entries under text keys, kept in ascending order of key.

Owns:
- the order of entries, inserting one with replacement, and collecting a list of them.

Does not own: look-up, which is that of association lists; on ascending entries the first match is
the only one. Keys compare by code point, which is also the byte order of their UTF-8 forms.
-/

namespace ParamSchema.Entries

/-- Entries are ascending when every key is below all later ones, so no key comes twice. -/
def Ascending {α : Type} (entries : List (String × α)) : Prop :=
  entries.Pairwise fun earlier later => earlier.1 < later.1

/-- Insertion puts an entry before the first larger key and replaces one of the same key. -/
def insert {α : Type} (key : String) (value : α) : List (String × α) → List (String × α)
  | [] => [(key, value)]
  | (otherKey, otherValue) :: rest =>
      if key < otherKey then (key, value) :: (otherKey, otherValue) :: rest
      else if key = otherKey then (key, value) :: rest
      else (otherKey, otherValue) :: insert key value rest

/-- The entries of a list in ascending order; of two with one key the later counts. -/
def ofList {α : Type} (entries : List (String × α)) : List (String × α) :=
  entries.foldl (fun collected entry => insert entry.1 entry.2 collected) []

end ParamSchema.Entries
