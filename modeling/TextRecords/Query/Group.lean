import TextRecords.Query.Order

/-!
# Groups of records

Records whose values under a field selection are equal form a group, which is one record: the first
of them, followed by the other fields of the rest.
-/

namespace TextRecords

/-- A record that stands for a number of records. -/
structure Group where
  record : Record
  size : Nat
deriving DecidableEq, Repr

namespace Group

/-- The group of one record. -/
def single (record : Record) : Group :=
  ⟨record, 1⟩

/-- A group with the records of another one, whose fields outside the given names are added. -/
def merge (names : List String) (group other : Group) : Group :=
  let added := (other.record.fields.filter (!names.contains ·.name)).map Item.field
  ⟨{ group.record with items := group.record.items ++ added }, group.size + other.size⟩

/-- The groups of sorted records, given with those already formed, the last one first. Every formed
group comes with the values of its first record. -/
def collect (selection : FieldSelection) (formed : List (List (Option String) × Group)) :
    List Group → List (List (Option String) × Group)
  | [] => formed
  | next :: rest =>
    let key := selection.key next.record
    match formed with
    | (lastKey, last) :: earlier =>
      if compareKeys lastKey key == .eq then
        collect selection ((lastKey, last.merge selection.names next) :: earlier) rest
      else collect selection ((key, next) :: formed) rest
    | [] => collect selection [(key, next)] rest

/-- The groups that records form under a field selection, in the order of their values. -/
def gather (selection : FieldSelection) (groups : List Group) : List Group :=
  ((collect selection [] (sortByKey Group.record selection groups)).map Prod.snd).reverse

end Group

end TextRecords
