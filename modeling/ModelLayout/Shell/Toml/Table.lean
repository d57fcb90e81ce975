import ModelLayout.Shell.Toml.Value

/-!
# Building tables

A TOML document describes one table piece by piece.  Nothing may be said twice: a key that has a
value keeps it, a table with a header has that one header only, and a table that is written in
braces is complete.

## Main definitions

* `Entries.insert` — give a dotted key its value.
* `Section`, `Entries.addSection` — a header with the keys below it.
-/

namespace ModelLayout
namespace Toml

/-- A dotted key: at least one name. -/
abbrev Key := List String

/-- A dotted key and its value. -/
abbrev Assignment := Key × Value

namespace Entries

/-- The value of a key. -/
def get? (t : Entries) (key : String) : Option Value :=
  List.lookup key t

/-- Give a key another value. -/
def replace (t : Entries) (key : String) (v : Value) : Entries :=
  t.map fun (k, old) => if k == key then (k, v) else (k, old)

/-- Give a dotted key its value.  Tables on the way are made if there are none; a table that is
there has to be open to dotted keys.  A table that exists only because of the header of a table
below it is open, but gets no header of its own from then on.  The last table of an array may be
passed, but takes no values. -/
def insert : Key → Value → Entries → Option Entries
  | [], _, _ => none
  | [k], v, t => if (t.get? k).isSome then none else some (t ++ [(k, v)])
  | k :: k' :: ks, v, t =>
    match t.get? k with
    | none => (insert (k' :: ks) v []).map fun es => t ++ [(k, .table .dotted es)]
    | some (.table .dotted es) | some (.table .path es) =>
      (insert (k' :: ks) v es).map fun es => t.replace k (.table .dotted es)
    | some (.tables els) =>
      match els.getLast? with
      | none => none
      | some last =>
        if ks.isEmpty then none
        else (insert (k' :: ks) v last).map fun es => t.replace k (.tables (els.dropLast ++ [es]))
    | some _ => none

/-- Give several keys their values. -/
def insertAll (as : List Assignment) (t : Entries) : Option Entries :=
  as.foldlM (fun t a => insert a.1 a.2 t) t

/-- Change the table that the names of a header lead to.  Tables on the way are made if there
are none; of an array of tables the last one is meant. -/
def descend (change : Entries → Option Entries) : Key → Entries → Option Entries
  | [], t => change t
  | k :: ks, t =>
    match t.get? k with
    | none => (descend change ks []).map fun es => t ++ [(k, .table .path es)]
    | some (.table .inline _) => none
    | some (.table origin es) =>
      (descend change ks es).map fun es => t.replace k (.table origin es)
    | some (.tables els) =>
      match els.getLast? with
      | none => none
      | some last =>
        (descend change ks last).map fun es => t.replace k (.tables (els.dropLast ++ [es]))
    | some _ => none

/-- Open the table `key` under its header and give the keys below it their values. -/
def openTable (key : String) (as : List Assignment) (t : Entries) : Option Entries :=
  match t.get? key with
  | none => (insertAll as []).map fun es => t ++ [(key, .table .header es)]
  | some (.table .path es) =>
    (insertAll as es).map fun es => t.replace key (.table .header es)
  | some _ => none

/-- Open one more table of the array `key`. -/
def openElement (key : String) (as : List Assignment) (t : Entries) : Option Entries :=
  match t.get? key with
  | none => (insertAll as []).map fun es => t ++ [(key, .tables [es])]
  | some (.tables els) =>
    (insertAll as []).map fun es => t.replace key (.tables (els ++ [es]))
  | some _ => none

end Entries

/-- A header, and the keys with their values below it. -/
structure Section where
  /-- Whether the header opens one more table of an array. -/
  isElement : Bool
  key : Key
  assignments : List Assignment
  deriving Repr, Inhabited

/-- Add a section to the document. -/
def Entries.addSection (t : Entries) (s : Section) : Option Entries :=
  match s.key.getLast? with
  | none => none
  | some name =>
    let change :=
      if s.isElement then openElement name s.assignments else openTable name s.assignments
    descend change s.key.dropLast t

end Toml
end ModelLayout
