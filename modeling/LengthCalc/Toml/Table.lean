import LengthCalc.Entries
import LengthCalc.Settings.Scalar

namespace LengthCalc

/-!
# Tables of a setting file

What the headers and the assignments of a file define.  A table remembers how
it came to be, because this decides how it may be extended: nothing is defined
twice, and a table that is complete gets no more keys.
-/

namespace Toml

/-- How a table came to be. -/
inductive Origin where
  /-- It is on the way to a header. -/
  | implied
  /-- It has a header of its own. -/
  | header
  /-- It is on the way to a dotted key. -/
  | dotted
  /-- It was written between braces and is complete. -/
  | inlined
  deriving Repr, DecidableEq

/-- A value of a file. -/
inductive Node where
  | scalar (value : Scalar)
  /-- A list that was written between brackets and is complete. -/
  | list (items : List Node)
  | table (origin : Origin) (entries : List (String × Node))
  /-- The tables of a repeatable header, of which the last one is open. -/
  | tables
      (earlier : List (List (String × Node)))
      (last : List (String × Node))

/-- The keys of a table with their values. -/
abbrev Table : Type :=
  Entries Node

namespace Table

/--
Define a dotted key, which must be new.  The tables on the way are made by
dotted keys too; the one that holds the key may not be another one.
-/
def define? (path : List String) (node : Node) (table : Table) : Option Table :=
  match path with
  | [] => none
  | [key] =>
      match table.get? key with
      | none => some (table.insert key node)
      | some _ => none
  | key :: rest =>
      match table.get? key with
      | none =>
          (define? rest node []).map fun child =>
            table.insert key (.table .dotted child)
      | some (.table .dotted child) =>
          (define? rest node child).map fun extended =>
            table.insert key (.table .dotted extended)
      | some (.table .implied child) =>
          if rest.length = 1 then
            none
          else
            (define? rest node child).map fun extended =>
              table.insert key (.table .implied extended)
      | some (.tables earlier last) =>
          if rest.length = 1 then
            none
          else
            (define? rest node last).map fun extended =>
              table.insert key (.tables earlier extended)
      | some _ => none

/-- Change the value at the path of a header. -/
def changeAt?
    (change? : Option Node → Option Node)
    (path : List String)
    (table : Table) :
    Option Table :=
  match path with
  | [] => none
  | [key] =>
      (change? (table.get? key)).map fun node => table.insert key node
  | key :: rest =>
      match table.get? key with
      | none =>
          (changeAt? change? rest []).map fun child =>
            table.insert key (.table .implied child)
      | some (.table .inlined _) => none
      | some (.table origin child) =>
          (changeAt? change? rest child).map fun extended =>
            table.insert key (.table origin extended)
      | some (.tables earlier last) =>
          (changeAt? change? rest last).map fun extended =>
            table.insert key (.tables earlier extended)
      | some (.scalar _) => none
      | some (.list _) => none

/-- A table gets its header, unless there is something else already. -/
def opened? : Option Node → Option Node
  | none => some (.table .header [])
  | some (.table .implied child) => some (.table .header child)
  | some _ => none

/-- A repeatable header begins one more table. -/
def repeated? : Option Node → Option Node
  | none => some (.tables [] [])
  | some (.tables earlier last) => some (.tables (earlier ++ [last]) [])
  | some _ => none

/-- Define a dotted key in the open table at the path of a header. -/
def defineIn?
    (place path : List String)
    (node : Node)
    (table : Table) :
    Option Table :=
  match place with
  | [] => define? path node table
  | key :: rest =>
      match table.get? key with
      | some (.table origin child) =>
          (defineIn? rest path node child).map fun extended =>
            table.insert key (.table origin extended)
      | some (.tables earlier last) =>
          (defineIn? rest path node last).map fun extended =>
            table.insert key (.tables earlier extended)
      | _ => none

/-- The table of the assignments between braces. -/
def ofAssignments? (assignments : List (List String × Node)) : Option Table :=
  assignments.foldlM
    (fun (table : Table) (path, node) => define? path node table) []

end Table

end Toml

end LengthCalc
