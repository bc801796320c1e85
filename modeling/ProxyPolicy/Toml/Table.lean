import ProxyPolicy.Toml.Value

/-!
# Building tables

Adding to the tables of a text what its lines say. No key is given twice, no table has two headers,
and a table that is complete, because it has a header or stands between braces, takes no dotted key
from elsewhere.
-/

namespace ProxyPolicy.Toml

/-- Whether a way of keys may lead on into a table. Headers lead into every table but those between
braces; dotted keys only into tables that have no header either. -/
def Origin.admits (step : Origin) (into : Origin) : Bool :=
  into != .inline && (step != .dotted || into != .header)

/-- Changes the table that a way of keys leads to from a table. Tables that are missing on the way
are made as `step` says; a list of tables leads on into its last. -/
def updateAt (step : Origin) (change : Value → Option Value) : List String → Value → Option Value
  | [], table => change table
  | key :: path, .table origin entries => do
    let child ←
      match lookup? entries key with
      | none => updateAt step change path (.table step [])
      | some (.table into childEntries) =>
        if step.admits into then updateAt step change path (.table into childEntries) else none
      | some (.tables items) => do
        let last ← updateAt step change path (← items.getLast?)
        some (.tables (items.dropLast ++ [last]))
      | some _ => none
    some (.table origin (withEntry entries key child))
  | _ :: _, _ => none

/-- Adds an entry to a table. A dotted key adds only to a table made by dotted keys. -/
def addEntry (path : List String) (key : String) (value : Value) : Value → Option Value :=
  updateAt .dotted (fun
    | .table origin entries =>
      if (path != [] && origin != .dotted) || entries.any (·.1 = key) then none
      else some (.table origin (entries ++ [(key, value)]))
    | _ => none) path

/-- Gives a table a header. It may be there already as a table on the way to another. -/
def openTable (path : List String) (key : String) : Value → Option Value :=
  updateAt .implied (fun
    | .table origin entries =>
      match lookup? entries key with
      | none => some (.table origin (entries ++ [(key, .table .header [])]))
      | some (.table .implied childEntries) =>
        some (.table origin (withEntry entries key (.table .header childEntries)))
      | some _ => none
    | _ => none) path

/-- Adds a table to a list of tables. -/
def openTables (path : List String) (key : String) : Value → Option Value :=
  updateAt .implied (fun
    | .table origin entries =>
      match lookup? entries key with
      | none => some (.table origin (entries ++ [(key, .tables [.table .header []])]))
      | some (.tables items) =>
        some (.table origin (withEntry entries key (.tables (items ++ [.table .header []]))))
      | some _ => none
    | _ => none) path

/-- Changes the table that the last header opened: the way to it leads through lists of tables to
their last. -/
def inCurrent (path : List String) (change : Value → Option Value) : Value → Option Value :=
  updateAt .implied change path

end ProxyPolicy.Toml
