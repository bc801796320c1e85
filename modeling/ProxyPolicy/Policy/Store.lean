import ProxyPolicy.Policy.Statement

/-!
# The store

The tables together with the lock that another connection may hold. All changes go through `write`,
which keeps what a transaction did only if the transaction succeeds.

This rests on the storage, which undoes a transaction that fails in all modes of keeping its journal
but one: in the mode `OFF` (`StoreSettings.journalMode`) it keeps none, and what is left of such a
transaction is not determined. A store is taken to be in one of the others.
-/

namespace ProxyPolicy.Policy

/-- An open policy store. -/
structure Store where
  /-- What is stored. -/
  tables : Tables
  /-- Whether another connection holds the write lock. -/
  locked : Bool
  deriving DecidableEq, Repr

namespace Store

/-- A store without rows. -/
def empty : Store := ⟨.empty, false⟩

/-- Runs a transaction: all of it, or nothing. The storage undoes what failed by its journal, which
it is taken to keep. -/
def write (s : Store) (body : Transaction Unit) : Except Error Unit × Store :=
  if s.locked then (.error (.storage .locked), s)
  else
    match body.run.run s.tables with
    | (.ok (), tables) => (.ok (), { s with tables })
    | (.error e, _) => (.error e, s)

end Store

end ProxyPolicy.Policy
