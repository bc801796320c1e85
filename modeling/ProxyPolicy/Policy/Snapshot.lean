import ProxyPolicy.Policy.Tables

/-!
# Snapshots of the store

The tables as a text, in which they are kept between runs of the program. The first line names the
format; each other line is a row, with the name of its relation and its columns separated by tabs.
Inside a column, tabs, line ends and backslashes are escaped by a backslash; a column that is
missing is written `\N`.
-/

namespace ProxyPolicy.Policy.Snapshot

/-- The first line of a snapshot. -/
def firstLine : String := "proxy-acl store 1"

/-! ## Columns -/

/-- How a character of a column is written. -/
def escapeChar (c : Char) : List Char :=
  if c = '\\' then ['\\', '\\']
  else if c = '\t' then ['\\', 't']
  else if c = '\n' then ['\\', 'n']
  else [c]

/-- A column as text. -/
def writeColumn : Option String → List Char
  | none => ['\\', 'N']
  | some s => s.toList.flatMap escapeChar

/-- The characters that a text of escapes writes. -/
def unescape? : List Char → Option (List Char)
  | [] => some []
  | '\\' :: 't' :: cs => ('\t' :: ·) <$> unescape? cs
  | '\\' :: 'n' :: cs => ('\n' :: ·) <$> unescape? cs
  | '\\' :: '\\' :: cs => ('\\' :: ·) <$> unescape? cs
  | '\\' :: _ => none
  | c :: cs => (c :: ·) <$> unescape? cs

/-- The column that a text writes. -/
def readColumn? (text : List Char) : Option (Option String) :=
  if text = ['\\', 'N'] then some none else (some ∘ String.ofList) <$> unescape? text

/-! ## Rows -/

/-- The columns of a row, the name of its relation first. -/
def columns : Row → List (Option String)
  | .source r => [some "source", some r.id, some r.source, r.comment]
  | .group r => [some "group", some r.id, r.comment]
  | .member r => [some "member", some r.group, some r.source, r.comment]
  | .acl r => [some "acl", some r.id, r.comment]
  | .rule r => [some "rule", some r.id, some r.type, some r.value, some r.action, r.comment]
  | .link r => [some "link", some r.acl, some r.rule]
  | .grant r => [some "grant", some r.group, some r.acl, r.comment]

/-- The row that columns make. -/
def ofColumns? : List (Option String) → Option Row
  | [some "source", some id, some source, comment] => some (.source ⟨id, source, comment⟩)
  | [some "group", some id, comment] => some (.group ⟨id, comment⟩)
  | [some "member", some group, some source, comment] => some (.member ⟨group, source, comment⟩)
  | [some "acl", some id, comment] => some (.acl ⟨id, comment⟩)
  | [some "rule", some id, some type, some value, some action, comment] =>
    some (.rule ⟨id, type, value, action, comment⟩)
  | [some "link", some acl, some rule] => some (.link ⟨acl, rule⟩)
  | [some "grant", some group, some acl, comment] => some (.grant ⟨group, acl, comment⟩)
  | _ => none

/-- A row as a line. -/
def writeRow (row : Row) : List Char := ['\t'].intercalate ((columns row).map writeColumn)

/-- The row that a line writes. -/
def readRow? (line : List Char) : Option Row := do
  ofColumns? (← (line.splitOn '\t').mapM readColumn?)

/-! ## Tables -/

/-- All rows of the tables. -/
def rows (t : Tables) : List Row :=
  t.sources.map .source ++ t.groups.map .group ++ t.members.map .member ++ t.acls.map .acl ++
    t.rules.map .rule ++ t.links.map .link ++ t.grants.map .grant

/-- The tables that hold these rows. -/
def ofRows (rows : List Row) : Tables where
  sources := rows.filterMap fun | .source r => some r | _ => none
  groups := rows.filterMap fun | .group r => some r | _ => none
  members := rows.filterMap fun | .member r => some r | _ => none
  acls := rows.filterMap fun | .acl r => some r | _ => none
  rules := rows.filterMap fun | .rule r => some r | _ => none
  links := rows.filterMap fun | .link r => some r | _ => none
  grants := rows.filterMap fun | .grant r => some r | _ => none

/-- The tables as a text. -/
def write (t : Tables) : List Char :=
  ['\n'].intercalate (firstLine.toList :: (rows t).map writeRow)

/-- The tables that a text writes. -/
def read? (text : List Char) : Option Tables := do
  match text.splitOn '\n' with
  | first :: lines =>
    if first = firstLine.toList then return ofRows (← lines.mapM readRow?) else none
  | [] => none

end ProxyPolicy.Policy.Snapshot
