import ProxyPolicy.AccessLog.Entry
import ProxyPolicy.Proofs.Text.Blank

/-!
# The grammar of log lines

A `Reading` is a way to cut a line of the log into its columns, with the white space between them. A
line has at most one (`Reading.text_injective`): white space ends every column, and what is not
white space ends every gap, so that a run can only be cut where it is longest. The reader finds the
reading of a line that has one (`fields?_text`) and nothing else (`exists_of_fields?`), so that
`parse` says of every line what the grammar says, outcome by outcome (`parse_eq_ok_some_iff` and its
neighbors).
-/

namespace ProxyPolicy.AccessLog

open ProxyPolicy.Net ProxyPolicy.Text ProxyPolicy.Time

/-! ## Runs -/

/-- No character of a class comes first in a text. -/
def Stops (p : Char → Bool) (cs : List Char) : Prop := ∀ c ∈ cs.head?, p c = false

/-- A class that white space is apart from. -/
def Visible (p : Char → Bool) : Prop := ∀ c, p c = true → isBlank c = false

/-- A run of characters of a class, which is not empty. -/
@[ext]
structure Run (p : Char → Bool) where
  /-- The characters. -/
  chars : List Char
  /-- There are some. -/
  ne_nil : chars ≠ []
  /-- All are of the class. -/
  all : ∀ c ∈ chars, p c = true

/-- A column: a field with the white space after it. -/
@[ext]
structure Column (p : Char → Bool) where
  /-- The field. -/
  field : Run p
  /-- The white space. -/
  gap : Run isBlank

/-- The text of a column. -/
def Column.text {p : Char → Bool} (k : Column p) : List Char := k.field.chars ++ k.gap.chars

variable {p q : Char → Bool}

/-- The longest run at the start of a text is the one that a character of another class ends. -/
theorem takeWhile_append_of_stops {f r : List Char} (hf : ∀ c ∈ f, p c = true) (hr : Stops p r) :
    (f ++ r).takeWhile p = f := by
  have hrest : r.takeWhile p = [] := by
    cases r with
    | nil => rfl
    | cons c r => rw [List.takeWhile_cons_of_neg (by simp [hr c rfl])]
  rw [List.takeWhile_append_of_pos hf, hrest, List.append_nil]

/-- What follows the longest run is what follows the run that a character of another class ends. -/
theorem dropWhile_append_of_stops {f r : List Char} (hf : ∀ c ∈ f, p c = true) (hr : Stops p r) :
    (f ++ r).dropWhile p = r := by
  rw [List.dropWhile_append_of_pos hf]
  cases r with
  | nil => rfl
  | cons c r => rw [List.dropWhile_cons_of_neg (by simp [hr c rfl])]

/-- What follows the longest run starts with no character of the class. -/
theorem stops_dropWhile (p : Char → Bool) (cs : List Char) : Stops p (cs.dropWhile p) := by
  intro c hc
  have h := List.head?_dropWhile_not p cs
  rw [Option.mem_def.mp hc] at h
  simpa using h

/-- A text is cut in one way into a run and what a character of another class starts. -/
theorem append_inj_of_stops {f f' r r' : List Char} (hf : ∀ c ∈ f, p c = true)
    (hf' : ∀ c ∈ f', p c = true) (hr : Stops p r) (hr' : Stops p r') (h : f ++ r = f' ++ r') :
    f = f' ∧ r = r' := by
  have htake : (f ++ r).takeWhile p = (f' ++ r').takeWhile p := by rw [h]
  have hdrop : (f ++ r).dropWhile p = (f' ++ r').dropWhile p := by rw [h]
  rw [takeWhile_append_of_stops hf hr, takeWhile_append_of_stops hf' hr'] at htake
  rw [dropWhile_append_of_stops hf hr, dropWhile_append_of_stops hf' hr'] at hdrop
  exact ⟨htake, hdrop⟩

/-- A run starts with a character of its class. -/
theorem Run.stops (f : Run p) (h : ∀ c, p c = true → q c = false) (tail : List Char) :
    Stops q (f.chars ++ tail) := by
  intro c hc
  cases hchars : f.chars with
  | nil => exact absurd hchars f.ne_nil
  | cons c' cs =>
    rw [hchars, List.cons_append, List.head?_cons, Option.mem_some_iff] at hc
    subst hc
    exact h c' (f.all c' (hchars ▸ List.mem_cons_self))

/-- A column starts with a character that is not white space. -/
theorem Column.stops (k : Column p) (hp : Visible p) (tail : List Char) :
    Stops isBlank (k.text ++ tail) := by
  unfold Column.text
  rw [List.append_assoc]
  exact k.field.stops hp _

/-- The gap of a column ends its field. -/
theorem Column.gap_stops (k : Column p) (hp : Visible p) (tail : List Char) :
    Stops p (k.gap.chars ++ tail) := by
  refine k.gap.stops ?_ tail
  intro c hblank
  cases hclass : p c with
  | false => rfl
  | true =>
    rw [hp c hclass] at hblank
    cases hblank

/-- A text is cut in one way into a column and what no white space starts. -/
theorem Column.append_inj {k k' : Column p} {r r' : List Char} (hp : Visible p)
    (hr : Stops isBlank r) (hr' : Stops isBlank r') (h : k.text ++ r = k'.text ++ r') :
    k = k' ∧ r = r' := by
  unfold Column.text at h
  rw [List.append_assoc, List.append_assoc] at h
  -- The gap ends the field, and what follows ends the gap.
  obtain ⟨hfield, h⟩ := append_inj_of_stops k.field.all k'.field.all (k.gap_stops hp r)
    (k'.gap_stops hp r') h
  obtain ⟨hgap, h⟩ := append_inj_of_stops k.gap.all k'.gap.all hr hr' h
  exact ⟨Column.ext (Run.ext hfield) (Run.ext hgap), h⟩

/-! ## The reader on runs and columns -/

/-- The reader takes a run that a character of another class ends. -/
theorem run?_append (f : Run p) {r : List Char} (hr : Stops p r) :
    run? p (f.chars ++ r) = some (f.chars, r) := by
  unfold run?
  rw [takeWhile_append_of_stops f.all hr, dropWhile_append_of_stops f.all hr]
  cases hchars : f.chars with
  | nil => exact absurd hchars f.ne_nil
  | cons c cs => rfl

/-- What the reader takes is a run that a character of another class ends. -/
theorem exists_of_run? {cs f r : List Char} (h : run? p cs = some (f, r)) :
    ∃ k : Run p, k.chars = f ∧ cs = k.chars ++ r ∧ Stops p r := by
  unfold run? at h
  split at h
  · cases h
  · rename_i hne
    cases h
    refine ⟨⟨cs.takeWhile p, hne, List.all_eq_true.mp List.all_takeWhile⟩, rfl, ?_, ?_⟩
    · exact (List.takeWhile_append_dropWhile).symm
    · exact stops_dropWhile p cs

/-- The reader takes a column that no white space follows. -/
theorem field?_append (k : Column p) (hp : Visible p) {r : List Char} (hr : Stops isBlank r) :
    field? p (k.text ++ r) = some (k.field.chars, r) := by
  unfold field? Column.text
  rw [List.append_assoc, run?_append k.field (k.gap_stops hp r)]
  simp only [Option.bind_eq_bind, Option.bind_some]
  rw [run?_append k.gap hr]
  rfl

/-- What the reader takes is the field of a column. -/
theorem exists_of_field? {cs f r : List Char} (h : field? p cs = some (f, r)) :
    ∃ k : Column p, k.field.chars = f ∧ cs = k.text ++ r := by
  unfold field? at h
  simp only [Option.bind_eq_bind, Option.bind_eq_some_iff, Prod.exists] at h
  obtain ⟨field, rest, hfield, gap, rest', hgap, hdone⟩ := h
  cases hdone
  obtain ⟨field, rfl, rfl, -⟩ := exists_of_run? hfield
  obtain ⟨gap, rfl, rfl, -⟩ := exists_of_run? hgap
  exact ⟨⟨field, gap⟩, rfl, by rw [Column.text, List.append_assoc]⟩

/-- What the reader takes as one character is a character of the class. -/
theorem exists_of_one? {cs r : List Char} (h : one? p cs = some r) :
    ∃ c, p c = true ∧ cs = c :: r := by
  cases cs with
  | nil => cases h
  | cons c rest =>
    unfold one? at h
    cases hc : p c with
    | false => simp [hc] at h
    | true =>
      simp only [hc, if_true, Option.some.injEq] at h
      exact ⟨c, hc, by rw [h]⟩

/-! ## Readings -/

/-- The characters of a time are not white space. -/
theorem visible_isEpochChar : Visible isEpochChar := by
  intro c hc
  unfold isEpochChar at hc
  rw [Bool.or_eq_true, beq_iff_eq] at hc
  rcases hc with hdigit | rfl
  · exact isBlank_of_isDigit hdigit
  · decide

/-- Decimal digits are not white space. -/
theorem visible_isDecimalDigit : Visible isDecimalDigit := fun _ => isBlank_of_isDecimalDigit

/-- The characters of a field are not white space. -/
theorem visible_isFieldChar : Visible isFieldChar := by
  intro c hc
  unfold isFieldChar at hc
  simpa using hc

/-- Word characters are not white space. -/
theorem visible_isWord : Visible isWord := fun _ => isBlank_of_isWord

/-- A way to cut a line of the log into its columns. Seven of them have any amount of white space
behind them; one white-space character stands before the peer and one behind it. -/
@[ext]
structure Reading where
  /-- White space before the time, if any. -/
  lead : List Char
  /-- The time. -/
  epoch : Column isEpochChar
  /-- The elapsed time. -/
  elapsed : Column isDecimalDigit
  /-- The client. -/
  client : Column isFieldChar
  /-- The result of the request. -/
  result : Column isFieldChar
  /-- The size. -/
  size : Column isDecimalDigit
  /-- The method. -/
  method : Column isWord
  /-- The target. -/
  target : Column isFieldChar
  /-- The character between the hyphen and the peer. -/
  before : Char
  /-- The peer. -/
  peer : Run isFieldChar
  /-- The character behind the peer. -/
  behind : Char
  /-- The type of the content. -/
  contentType : Run isFieldChar
  /-- What follows the type of the content, if anything does. -/
  rest : List Char
  /-- Only white space comes before the time. -/
  isBlank_lead : ∀ c ∈ lead, isBlank c = true
  /-- White space comes before the peer. -/
  isBlank_before : isBlank before = true
  /-- White space comes behind the peer. -/
  isBlank_behind : isBlank behind = true
  /-- What follows the type of the content starts with white space. -/
  isBlank_rest : ∀ c ∈ rest.head?, isBlank c = true

namespace Reading

/-- The line that a reading cuts. -/
def text (d : Reading) : List Char :=
  d.lead ++ (d.epoch.text ++ (d.elapsed.text ++ (d.client.text ++ (d.result.text ++ (d.size.text ++
    (d.method.text ++ (d.target.text ++ ('-' :: d.before :: (d.peer.chars ++
      (d.behind :: (d.contentType.chars ++ d.rest)))))))))))

/-- The fields that an entry is made from. -/
def fields (d : Reading) : Fields :=
  ⟨d.epoch.field.chars, d.client.field.chars, d.method.field.chars, d.target.field.chars,
    d.contentType.chars⟩

/-- No white space comes first behind the target. -/
theorem stops_hyphen (tail : List Char) : Stops isBlank ('-' :: tail) := by
  intro c hc
  rw [List.head?_cons, Option.mem_some_iff] at hc
  subst hc
  decide

/-- White space ends a field. -/
theorem stops_blank {c : Char} (hc : isBlank c = true) (tail : List Char) :
    Stops isFieldChar (c :: tail) := by
  intro c' hc'
  rw [List.head?_cons, Option.mem_some_iff] at hc'
  subst hc'
  simp [isFieldChar, hc]

/-- What follows the type of the content ends it. -/
theorem stops_rest (d : Reading) : Stops isFieldChar d.rest := by
  intro c hc
  simp [isFieldChar, d.isBlank_rest c hc]

/-- A line is cut in one way. -/
theorem text_injective {d d' : Reading} (h : d.text = d'.text) : d = d' := by
  unfold text at h
  -- Column by column: the next column starts with no white space, so that the gap ends before it.
  obtain ⟨hlead, h⟩ := append_inj_of_stops d.isBlank_lead d'.isBlank_lead
    (d.epoch.stops visible_isEpochChar _) (d'.epoch.stops visible_isEpochChar _) h
  obtain ⟨hepoch, h⟩ := Column.append_inj visible_isEpochChar
    (d.elapsed.stops visible_isDecimalDigit _) (d'.elapsed.stops visible_isDecimalDigit _) h
  obtain ⟨helapsed, h⟩ := Column.append_inj visible_isDecimalDigit
    (d.client.stops visible_isFieldChar _) (d'.client.stops visible_isFieldChar _) h
  obtain ⟨hclient, h⟩ := Column.append_inj visible_isFieldChar
    (d.result.stops visible_isFieldChar _) (d'.result.stops visible_isFieldChar _) h
  obtain ⟨hresult, h⟩ := Column.append_inj visible_isFieldChar
    (d.size.stops visible_isDecimalDigit _) (d'.size.stops visible_isDecimalDigit _) h
  obtain ⟨hsize, h⟩ := Column.append_inj visible_isDecimalDigit
    (d.method.stops visible_isWord _) (d'.method.stops visible_isWord _) h
  obtain ⟨hmethod, h⟩ := Column.append_inj visible_isWord
    (d.target.stops visible_isFieldChar _) (d'.target.stops visible_isFieldChar _) h
  obtain ⟨htarget, h⟩ := Column.append_inj visible_isFieldChar
    (stops_hyphen _) (stops_hyphen _) h
  -- From here on single characters separate.
  obtain ⟨hbefore, h⟩ := List.cons.inj (List.cons.inj h).2
  obtain ⟨hpeer, h⟩ := append_inj_of_stops d.peer.all d'.peer.all
    (stops_blank d.isBlank_behind _) (stops_blank d'.isBlank_behind _) h
  obtain ⟨hbehind, h⟩ := List.cons.inj h
  obtain ⟨hcontentType, hrest⟩ := append_inj_of_stops d.contentType.all d'.contentType.all
    d.stops_rest d'.stops_rest h
  exact Reading.ext hlead hepoch helapsed hclient hresult hsize hmethod htarget hbefore
    (Run.ext hpeer) hbehind (Run.ext hcontentType) hrest

/-- The reader finds the fields of a line that has a reading. -/
theorem fields?_text (d : Reading) : fields? d.text = some d.fields := by
  unfold fields? text
  -- The reader takes one column after another, up to the start of the next.
  rw [dropWhile_append_of_stops d.isBlank_lead (d.epoch.stops visible_isEpochChar _)]
  rw [field?_append d.epoch visible_isEpochChar (d.elapsed.stops visible_isDecimalDigit _)]
  simp only [Option.bind_eq_bind, Option.bind_some]
  rw [field?_append d.elapsed visible_isDecimalDigit (d.client.stops visible_isFieldChar _)]
  simp only [Option.bind_some]
  rw [field?_append d.client visible_isFieldChar (d.result.stops visible_isFieldChar _)]
  simp only [Option.bind_some]
  rw [field?_append d.result visible_isFieldChar (d.size.stops visible_isDecimalDigit _)]
  simp only [Option.bind_some]
  rw [field?_append d.size visible_isDecimalDigit (d.method.stops visible_isWord _)]
  simp only [Option.bind_some]
  rw [field?_append d.method visible_isWord (d.target.stops visible_isFieldChar _)]
  simp only [Option.bind_some]
  rw [field?_append d.target visible_isFieldChar (stops_hyphen _)]
  -- Then the hyphen, and single characters around the peer.
  simp only [Option.bind_some, one?, beq_self_eq_true, d.isBlank_before, if_true]
  rw [run?_append d.peer (stops_blank d.isBlank_behind _)]
  simp only [Option.bind_some, d.isBlank_behind, if_true]
  rw [run?_append d.contentType d.stops_rest]
  rfl

/-- The reader finds fields only in a line that has a reading, and finds those of the reading. -/
theorem exists_of_fields? {line : List Char} {f : Fields} (h : fields? line = some f) :
    ∃ d : Reading, d.text = line ∧ d.fields = f := by
  unfold fields? at h
  simp only [Option.bind_eq_bind, Option.bind_eq_some_iff, Prod.exists] at h
  obtain ⟨_, _, hepoch, _, _, helapsed, _, _, hclient, _, _, hresult, _, _, hsize, _, _, hmethod,
    _, _, htarget, _, hhyphen, _, hbefore, _, _, hpeer, _, hbehind, _, rest, hcontentType, hf⟩ := h
  -- Each step of the reader gives one part of the reading.
  obtain ⟨epoch, rfl, hline⟩ := exists_of_field? hepoch
  obtain ⟨elapsed, rfl, rfl⟩ := exists_of_field? helapsed
  obtain ⟨client, rfl, rfl⟩ := exists_of_field? hclient
  obtain ⟨result, rfl, rfl⟩ := exists_of_field? hresult
  obtain ⟨size, rfl, rfl⟩ := exists_of_field? hsize
  obtain ⟨method, rfl, rfl⟩ := exists_of_field? hmethod
  obtain ⟨target, rfl, rfl⟩ := exists_of_field? htarget
  obtain ⟨hyphen, hc, rfl⟩ := exists_of_one? hhyphen
  obtain ⟨before, isBlank_before, rfl⟩ := exists_of_one? hbefore
  obtain ⟨peer, rfl, rfl, -⟩ := exists_of_run? hpeer
  obtain ⟨behind, isBlank_behind, rfl⟩ := exists_of_one? hbehind
  obtain ⟨contentType, rfl, rfl, hrest⟩ := exists_of_run? hcontentType
  -- The last run is the longest, so that white space follows it if anything does.
  have isBlank_rest : ∀ c ∈ rest.head?, isBlank c = true := by
    intro c hc
    simpa [isFieldChar] using hrest c hc
  have isBlank_lead : ∀ c ∈ line.takeWhile isBlank, isBlank c = true :=
    List.all_eq_true.mp List.all_takeWhile
  refine ⟨⟨line.takeWhile isBlank, epoch, elapsed, client, result, size, method, target, before,
    peer, behind, contentType, rest, isBlank_lead, isBlank_before, isBlank_behind, isBlank_rest⟩,
    ?_, ?_⟩
  · have hsplit : line.takeWhile isBlank ++ line.dropWhile isBlank = line :=
      List.takeWhile_append_dropWhile
    rw [hline, beq_iff_eq.mp hc] at hsplit
    exact hsplit
  · cases hf
    rfl

/-- A reading cuts a line that is not empty. -/
theorem text_ne_nil (d : Reading) : d.text ≠ [] := by
  intro h
  have hchars : d.epoch.field.chars = [] := by
    unfold text Column.text at h
    simp only [List.append_eq_nil_iff] at h
    exact h.2.1.1
  exact d.epoch.field.ne_nil hchars

end Reading

/-! ## Outcomes -/

variable {rules : List SuffixRule}

/-- An empty line is skipped. -/
theorem parse_empty : parse rules "" = .ok none := rfl

/-- A line that has no reading is refused whole. -/
theorem parse_of_unreadable {line : String} (hne : line ≠ "")
    (h : ∀ d : Reading, d.text ≠ line.toList) : parse rules line = .error (.malformed line) := by
  have hfields : fields? line.toList = none := by
    cases hf : fields? line.toList with
    | none => rfl
    | some f =>
      obtain ⟨d, hd, -⟩ := Reading.exists_of_fields? hf
      exact absurd hd (h d)
  unfold parse
  rw [if_neg (by simpa using hne), hfields]

/-- A line that has a reading gives the entry of its fields, unless its time denotes no instant. -/
theorem parse_of_text_eq {line : String} {d : Reading} (h : d.text = line.toList) :
    parse rules line =
      match Instant.ofText? d.epoch.field.chars with
      | none => .error (.badEpoch (String.ofList d.epoch.field.chars) line)
      | some time => .ok (some (Entry.ofFields rules time d.fields)) := by
  have hne : line ≠ "" := by
    rintro rfl
    exact d.text_ne_nil h
  unfold parse
  rw [if_neg (by simpa using hne), ← h, d.fields?_text]
  rfl

/-- A line is empty, has a reading, or has none. -/
theorem line_cases (line : String) :
    line = "" ∨ (∃ d : Reading, d.text = line.toList) ∨
      (line ≠ "" ∧ ∀ d : Reading, d.text ≠ line.toList) := by
  by_cases hempty : line = ""
  · exact .inl hempty
  · by_cases hread : ∃ d : Reading, d.text = line.toList
    · exact .inr (.inl hread)
    · exact .inr (.inr ⟨hempty, fun d hd => hread ⟨d, hd⟩⟩)

/-- Exactly the empty line is skipped. -/
theorem parse_eq_ok_none_iff (line : String) : parse rules line = .ok none ↔ line = "" := by
  constructor
  · intro h
    rcases line_cases line with hempty | ⟨d, hd⟩ | ⟨hne, hnone⟩
    · exact hempty
    · rw [parse_of_text_eq hd] at h
      split at h <;> cases h
    · rw [parse_of_unreadable hne hnone] at h
      cases h
  · rintro rfl
    exact parse_empty

/-- Exactly the lines that are not empty and have no reading are malformed, and reported as they
are. -/
theorem parse_eq_malformed_iff (line raw : String) :
    parse rules line = .error (.malformed raw) ↔
      raw = line ∧ line ≠ "" ∧ ∀ d : Reading, d.text ≠ line.toList := by
  constructor
  · intro h
    rcases line_cases line with rfl | ⟨d, hd⟩ | ⟨hne, hnone⟩
    · cases h
    · rw [parse_of_text_eq hd] at h
      split at h <;> cases h
    · rw [parse_of_unreadable hne hnone] at h
      cases h
      exact ⟨rfl, hne, hnone⟩
  · rintro ⟨rfl, hne, hnone⟩
    exact parse_of_unreadable hne hnone

/-- Exactly the lines that have a reading whose time denotes no instant are refused for the time. -/
theorem parse_eq_badEpoch_iff (line value raw : String) :
    parse rules line = .error (.badEpoch value raw) ↔
      raw = line ∧ ∃ d : Reading, d.text = line.toList ∧
        value = String.ofList d.epoch.field.chars ∧
        Instant.ofText? d.epoch.field.chars = none := by
  constructor
  · intro h
    rcases line_cases line with rfl | ⟨d, hd⟩ | ⟨hne, hnone⟩
    · cases h
    · rw [parse_of_text_eq hd] at h
      split at h
      · rename_i htime
        cases h
        exact ⟨rfl, d, hd, rfl, htime⟩
      · cases h
    · rw [parse_of_unreadable hne hnone] at h
      cases h
  · rintro ⟨rfl, d, hd, rfl, htime⟩
    rw [parse_of_text_eq hd, htime]

/-- Exactly the lines that have a reading whose time denotes an instant give an entry, which is made
from the fields of the reading. -/
theorem parse_eq_ok_some_iff (line : String) (entry : Entry) :
    parse rules line = .ok (some entry) ↔
      ∃ d : Reading, d.text = line.toList ∧
        Instant.ofText? d.epoch.field.chars = some entry.time ∧
        entry = Entry.ofFields rules entry.time d.fields := by
  constructor
  · intro h
    rcases line_cases line with rfl | ⟨d, hd⟩ | ⟨hne, hnone⟩
    · cases h
    · rw [parse_of_text_eq hd] at h
      split at h
      · cases h
      · rename_i htime
        cases h
        exact ⟨d, hd, htime, rfl⟩
    · rw [parse_of_unreadable hne hnone] at h
      cases h
  · rintro ⟨d, hd, htime, hentry⟩
    rw [parse_of_text_eq hd, htime]
    exact congrArg (fun e => Except.ok (some e)) hentry.symm

/-- The outcome for every line is what the grammar says. A line has at most one reading. It is
skipped if it is empty, malformed if it is not and has no reading, refused for its time if it has a
reading whose time denotes no instant, and gives the entry of its reading otherwise. -/
theorem parse_grammar (rules : List SuffixRule) (line : String) :
    (∀ d d' : Reading, d.text = line.toList → d'.text = line.toList → d = d') ∧
    (parse rules line = .ok none ↔ line = "") ∧
    (∀ raw, parse rules line = .error (.malformed raw) ↔
      raw = line ∧ line ≠ "" ∧ ∀ d : Reading, d.text ≠ line.toList) ∧
    (∀ value raw, parse rules line = .error (.badEpoch value raw) ↔
      raw = line ∧ ∃ d : Reading, d.text = line.toList ∧
        value = String.ofList d.epoch.field.chars ∧
        Instant.ofText? d.epoch.field.chars = none) ∧
    (∀ entry, parse rules line = .ok (some entry) ↔
      ∃ d : Reading, d.text = line.toList ∧
        Instant.ofText? d.epoch.field.chars = some entry.time ∧
        entry.client = String.ofList d.client.field.chars ∧
        entry.method = String.ofList d.method.field.chars ∧
        entry.domain = String.ofList (canonicalBy rules (Target.ofText d.target.field.chars).host) ∧
        entry.host = String.ofList (Target.ofText d.target.field.chars).host ∧
        entry.path = String.ofList (Target.ofText d.target.field.chars).path ∧
        entry.url = String.ofList d.target.field.chars ∧
        entry.contentType = String.ofList d.contentType.chars) := by
  refine ⟨?_, parse_eq_ok_none_iff line, parse_eq_malformed_iff line,
    parse_eq_badEpoch_iff line, ?_⟩
  · intro d d' hd hd'
    exact Reading.text_injective (hd.trans hd'.symm)
  · intro entry
    rw [parse_eq_ok_some_iff]
    refine exists_congr fun d => and_congr_right fun _ => and_congr_right fun _ => ?_
    cases entry
    simp only [Entry.ofFields, Reading.fields, Entry.mk.injEq, true_and]

end ProxyPolicy.AccessLog
