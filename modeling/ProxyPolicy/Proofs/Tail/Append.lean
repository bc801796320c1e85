import ProxyPolicy.Net.SuffixRules
import ProxyPolicy.Proofs.Text.LineFeed
import ProxyPolicy.Tail

/-!
# The tail of a log that has grown

A log grows by octets at its end. If it was whole lines before, a snapshot of it shows what a
snapshot of the new octets shows, and before that what is left of the window shows of the old ones
(`Tail.recent_append`): the text and the lines of the log are those of the two parts, the last lines
are taken from the new part first, and each line is read by itself.
-/

namespace ProxyPolicy

open ProxyPolicy.AccessLog ProxyPolicy.Net ProxyPolicy.Text

namespace Snapshot

/-! ## Snapshots of more lines -/

/-- The last of some lines and others behind them are the last of the others and then, as far as the
window reaches, the last of the first. -/
theorem take_reverse_append {α : Type} (window : Nat) (older newer : List α) :
    (older ++ newer).reverse.take window =
      newer.reverse.take window ++ older.reverse.take (window - newer.length) := by
  rw [List.reverse_append, List.take_append, List.length_reverse]

/-- The last lines of octets behind whole lines. -/
theorem lastLines_append {older : List UInt8} (h : WholeLines older) (window : Nat)
    (newer : List UInt8) :
    lastLines window (Utf8.decodeLossy (older ++ newer)) =
      lastLines window (Utf8.decodeLossy newer) ++
        lastLines (window - (lines (Utf8.decodeLossy newer)).length) (Utf8.decodeLossy older) := by
  unfold lastLines
  rw [lines_decodeLossy_append h, take_reverse_append, List.map_append]

/-- The entries of some lines are those of the lines that give one. -/
theorem entries_ofLines (rules : List SuffixRule) (xs : List String) :
    (ofLines rules xs).entries = xs.filterMap fun line => entryOf? (parse rules line) := by
  unfold ofLines
  exact List.filterMap_map

/-- The faults of some lines are those of the lines that cannot be read. -/
theorem faults_ofLines (rules : List SuffixRule) (xs : List String) :
    (ofLines rules xs).faults = xs.filterMap fun line => faultOf? (parse rules line) := by
  unfold ofLines
  exact List.filterMap_map

end Snapshot

namespace Tail

/-- Faults reported in two snapshots are reported in the order of the snapshots. -/
theorem report_append {whole newer older : Snapshot} (t : Tail)
    (h : whole.faults = newer.faults ++ older.faults) :
    t.report whole = (t.report newer).report older := by
  unfold report
  rw [h, List.foldl_append]

/-- A log of whole lines to which octets are added, and the lines of octets, in two parts. The
snapshot of the log shows the entries of the new octets and then those that the rest of the window
shows of the old ones, and it reports the faults of the two in that order. And the octets between
two line feeds make one line, which comes of these octets alone, between the lines before it and the
lines behind it, whether they are well formed or not. -/
theorem recent_append :
    (∀ (rules : List SuffixRule) (t : Tail) (older newer : List UInt8), WholeLines older →
      let n := (lines (Utf8.decodeLossy newer)).length
      ∃ whole last first : Snapshot, t.recent rules (some (older ++ newer)) = some whole ∧
        t.recent rules (some newer) = some last ∧
        { t with window := t.window - n }.recent rules (some older) = some first ∧
        whole.entries = last.entries ++ first.entries ∧
        whole.faults = last.faults ++ first.faults ∧
        t.report whole = (t.report last).report first) ∧
    ∀ before line behind : List UInt8, WholeLines before → 0x0a ∉ line →
      lines (Utf8.decodeLossy (before ++ (line ++ 0x0a :: behind))) =
        lines (Utf8.decodeLossy before) ++
          dropReturn (Utf8.decodeLossy line) :: lines (Utf8.decodeLossy behind) := by
  refine ⟨?_, ?_⟩
  · intro rules t older newer holder n
    have hlines := Snapshot.lastLines_append holder t.window newer
    have hfaults : (Snapshot.ofOctets rules t.window (older ++ newer)).faults =
        (Snapshot.ofOctets rules t.window newer).faults ++
          (Snapshot.ofOctets rules (t.window - n) older).faults := by
      unfold Snapshot.ofOctets
      rw [hlines, Snapshot.faults_ofLines, Snapshot.faults_ofLines, Snapshot.faults_ofLines,
        List.filterMap_append]
    refine ⟨_, _, _, rfl, rfl, rfl, ?_, hfaults, report_append t hfaults⟩
    unfold Snapshot.ofOctets
    rw [hlines, Snapshot.entries_ofLines, Snapshot.entries_ofLines, Snapshot.entries_ofLines,
      List.filterMap_append]
  · intro before line behind hbefore hline
    rw [lines_decodeLossy_append hbefore, lines_decodeLossy_line hline]

/-- A log whose last old line ends with a carriage return, to which the first octets of a character
that is never finished are added, a line feed, and an unfinished line. The window reaches the last
of the old lines but not the one before it. -/
theorem recent_append_unfinished :
    let entry := Utf8.encode "7.5 5 c T/200 1 GET http://a.com/ - D/1 text/html".toList
    let older : List UInt8 := [0xff, 0x0a] ++ entry ++ [0x0d, 0x0a]
    let newer : List UInt8 := [0xe2, 0x82] ++ 0x0a :: [0x78]
    let t : Tail := ⟨"access.log", 3, ⟨[.memory 10 []]⟩⟩
    WholeLines older ∧ 0x0a ∉ ([0xe2, 0x82] : List UInt8) ∧
      (∃ whole last first : Snapshot, t.recent suffixRules (some (older ++ newer)) = some whole ∧
        t.recent suffixRules (some newer) = some last ∧
        { t with window := 3 - 2 }.recent suffixRules (some older) = some first ∧
        whole.entries = last.entries ++ first.entries ∧
        whole.faults = last.faults ++ first.faults ∧
        t.report whole = (t.report last).report first ∧
        whole.entries.map (·.client) = ["c"] ∧ whole.faults.map (·.line) = ["x", "\ufffd"]) ∧
      lines (Utf8.decodeLossy (older ++ newer)) = lines (Utf8.decodeLossy older) ++
        ['\ufffd'] :: lines (Utf8.decodeLossy [0x78]) := by
  intro entry older newer t
  have holder : WholeLines older := Or.inr (by decide +kernel)
  have hline : 0x0a ∉ ([0xe2, 0x82] : List UInt8) := by decide
  obtain ⟨whole, last, first, hwhole, hlast, hfirst, hentries, hfaults, hreport⟩ :=
    recent_append.1 suffixRules t older newer holder
  have hclients : whole.entries.map (·.client) = ["c"] := by
    rw [← Option.some.inj hwhole]
    decide +kernel
  have hreported : whole.faults.map (·.line) = ["x", "\ufffd"] := by
    rw [← Option.some.inj hwhole]
    decide +kernel
  exact ⟨holder, hline, ⟨whole, last, first, hwhole, hlast, hfirst, hentries, hfaults, hreport,
    hclients, hreported⟩, recent_append.2 older [0xe2, 0x82] [0x78] holder hline⟩

end Tail

end ProxyPolicy
