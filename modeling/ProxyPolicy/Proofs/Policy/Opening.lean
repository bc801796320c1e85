import ProxyPolicy.Policy.Opening

/-!
# When a store opens

The three ways in which opening a store ends: it gives the store (`Store.open_eq_ok_iff`), it ends
the program (`Store.open_eq_timeoutTooLong_iff`), or it reports a fault, which is all that is left
(`Store.open_ok_or_fault_iff`).
-/

namespace ProxyPolicy.Policy

/-- The storage has something against a mode of its journal exactly when there is a NUL in it. -/
theorem journalFault?_eq_none_iff {mode : String} :
    journalFault? mode = none ↔ '\x00' ∉ mode.toList := by
  unfold journalFault?
  by_cases hnul : '\x00' ∈ mode.toList
  · simp [hnul]
  · simp [hnul]

namespace Store

variable {settings : StoreSettings} {medium : Medium}

/-- A store opens exactly when there is one, at a path that can be, the time to wait for other
connections is one that the storage can be told, and so is the mode of its journal. -/
theorem open_eq_ok_iff {s : Store} :
    Store.open settings medium = .ok s ↔
      nulPosition? settings.path = none ∧ settings.busyTimeoutMs ≤ maxBusyTimeoutMs ∧
        '\x00' ∉ settings.journalMode.toList ∧ medium = .store s.tables ∧ s.locked = false := by
  obtain ⟨tables, locked⟩ := s
  rw [← journalFault?_eq_none_iff]
  unfold Store.open
  cases nulPosition? settings.path with
  | some position => simp
  | none =>
    by_cases hwait : maxBusyTimeoutMs < settings.busyTimeoutMs
    · cases medium <;> simp [hwait, Nat.not_le.mpr hwait]
    · cases journalFault? settings.journalMode with
      | some fault => cases medium <;> simp [hwait]
      | none => cases medium <;> simp [hwait, Nat.not_lt.mp hwait, eq_comm]

/-- Opening a store ends the program exactly when it comes to tell the storage a time that is too
long: the path can be, and there is something or can be. -/
theorem open_eq_timeoutTooLong_iff :
    Store.open settings medium = .error .timeoutTooLong ↔
      nulPosition? settings.path = none ∧ medium ≠ .unreachable ∧
        maxBusyTimeoutMs < settings.busyTimeoutMs := by
  unfold Store.open
  cases nulPosition? settings.path with
  | some position => simp
  | none =>
    by_cases hwait : maxBusyTimeoutMs < settings.busyTimeoutMs
    · cases medium <;> simp [hwait]
    · cases journalFault? settings.journalMode with
      | some fault => cases medium <;> simp [hwait]
      | none => cases medium <;> simp [hwait]

/-- Opening a store gives it or reports a fault exactly when it does not end the program. -/
theorem open_ok_or_fault_iff :
    ((∃ s, Store.open settings medium = .ok s) ∨
      ∃ fault, Store.open settings medium = .error (.fault fault)) ↔
      Store.open settings medium ≠ .error .timeoutTooLong := by
  rcases Store.open settings medium with (fault | _) | s
  · simp
  · simp
  · simp

end Store

end ProxyPolicy.Policy
