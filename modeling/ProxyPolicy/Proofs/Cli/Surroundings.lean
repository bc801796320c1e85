import Mathlib.Tactic.SplitIfs
import ProxyPolicy.Proofs.Cli.Run

/-!
# Surroundings that keep a store

What the program relies on when it keeps the policy in its surroundings (`Host.Lawful`): looking at
files changes no store, and neither does opening one, which makes the store if there is none; and a
store that is saved is there afterwards. A directory of files keeps its stores in this way, also
when two paths lead to the same file (`Directory.lawful`).
-/

namespace ProxyPolicy.Cli

open ProxyPolicy.Policy

/-- Surroundings that keep stores. `medium` is what there is at each path, in each state. -/
structure Host.Lawful {σ : Type} (host : Host (StateM σ)) (medium : σ → String → Medium) :
    Prop where
  /-- Asking for a path changes no store. -/
  pathExists : ∀ path w, medium ((host.pathExists path).run w).2 = medium w
  /-- Reading changes no store. -/
  readFile : ∀ path w, medium ((host.readFile path).run w).2 = medium w
  /-- Opening a store changes none. -/
  openStore : ∀ path w, medium ((host.openStore path).run w).2 = medium w
  /-- What is opened is what there is. -/
  opened : ∀ path w, ((host.openStore path).run w).1 = medium w path
  /-- A private store is empty. -/
  closed : ∀ path w, isPrivatePath path = true → medium w path = .store .empty
  /-- A store that is saved is there. -/
  saveStore : ∀ path t t' w, isPrivatePath path = false → medium w path = .store t →
    medium ((host.saveStore path t').run w).2 path = .store t'

/-- Surroundings that keep stores keep all of them while files are looked at and stores opened. -/
theorem Host.Lawful.keeps {σ : Type} {host : Host (StateM σ)} {medium : σ → String → Medium}
    (h : host.Lawful medium) (before : String → Medium) : host.Keeps (medium · = before) where
  pathExists path w hw := (h.pathExists path w).trans hw
  readFile path w hw := (h.readFile path w).trans hw
  openStore path w hw := (h.openStore path w).trans hw

/-! ## A directory -/

namespace Directory

variable {d : Directory} {path other name : String} {content : Content} {t t' : Tables}

/-- A path that leads to a file finds what the file of its name holds. -/
theorem get?_of_name (h : fileName? path = some name) :
    d.get? path = (d.files.find? (·.1 = name)).map (·.2) := by
  unfold get?
  rw [h]
  rfl

/-- A file holds what was put into it. -/
theorem get?_put (h : fileName? path = some name) (hother : fileName? other = some name) :
    (d.put path content).get? other = some content := by
  have hnone : (d.files.filter (·.1 ≠ name)).find? (·.1 = name) = none := by
    simp [List.find?_eq_none]
  rw [get?_of_name hother]
  unfold put
  rw [h]
  dsimp only
  rw [List.find?_append, hnone]
  simp

/-- Other files hold what they held. -/
theorem get?_put_of_ne (h : fileName? other ≠ fileName? path) :
    (d.put path content).get? other = d.get? other := by
  cases hname : fileName? path with
  | none =>
    unfold put
    rw [hname]
  | some name =>
    cases hother : fileName? other with
    | none =>
      unfold get?
      rw [hother]
      rfl
    | some name' =>
      have hne : name ≠ name' := fun heq => h (by rw [hother, hname, heq])
      have hsame : (d.files.filter (·.1 ≠ name)).find? (·.1 = name') =
          d.files.find? (·.1 = name') := by
        rw [List.find?_filter]
        congr 1
        funext file
        by_cases hfile : file.1 = name'
        · simp [hfile, hne.symm]
        · simp [hfile]
      rw [get?_of_name hother, get?_of_name hother]
      unfold put
      rw [hname]
      dsimp only
      rw [List.find?_append, hsame]
      simp [hne]

/-- What there is at a path to a file, if the path does not mean a private store. -/
theorem medium_of_name (hpath : isPrivatePath path = false) (h : fileName? path = some name) :
    d.medium path =
      match d.get? path with
      | none => .store .empty
      | some (.octets bytes) => mediumOfOctets bytes
      | some (.store tables) => .store tables := by
  unfold medium
  have hpublic : ¬isPrivatePath path = true := by simp [hpath]
  have hfile : ¬(fileName? path).isNone = true := by simp [h]
  exact (if_neg hpublic).trans (if_neg hfile)

/-- Where there is a store that is not private, there is a file. -/
theorem exists_fileName? (hpath : isPrivatePath path = false) (h : d.medium path = .store t) :
    ∃ name, fileName? path = some name := by
  cases hname : fileName? path with
  | some name => exact ⟨name, rfl⟩
  | none =>
    unfold medium at h
    simp [hpath, hname] at h

/-- A store that is saved is there, on every path to its file. -/
theorem medium_put (hother : isPrivatePath other = false) (h : fileName? path = some name)
    (hname : fileName? other = some name) : (d.put path (.store t)).medium other = .store t := by
  rw [medium_of_name hother hname, get?_put h hname]

/-- Saving a store as it is changes no store. -/
theorem medium_save_self (h : d.medium path = .store t) : (d.save path t).medium = d.medium := by
  cases hpath : isPrivatePath path with
  | true =>
    unfold save
    rw [if_pos hpath]
  | false =>
    obtain ⟨name, hname⟩ := exists_fileName? hpath h
    unfold save
    rw [if_neg (by simp [hpath])]
    funext other
    cases hprivate : isPrivatePath other with
    | true =>
      unfold medium
      rw [if_pos hprivate, if_pos hprivate]
    | false =>
      by_cases hother : fileName? other = some name
      · -- The two paths lead to the same file, in which the store is already.
        rw [medium_put hprivate hname hother, ← h, medium_of_name hpath hname,
          medium_of_name hprivate hother, get?_of_name hname, get?_of_name hother]
      · unfold medium
        rw [get?_put_of_ne (by rwa [hname])]

/-- Opening gives what there is at a path, and a store that is opened is kept. -/
theorem run_openStore (d : Directory) (path : String) :
    (host.openStore path).run d =
      match d.medium path with
      | .store t => (.store t, d.save path t)
      | medium => (medium, d) := by
  have hrun : (host.openStore path).run d = (do
      match d.medium path with
      | .store t => modify (·.save path t)
      | _ => pure ()
      return d.medium path : StateM Directory Medium).run d := rfl
  rw [hrun]
  cases d.medium path <;> rfl

/-- A directory keeps its stores. -/
theorem lawful : host.Lawful medium where
  pathExists _ _ := rfl
  readFile _ _ := rfl
  openStore path w := by
    rw [run_openStore]
    cases h : w.medium path with
    | store t => exact medium_save_self h
    | foreign => rfl
    | unreachable => rfl
  opened path w := by
    rw [run_openStore]
    cases w.medium path <;> rfl
  closed path w h := if_pos h
  saveStore path t t' w hpath h := by
    obtain ⟨name, hname⟩ := exists_fileName? hpath h
    have hsaved : ((host.saveStore path t').run w).2 = w.put path (.store t') :=
      if_neg (by simp [hpath])
    rw [hsaved, medium_put hpath hname hname]

end Directory

end ProxyPolicy.Cli
