import Stackwright.Proofs.FileTree.Operations
import Stackwright.Storage

/-!
# How operations on files end

An operation that happens as a whole ends with its effect or with the tree as it was, whatever goes
wrong (`Storage.perform_cases`). From this follows what is left of the operations that are made of
several: of a file that is not written to its end, a beginning (`Storage.write_cases`); of
directories that cannot all be created, some (`Storage.extends_makeDirectories`).
-/

namespace Stackwright.Storage

open FileTree

variable {α β : Type} {s s' : Storage} {p : FilePath}

/-- A run of two operations goes through the storage that the first one leaves. -/
theorem bind_cases {first : StateM Storage α} {next : α → StateM Storage β} {b : β}
    (ran : (first >>= next) s = (b, s')) :
    ∃ a between, first s = (a, between) ∧ next a between = (b, s') :=
  ⟨(first s).1, (first s).2, rfl, ran⟩

/-- Looking for the next mishap changes no file. -/
theorem tree_of_nextMishap {mishap : Option Mishap} (next : nextMishap s = (mishap, s')) :
    s'.tree = s.tree := by
  cases next
  rfl

/-- An operation has its effect, or the tree is as it was. -/
theorem perform_cases {operation : FileTree → Except FileError (α × FileTree)}
    {result : Except FileError α} (ran : perform operation s = (result, s')) :
    (∃ a, result = .ok a ∧ operation s.tree = .ok (a, s'.tree)) ∨
      ∃ e, result = .error e ∧ s'.tree = s.tree := by
  obtain ⟨mishap, between, next, ran⟩ := bind_cases ran
  rw [← tree_of_nextMishap next]
  split at ran
  · cases ran
    exact .inr ⟨_, rfl, rfl⟩
  · split at ran
    · rename_i done
      cases ran
      exact .inl ⟨_, rfl, done⟩
    · cases ran
      exact .inr ⟨_, rfl, rfl⟩

/-- An operation that asks the tree for a result has the effect of the result, or the tree is as it
was. -/
theorem perform_map_cases {given : FileTree → Except FileError β}
    {effect : FileTree → β → α × FileTree} {result : Except FileError α}
    (ran : perform (fun t => (given t).map (effect t)) s = (result, s')) :
    (∃ b, given s.tree = .ok b ∧ result = .ok (effect s.tree b).1 ∧
        s'.tree = (effect s.tree b).2) ∨
      ∃ e, result = .error e ∧ s'.tree = s.tree := by
  refine (perform_cases ran).imp_left ?_
  rintro ⟨a, rfl, done⟩
  cases found : given s.tree with
  | error e =>
    rw [found] at done
    cases done
  | ok b =>
    rw [found] at done
    have same : effect s.tree b = (a, s'.tree) := Except.ok.inj done
    exact ⟨b, rfl, by rw [same], by rw [same]⟩

/-- Reading changes nothing, and what is read is what the tree holds. -/
theorem read_cases {result : Except FileError String} (ran : read p s = (result, s')) :
    s'.tree = s.tree ∧ ∀ text, result = .ok text → s.tree.read p = .ok text := by
  rcases perform_map_cases ran with ⟨text, held, rfl, same⟩ | ⟨e, rfl, same⟩
  · refine ⟨same, fun content read => ?_⟩
    rw [held, ← read]
  · exact ⟨same, nofun⟩

/-- Where nothing goes wrong, reading is what it is on the tree. -/
theorem read_undisturbed (t : FileTree) (p : FilePath) :
    read p ⟨t, []⟩ = (t.read p, ⟨t, []⟩) := by
  unfold read
  cases found : t.read p <;> simp [perform, nextMishap, found, bind, StateT.bind, Except.map]

/-- A renaming is done as the tree does it, or fails and changes nothing. -/
theorem rename_cases {source destination : FilePath} {result : Except FileError Unit}
    (ran : rename source destination s = (result, s')) :
    (result = .ok () ∧ s.tree.rename source destination = .ok s'.tree) ∨
      ∃ e, result = .error e ∧ s'.tree = s.tree := by
  refine (perform_map_cases ran).imp_left ?_
  rintro ⟨changed, moved, rfl, same⟩
  exact ⟨rfl, same ▸ moved⟩

/-- A file that is opened holds the bytes afterwards, or a beginning of them and an error. -/
theorem fill_cases {place : Location} {content : ByteArray} {result : Except FileError Unit}
    (ran : fill place content s = (result, s')) :
    (result = .ok () ∧ s'.tree = s.tree.setNode place (.file content)) ∨
      ∃ e written, result = .error e ∧
        s'.tree = s.tree.setNode place (.file (content.extract 0 written)) := by
  obtain ⟨mishap, between, next, ran⟩ := bind_cases ran
  rw [← tree_of_nextMishap next]
  split at ran
  · cases ran
    exact .inr ⟨_, _, rfl, rfl⟩
  · cases ran
    exact .inl ⟨rfl, rfl⟩

/-- **How a write ends.** The file is not opened, and nothing has changed; or it is, and holds the
text afterwards, or a beginning of it and an error. -/
theorem write_cases {content : String} {result : Except FileError Unit}
    (ran : write p content s = (result, s')) :
    (∃ e, result = .error e ∧ s'.tree = s.tree) ∨
      ∃ place, s.tree.target p = .ok (.named place false) ∧
        s.tree.node? place ≠ some .directory ∧
        ((result = .ok () ∧ s'.tree = s.tree.setNode place (.file content.toUTF8)) ∨
          ∃ e written, result = .error e ∧
            s'.tree = s.tree.setNode place (.file (content.toUTF8.extract 0 written))) := by
  obtain ⟨opened, between, created, ran⟩ := bind_cases ran
  rcases perform_cases created with ⟨place, rfl, made⟩ | ⟨e, rfl, same⟩
  · obtain ⟨leads, free, emptied⟩ := create_ok made
    have filled := fill_cases ran
    rw [emptied, setNode_setNode] at filled
    simp only [setNode_setNode] at filled
    exact .inr ⟨place, leads, free, filled⟩
  · cases ran
    exact .inl ⟨e, rfl, same⟩

/-- A file that was there is cut off when the disk is full. -/
example : ((write ⟨"notes"⟩ "the new notes" ⟨⟨.ofList [(["notes"], .file "old".toUTF8)], []⟩,
    [none, some ⟨.other "No space left on device (os error 28)", 7⟩]⟩).2.tree.content? ["notes"]) =
      some "the new".toUTF8 := by decide +kernel

/-- An attempt to make a directory adds that directory at most. -/
theorem extends_makeDirectory {paths : List FilePath} (member : p ∈ paths)
    {result : Except FileError Unit} (ran : makeDirectory p s = (result, s')) :
    s.tree.Extends s'.tree paths := by
  rcases perform_map_cases ran with ⟨changed, made, _, same⟩ | ⟨_, _, same⟩
  · rw [same]
    exact extends_of_makeDirectory member made
  · rw [same]
    exact .refl _ paths

/-- Looking whether a directory is there after all changes nothing. -/
theorem tree_of_settle {e : FileError} {result : Except FileError Unit}
    (ran : makeDirectories.settle p e s = (result, s')) : s'.tree = s.tree := by
  obtain ⟨found, between, looked, ran⟩ := bind_cases ran
  obtain ⟨seen, after, saw, looked⟩ := bind_cases looked
  have same : after.tree = s.tree := by
    rcases perform_cases saw with ⟨_, _, done⟩ | ⟨_, _, same⟩
    · exact (Prod.mk.inj (Except.ok.inj done)).2.symm
    · exact same
  rw [← same]
  cases ran
  split at looked <;> cases looked <;> rfl

/-- Creating directories adds directories, all of them or some. -/
theorem extends_makeDirectories {paths : List FilePath} {result : Except FileError Unit}
    (ran : makeDirectories paths s = (result, s')) : s.tree.Extends s'.tree paths := by
  induction paths generalizing s s' result with
  | nil =>
    cases ran
    exact .refl _ []
  | cons p parents ih =>
    obtain ⟨first, tried, made, ran⟩ := bind_cases ran
    have more : s.tree.Extends tried.tree (p :: parents) :=
      extends_makeDirectory List.mem_cons_self made
    split at ran
    · cases ran
      exact more
    · split at ran
      · cases ran
        exact more
      · obtain ⟨outer, around, outside, ran⟩ := bind_cases ran
        have wider : s.tree.Extends around.tree (p :: parents) :=
          more.trans ((ih outside).mono fun q member => List.mem_cons_of_mem p member)
        split at ran
        · cases ran
          exact wider
        · obtain ⟨second, retried, again, ran⟩ := bind_cases ran
          have whole : s.tree.Extends retried.tree (p :: parents) :=
            wider.trans (extends_makeDirectory List.mem_cons_self again)
          split at ran
          · cases ran
            exact whole
          · rwa [tree_of_settle ran]
    · rwa [tree_of_settle ran]

end Stackwright.Storage
