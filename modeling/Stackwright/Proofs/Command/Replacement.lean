import Stackwright.Command.Run
import Stackwright.Proofs.Storage

/-!
# Replacing a file

A file is replaced by way of a draft beside it, which has the extension `tmp`. Where that succeeds,
the file holds the new content and the draft is gone, directories that the path needs may be new,
and everything else is as it was (`FileTree.ReplacementEnd.replaces`). It can fail at each of its
steps, and what has been done until then remains (`Command.replacementEnd_of_replaceFile`).
-/

namespace Stackwright

open FileTree

/-- The path of the file beside a file that is to be replaced. -/
def FilePath.draft (path : FilePath) : FilePath := path.withExtension "tmp"

/-- The directories that a path lies in, from the inside out. -/
def FilePath.enclosing (path : FilePath) : List FilePath :=
  path.parent?.toList.flatMap FilePath.ancestors

/-- The second tree comes from the first by replacing the file at `goal`, which the path names, by
way of the one at `start`. -/
structure FileTree.Replaces (t t' : FileTree) (path : FilePath) (content : ByteArray)
    (goal start : Location) : Prop where
  goal_named : t'.target path = .ok (.named goal false)
  start_named : t'.target path.draft = .ok (.named start false)
  written : t'.node? goal = some (.file content)
  removed : start ≠ goal → t'.node? start = none
  files : t.node? goal ≠ some .directory ∧ t.node? start ≠ some .directory
  elsewhere : ∀ place, place ≠ goal → place ≠ start → t'.node? place = t.node? place ∨
    (t.node? place = none ∧ t'.node? place = some .directory ∧
      ∃ p ∈ path.enclosing, ∃ slash, t'.target p = .ok (.named place slash))
  home : t'.home = t.home

/-- How the replacement of a file ends, by its result and the tree that it leaves. Up to the draft
nothing has happened but that directories were added, which makes `made` of the tree. -/
inductive FileTree.ReplacementEnd (t : FileTree) (path : FilePath) (content : ByteArray) :
    Except Failure Unit → FileTree → Prop
  /-- Not all of the directories could be created. -/
  | noDirectory {made : FileTree} {directory : FilePath} {e : FileError}
      (more : t.Extends made path.enclosing) :
      ReplacementEnd t path content (.error (.noDirectory directory e)) made
  /-- The draft could not be opened. -/
  | unopened {made : FileTree} {e : FileError} (more : t.Extends made path.enclosing) :
      ReplacementEnd t path content (.error (.unwritable path.draft e)) made
  /-- The draft was opened, but not written to its end. -/
  | unfinished {made : FileTree} {start : Location} {e : FileError} {written : Nat}
      (more : t.Extends made path.enclosing)
      (leads : made.target path.draft = .ok (.named start false))
      (free : made.node? start ≠ some .directory) :
      ReplacementEnd t path content (.error (.unwritable path.draft e))
        (made.setNode start (.file (content.extract 0 written)))
  /-- The draft was written, but not moved. -/
  | unmoved {made : FileTree} {start : Location} {e : FileError}
      (more : t.Extends made path.enclosing)
      (leads : made.target path.draft = .ok (.named start false))
      (free : made.node? start ≠ some .directory) :
      ReplacementEnd t path content (.error (.immovable path.draft path e))
        (made.setNode start (.file content))
  | moved {made replaced : FileTree} {start : Location} (more : t.Extends made path.enclosing)
      (leads : made.target path.draft = .ok (.named start false))
      (free : made.node? start ≠ some .directory)
      (renamed : (made.setNode start (.file content)).rename path.draft path = .ok replaced) :
      ReplacementEnd t path content (.ok ()) replaced

namespace FileTree

variable {t t' : FileTree} {path : FilePath} {content : ByteArray}

/-- **A replacement that succeeds.** -/
theorem ReplacementEnd.replaces (ended : t.ReplacementEnd path content (.ok ()) t') :
    ∃ goal start, t.Replaces t' path content goal start := by
  cases ended with
  | @moved made _ start more startLeads startFree renamed =>
    have startBelow := (walk_of_target startLeads).2
    have keepsDraft : made.Keeps (made.setNode start (.file content)) :=
      keeps_setNode startBelow startFree
    have held : (made.setNode start (.file content)).node? start = some (.file content) := by
      rw [node?_setNode startBelow, if_pos rfl]
    obtain ⟨start', goal, node, leads, goalLeads, moved, goalFree, home, nodes⟩ :=
      rename_ok renamed
    -- the draft is moved from the place where it was written
    have again := keepsDraft.target startLeads
    rw [leads, Except.ok.injEq, Target.named.injEq] at again
    obtain ⟨rfl, -⟩ := again
    rw [held, Option.some.injEq] at moved
    subst moved
    have keepsMoved : (made.setNode start' (.file content)).Keeps t' :=
      keeps_of_move home (by simp [held]) goalFree nodes
    have keepsBoth := keepsDraft.trans keepsMoved
    refine ⟨goal, start', ?_⟩
    exact {
      goal_named := keepsMoved.target goalLeads
      start_named := keepsMoved.target leads
      written := by rw [nodes, if_pos rfl]
      removed := fun apart => by rw [nodes, if_neg apart, if_pos rfl]
      files := ⟨fun directory => goalFree (keepsDraft.directories _
          (more.keeps.directories _ directory)),
        fun directory => startFree (more.keeps.directories _ directory)⟩
      elsewhere := by
        intro place apartGoal apartStart
        have same : t'.node? place = made.node? place := by
          rw [nodes, if_neg apartGoal, if_neg apartStart, node?_setNode startBelow,
            if_neg apartStart]
        rw [same]
        refine (more.nodes place).imp_right ?_
        rintro ⟨absent, directory, p, member, slash, named⟩
        exact ⟨absent, directory, p, member, slash, keepsBoth.target named⟩
      home := home.trans more.home }

end FileTree

namespace Command

variable {path : FilePath} {s s' : Storage} {result : Except Failure Unit}

/-- Creating the directories of a path adds directories, whether it succeeds or not. -/
theorem prepare_cases
    (prepared : (replaceFile.prepare path : StateM Storage (Except Failure Unit)) s =
      (result, s')) :
    s.tree.Extends s'.tree path.enclosing ∧
      ∀ failure, result = .error failure → ∃ directory e, failure = .noDirectory directory e := by
  unfold replaceFile.prepare at prepared
  cases found : path.parent?.filter fun parent => parent.text != "" with
  | none =>
    rw [found] at prepared
    cases prepared
    exact ⟨.refl s.tree path.enclosing, fun failure failed => by cases failed⟩
  | some parent =>
    rw [found] at prepared
    obtain ⟨outer, _⟩ := Option.filter_eq_some_iff.mp found
    obtain ⟨created, between, made, ended⟩ := Storage.bind_cases prepared
    cases ended
    constructor
    · have more := Storage.extends_makeDirectories made
      simpa [FilePath.enclosing, outer] using more
    · intro failure failed
      cases created with
      | ok value => cases failed
      | error e =>
        cases failed
        exact ⟨parent, e, rfl⟩

/-- **How a replacement ends**, whatever goes wrong with its operations. -/
theorem replacementEnd_of_replaceFile {content : String}
    (ran : (replaceFile path content : StateM Storage (Except Failure Unit)) s = (result, s')) :
    s.tree.ReplacementEnd path content.toUTF8 result s'.tree := by
  obtain ⟨prepared, made, preparing, ran⟩ := Storage.bind_cases ran
  obtain ⟨more, unprepared⟩ := prepare_cases preparing
  split at ran
  · cases ran
    obtain ⟨directory, e, rfl⟩ := unprepared _ rfl
    exact .noDirectory more
  · obtain ⟨wrote, drafted, writing, ran⟩ := Storage.bind_cases ran
    rcases Storage.write_cases writing with
      ⟨e, rfl, same⟩ | ⟨start, leads, free, ⟨rfl, whole⟩ | ⟨e, written, rfl, cut⟩⟩
    · cases ran
      rw [same]
      exact .unopened more
    · obtain ⟨moved, after, moving, ran⟩ := Storage.bind_cases ran
      rcases Storage.rename_cases moving with ⟨rfl, renamed⟩ | ⟨e, rfl, same⟩
      · cases ran
        rw [whole] at renamed
        exact .moved more leads free renamed
      · cases ran
        rw [same, whole]
        exact .unmoved more leads free
    · cases ran
      rw [cut]
      exact .unfinished more leads free

end Command

end Stackwright
