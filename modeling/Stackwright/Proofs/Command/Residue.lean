import Stackwright.Proofs.Command.Effect

/-!
# What a failing compile leaves behind

A compile that fails before it has a template leaves the tree as it is, and one that cannot create
the directories of its output adds at most some of them. Where the draft cannot be written to its
end or cannot be moved onto the output, the draft is left, and it holds the text of the template or
a beginning of it. Nothing else is touched, whatever goes wrong and when; what the output names is
as it was unless it is its own draft (`Command.residue_of_failed_compile`). So a failing compile
does not keep all files (`Command.not_keeps_files_of_failed_compile`).
-/

namespace Stackwright

/-- Every file outside of `touched` is as it was, and besides files only directories were added, at
places that one of the paths names. -/
structure FileTree.KeepsFiles (t t' : FileTree) (paths : List FilePath) (touched : List Location) :
    Prop where
  files : ∀ place, place ∉ touched → t'.content? place = t.content? place
  directories : ∀ place, t.node? place = some .directory → t'.node? place = some .directory
  added : ∀ place, t.node? place = none → t'.node? place = some .directory →
    ∃ p ∈ paths, ∃ slash, t'.target p = .ok (.named place slash)

/-- The draft of the path holds `content`, and it is the only file that may have changed. -/
def FileTree.LeavesDraft (t t' : FileTree) (path : FilePath) (content : ByteArray) : Prop :=
  ∃ start, t'.target path.draft = .ok (.named start false) ∧ t'.content? start = some content ∧
    t.KeepsFiles t' path.enclosing [start]

/-- What a compile of `file` to `output` leaves behind, by the way in which it fails. -/
def Command.Residue (tree tree' : FileTree) (file : FilePath) (output : Option FilePath)
    (format : TemplateFormat) : Failure → Prop
  | .unreadable .. | .unparsable .. | .invalid _ | .uncompilable _ => tree' = tree
  | .noDirectory .. =>
    ∃ path t, output = some path ∧ Command.CompilesTo tree file t ∧
      tree.KeepsFiles tree' path.enclosing []
  | .unwritable .. =>
    ∃ path t, output = some path ∧ Command.CompilesTo tree file t ∧
      (tree.KeepsFiles tree' path.enclosing [] ∨
        ∃ written, tree.LeavesDraft tree' path ((t.text format).toUTF8.extract 0 written))
  | .immovable .. =>
    ∃ path t, output = some path ∧ Command.CompilesTo tree file t ∧
      tree.LeavesDraft tree' path (t.text format).toUTF8

namespace FileTree

variable {t t' : FileTree} {path : FilePath} {paths : List FilePath} {content : ByteArray}

/-- New directories change the content of no file. -/
theorem Extends.content?_eq (more : t.Extends t' paths) (place : Location) :
    t'.content? place = t.content? place := by
  unfold content?
  rcases more.nodes place with same | ⟨absent, made, _⟩
  · rw [same]
  · rw [absent, made]

/-- New directories keep all files. -/
theorem Extends.keepsFiles (more : t.Extends t' paths) : t.KeepsFiles t' paths [] where
  files := fun place _ => more.content?_eq place
  directories := more.keeps.directories
  added := by
    intro place absent made
    rcases more.nodes place with same | ⟨_, _, named⟩
    · rw [same, absent] at made
      cases made
    · exact named

/-- A file written after directories were added is the only file that is touched. -/
theorem Extends.keepsFiles_setNode (more : t.Extends t' paths) {start : Location}
    (below : start ≠ []) (free : t'.node? start ≠ some .directory) :
    t.KeepsFiles (t'.setNode start (.file content)) paths [start] where
  files := by
    intro place apart
    rw [List.mem_singleton] at apart
    rw [← more.content?_eq place, content?, node?_setNode below, if_neg apart, content?]
  directories := fun place held =>
    (keeps_setNode below free).directories place (more.keeps.directories place held)
  added := by
    intro place absent made
    have apart : place ≠ start := by
      rintro rfl
      rw [node?_setNode below, if_pos rfl] at made
      cases made
    rw [node?_setNode below, if_neg apart] at made
    obtain ⟨p, member, slash, leads⟩ := more.keepsFiles.added place absent made
    exact ⟨p, member, slash, (keeps_setNode below free).target leads⟩

/-- What is written to the draft stays there until the draft is moved. -/
theorem Extends.leavesDraft (more : t.Extends t' path.enclosing) {start : Location}
    (leads : t'.target path.draft = .ok (.named start false))
    (free : t'.node? start ≠ some .directory) :
    t.LeavesDraft (t'.setNode start (.file content)) path content := by
  have below := (walk_of_target leads).2
  refine ⟨start, (keeps_setNode below free).target leads, ?_, more.keepsFiles_setNode below free⟩
  rw [content?_eq_some_iff, node?_setNode below, if_pos rfl]

/-- A draft that was left behind changes the content of its own place only. -/
theorem LeavesDraft.content?_eq (left : t.LeavesDraft t' path content) {place : Location}
    (apart : t'.target path.draft ≠ .ok (.named place false)) :
    t'.content? place = t.content? place := by
  obtain ⟨start, leads, _, keeps⟩ := left
  refine keeps.files place fun member => apart ?_
  rw [List.mem_singleton.mp member, leads]

end FileTree

namespace Command

variable {tree tree' : FileTree} {file path : FilePath} {output : Option FilePath}
  {format : TemplateFormat} {failure : Failure} {o : Outcome}

/-- Early failures leave nothing. -/
theorem Residue.of_isEarly (early : failure.IsEarly) (tree : FileTree) :
    Residue tree tree file output format failure := by
  cases failure with
  | unreadable | unparsable | invalid | uncompilable => rfl
  | noDirectory | unwritable | immovable => exact early.elim

/-- What a replacement that fails leaves behind. -/
theorem Residue.of_replacementEnd {t : Template} (compiles : CompilesTo tree file t)
    (ended : tree.ReplacementEnd path (t.text format).toUTF8 (.error failure) tree') :
    Residue tree tree' file (some path) format failure := by
  cases ended with
  | noDirectory more => exact ⟨path, t, rfl, compiles, more.keepsFiles⟩
  | unopened more => exact ⟨path, t, rfl, compiles, .inl more.keepsFiles⟩
  | unfinished more leads free =>
    exact ⟨path, t, rfl, compiles, .inr ⟨_, more.leavesDraft leads free⟩⟩
  | unmoved more leads free => exact ⟨path, t, rfl, compiles, more.leavesDraft leads free⟩

/-- The file that the output names is as it was, unless it is the draft. -/
theorem Residue.content?_output (left : Residue tree tree' file (some path) format failure)
    {goal : Location} (apart : tree'.target path.draft ≠ .ok (.named goal false)) :
    tree'.content? goal = tree.content? goal := by
  cases failure with
  | unreadable | unparsable | invalid | uncompilable =>
    obtain rfl : tree' = tree := left
    rfl
  | noDirectory =>
    obtain ⟨_, t, ⟨⟩, _, keeps⟩ := left
    exact keeps.files goal List.not_mem_nil
  | unwritable =>
    obtain ⟨_, t, ⟨⟩, _, keeps | ⟨written, draft⟩⟩ := left
    · exact keeps.files goal List.not_mem_nil
    · exact draft.content?_eq apart
  | immovable =>
    obtain ⟨_, t, ⟨⟩, _, draft⟩ := left
    exact draft.content?_eq apart

/-- **What a failing compile leaves behind**, whatever goes wrong with its operations. The failure
says what it is, and the file that the output names is as it was unless it is its own draft. -/
theorem residue_of_failed_compile {s s' : Storage}
    (ran : runIn s (.compile file output format) = (o, s')) (failed : o.failure = some failure) :
    Residue s.tree s'.tree file output format failure ∧
      ∀ path, output = some path → ∀ goal, s'.tree.target path = .ok (.named goal false) →
        s'.tree.target path.draft ≠ .ok (.named goal false) →
        s'.tree.content? goal = s.tree.content? goal := by
  have left : Residue s.tree s'.tree file output format failure := by
    rcases compile_cases ran with
      ⟨reason, early, isEarly, same⟩ | ⟨t, compiles, ⟨_, succeeded, _⟩ | ⟨path, rfl, ended⟩⟩
    · rw [failed, Option.some.injEq] at early
      rw [same, early]
      exact .of_isEarly isEarly _
    · rw [failed] at succeeded
      cases succeeded
    · generalize s'.tree = tree' at ended
      cases ended with
      | unchanged succeeded _ _ | written succeeded _ _ =>
        rw [failed] at succeeded
        cases succeeded
      | failed stopped ended =>
        rw [failed, Option.some.injEq] at stopped
        exact .of_replacementEnd compiles (stopped ▸ ended)
  refine ⟨left, ?_⟩
  rintro path rfl goal _ apart
  exact left.content?_output apart

/-- The files of a project whose output is the name of a directory. -/
def projectWithDirectory : FileTree where
  nodes := .ofList [(["f.json"], .file "\x7b\"name\":\"f\"\x7d".toUTF8),
    (["out.json"], .directory)]
  home := []

/-- A compile onto a directory fails when it moves the draft. -/
theorem failure_projectWithDirectory :
    ((runIn ⟨projectWithDirectory, []⟩
        (.compile ⟨"f.json"⟩ (some ⟨"out.json"⟩) .json)).1.failure.map Failure.message) =
      some "cannot rename out.tmp → out.json: Is a directory (os error 21)" := by
  decide +kernel

/-- A project where the disk is full after two bytes of a file have been written. -/
def fullDisk : Storage :=
  ⟨projectWithDraft, [none, none, none, some ⟨.other "No space left on device (os error 28)", 2⟩]⟩

/-- A compile onto the draft itself fails when it writes the draft. -/
theorem failure_fullDisk :
    ((runIn fullDisk (.compile ⟨"f.json"⟩ (some ⟨"out.tmp"⟩) .json)).1.failure.map
      Failure.message) = some "cannot write out.tmp: No space left on device (os error 28)" := by
  decide +kernel

/-- When the output is a directory the draft cannot be moved, and when the disk is full it cannot be
written to its end. -/
theorem residue_of_failed_runs :
    (∃ o s' failure,
      runIn ⟨projectWithDirectory, []⟩ (.compile ⟨"f.json"⟩ (some ⟨"out.json"⟩) .json) = (o, s') ∧
        o.failure = some failure ∧
        failure.message = "cannot rename out.tmp → out.json: Is a directory (os error 21)" ∧
        Residue projectWithDirectory s'.tree ⟨"f.json"⟩ (some ⟨"out.json"⟩) .json failure) ∧
    ∃ o s' failure,
      runIn fullDisk (.compile ⟨"f.json"⟩ (some ⟨"out.tmp"⟩) .json) = (o, s') ∧
        o.failure = some failure ∧
        failure.message = "cannot write out.tmp: No space left on device (os error 28)" ∧
        Residue fullDisk.tree s'.tree ⟨"f.json"⟩ (some ⟨"out.tmp"⟩) .json failure := by
  obtain ⟨immovable, failed, message⟩ := Option.map_eq_some_iff.mp failure_projectWithDirectory
  obtain ⟨unwritable, stopped, reason⟩ := Option.map_eq_some_iff.mp failure_fullDisk
  exact ⟨⟨_, _, immovable, (Prod.eta _).symm, failed, message,
      (residue_of_failed_compile (Prod.eta _).symm failed).1⟩,
    _, _, unwritable, (Prod.eta _).symm, stopped, reason,
      (residue_of_failed_compile (Prod.eta _).symm stopped).1⟩

/-- A failed move leaves the draft. -/
theorem not_keeps_files_of_failed_compile :
    ¬ ∀ (tree tree' : FileTree) (file : FilePath) (output : Option FilePath)
        (format : TemplateFormat) (o : Outcome),
      runOn tree (.compile file output format) = (o, tree') → o.failure ≠ none →
      ∀ place, tree'.content? place = tree.content? place := by
  intro keeps
  obtain ⟨failure, failed, _⟩ := Option.map_eq_some_iff.mp failure_projectWithDirectory
  have left : ((runIn ⟨projectWithDirectory, []⟩ (.compile ⟨"f.json"⟩ (some ⟨"out.json"⟩)
      .json)).2.tree.content? ["out.tmp"]).isSome = true := by decide +kernel
  have ran : runOn projectWithDirectory (.compile ⟨"f.json"⟩ (some ⟨"out.json"⟩) .json) =
    ((runIn ⟨projectWithDirectory, []⟩ (.compile ⟨"f.json"⟩ (some ⟨"out.json"⟩) .json)).1,
      (runIn ⟨projectWithDirectory, []⟩ (.compile ⟨"f.json"⟩ (some ⟨"out.json"⟩) .json)).2.tree) :=
    rfl
  have kept := keeps _ _ _ _ _ _ ran (by rw [failed]; exact Option.some_ne_none _) ["out.tmp"]
  have absent : projectWithDirectory.content? ["out.tmp"] = none := by decide +kernel
  rw [kept, absent] at left
  cases left

end Command

end Stackwright
