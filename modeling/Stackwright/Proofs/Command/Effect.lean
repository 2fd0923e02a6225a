import Stackwright.Proofs.Command.Compile

/-!
# What a compile changes

A compile to a file that succeeds leaves the tree as it is, or changes the file, the draft beside it
and the directories that the file needs, and nothing else (`Command.effect_of_compile`). The draft
may have been a file of its own before, and that file is lost
(`Command.not_keeps_others_of_compile`).
-/

namespace Stackwright

/-- The file at `goal` may have changed, the one at `start` is gone unless it is the same, and
besides them only directories were added, at places that one of the paths names. -/
structure FileTree.ChangesOnly (t t' : FileTree) (goal start : Location) (paths : List FilePath) :
    Prop where
  exists_goal : (t'.content? goal).isSome = true
  removed : start ≠ goal → t'.node? start = none
  files : ∀ place, place ≠ goal → place ≠ start → t'.content? place = t.content? place
  /-- Files that are read by their paths, as far as these lead to neither of the two. -/
  reads : ∀ p text, t.read p = .ok text → t.walk p p.parts ≠ .ok goal →
    t.walk p p.parts ≠ .ok start → t'.read p = .ok text
  directories : ∀ place, t.node? place = some .directory → t'.node? place = some .directory
  added : ∀ place, t.node? place = none → t'.node? place = some .directory →
    ∃ p ∈ paths, ∃ slash, t'.target p = .ok (.named place slash)

namespace FileTree

variable {t t' : FileTree} {path : FilePath} {content : ByteArray} {goal start : Location}

/-- A place has a content exactly if a plain file stands there. -/
theorem content?_eq_some_iff {place : Location} :
    t.content? place = some content ↔ t.node? place = some (.file content) := by
  unfold content?
  split <;> simp_all

/-- A text is read only from a plain file that holds its bytes. -/
theorem read_ok {p : FilePath} {text : String} (held : t.read p = .ok text) :
    ∃ place, t.walk p p.parts = .ok place ∧ t.node? place = some (.file text.toUTF8) := by
  unfold read at held
  cases leads : t.walk p p.parts with
  | error e => simp [leads, bind, Except.bind] at held
  | ok place =>
    simp only [leads, bind, Except.bind] at held
    split at held
    · rename_i bytes found
      rw [textOf_eq_ok_iff] at held
      exact ⟨place, rfl, held ▸ found⟩
    · cases held
    · cases held

/-- Replacing a file keeps every directory. -/
theorem Replaces.keeps (replaces : t.Replaces t' path content goal start) : t.Keeps t' where
  home := replaces.home
  directories := by
    intro place held
    have apartGoal : place ≠ goal := fun same => replaces.files.1 (same ▸ held)
    have apartStart : place ≠ start := fun same => replaces.files.2 (same ▸ held)
    rcases replaces.elsewhere place apartGoal apartStart with same | ⟨absent, _⟩
    · rw [same, held]
    · rw [absent] at held
      cases held

/-- Replacing a file changes its own place and the one of its draft, and adds directories around it;
nothing else changes. -/
theorem Replaces.changesOnly (replaces : t.Replaces t' path content goal start) :
    t.ChangesOnly t' goal start path.enclosing where
  exists_goal := by rw [content?_eq_some_iff.mpr replaces.written]; rfl
  removed := replaces.removed
  files := by
    intro place apartGoal apartStart
    unfold content?
    rcases replaces.elsewhere place apartGoal apartStart with same | ⟨absent, made, _⟩
    · rw [same]
    · rw [absent, made]
  reads := by
    intro p text held apartGoal apartStart
    obtain ⟨place, leads, found⟩ := read_ok held
    rw [leads, Ne, Except.ok.injEq] at apartGoal apartStart
    refine read_of_walk (replaces.keeps.walk leads) ?_
    rcases replaces.elsewhere place apartGoal apartStart with same | ⟨absent, _⟩
    · rw [same, found]
    · rw [absent] at found
      cases found
  directories := replaces.keeps.directories
  added := by
    intro place absent made
    have apartGoal : place ≠ goal := by
      rintro rfl
      rw [replaces.written] at made
      cases made
    have apartStart : place ≠ start := by
      rintro rfl
      rw [replaces.removed apartGoal] at made
      cases made
    rcases replaces.elsewhere place apartGoal apartStart with same | ⟨_, _, named⟩
    · rw [same, absent] at made
      cases made
    · exact named

end FileTree

namespace Command

/-- **A compile touches its output and the draft beside it.** Where the file already holds the
template, nothing changes at all. -/
theorem effect_of_compile {s s' : Storage} {file output : FilePath} {format : TemplateFormat}
    {o : Outcome} (ran : runIn s (.compile file (some output) format) = (o, s'))
    (succeeded : o.failure = none) :
    s'.tree = s.tree ∨ ∃ goal start, s'.tree.target output = .ok (.named goal false) ∧
      s'.tree.target (output.withExtension "tmp") = .ok (.named start false) ∧
      s.tree.ChangesOnly s'.tree goal start output.enclosing := by
  obtain ⟨t, _, ⟨_, same, _⟩ | ⟨_, goal, start, replaces⟩⟩ := compile_ok ran succeeded
  · exact .inl same
  · exact .inr ⟨goal, start, replaces.goal_named, replaces.start_named, replaces.changesOnly⟩

/-- The files of a project: a definition, and a file that has the name of a draft. -/
def projectWithDraft : FileTree where
  nodes := .ofList [(["f.json"], .file "\x7b\"name\":\"f\"\x7d".toUTF8),
    (["out.tmp"], .file "keep".toUTF8)]
  home := []

/-- A compile into a missing directory creates it and leaves the file outside of it alone. -/
theorem effect_projectWithDraft : ∃ o s' goal start,
    runIn ⟨projectWithDraft, []⟩ (.compile ⟨"f.json"⟩ (some ⟨"build/out.json"⟩) .json) = (o, s') ∧
      o.failure = none ∧ s'.tree.node? ["build"] = some .directory ∧
      s'.tree.target ⟨"build/out.json"⟩ = .ok (.named goal false) ∧
      projectWithDraft.ChangesOnly s'.tree goal start (FilePath.enclosing ⟨"build/out.json"⟩) := by
  have succeeded : (runIn ⟨projectWithDraft, []⟩ (.compile ⟨"f.json"⟩ (some ⟨"build/out.json"⟩)
      .json)).1.failure = none := Option.isNone_iff_eq_none.mp (by decide +kernel)
  have made : (runIn ⟨projectWithDraft, []⟩ (.compile ⟨"f.json"⟩ (some ⟨"build/out.json"⟩)
      .json)).2.tree.node? ["build"] = some .directory := by decide +kernel
  rcases effect_of_compile (Prod.eta _).symm succeeded with
    same | ⟨goal, start, named, _, changes⟩
  · have absent : projectWithDraft.node? ["build"] = none := by decide +kernel
    rw [same, absent] at made
    cases made
  · exact ⟨_, _, goal, start, (Prod.eta _).symm, succeeded, made, named, changes⟩

/-- A file beside the output is lost if it has the name of the draft. -/
theorem not_keeps_others_of_compile :
    ¬ ∀ (tree tree' : FileTree) (file output : FilePath) (format : TemplateFormat) (o : Outcome),
      runOn tree (.compile file (some output) format) = (o, tree') → o.failure = none →
      ∀ goal, tree'.target output = .ok (.named goal false) →
      ∀ place, place ≠ goal → tree'.content? place = tree.content? place := by
  intro keeps
  have succeeded : (runOn projectWithDraft (.compile ⟨"f.json"⟩ (some ⟨"out.json"⟩)
      .json)).1.failure = none := Option.isNone_iff_eq_none.mp (by decide +kernel)
  have named : (runOn projectWithDraft (.compile ⟨"f.json"⟩ (some ⟨"out.json"⟩)
      .json)).2.target ⟨"out.json"⟩ = .ok (.named ["out.json"] false) :=
    eq_ok_of_toOption (by decide +kernel)
  have lost : (runOn projectWithDraft (.compile ⟨"f.json"⟩ (some ⟨"out.json"⟩)
      .json)).2.content? ["out.tmp"] = none := by decide +kernel
  have kept := keeps _ _ _ _ _ _ (Prod.eta _).symm succeeded _ named ["out.tmp"] (by decide)
  rw [lost] at kept
  revert kept
  decide +kernel

end Command

end Stackwright
