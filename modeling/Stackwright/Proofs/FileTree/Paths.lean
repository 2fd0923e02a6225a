import Stackwright.FileTree
import Stackwright.Proofs.OrderedMap

/-!
# Following paths in changed trees

Paths are followed through directories only, so they lead where they did in every tree that keeps
the directories (`FileTree.Keeps`), whatever happens to its files.
-/

namespace Stackwright.FileTree

variable {t t' : FileTree} {p : FilePath}

/-- Relative paths start where they did, and every directory is still there. -/
structure Keeps (t t' : FileTree) : Prop where
  home : t'.home = t.home
  directories : ∀ place, t.node? place = some .directory → t'.node? place = some .directory

theorem Keeps.refl (t : FileTree) : t.Keeps t := ⟨rfl, fun _ held => held⟩

theorem Keeps.trans {t'' : FileTree} (first : t.Keeps t') (second : t'.Keeps t'') :
    t.Keeps t'' where
  home := second.home.trans first.home
  directories := fun place held => second.directories place (first.directories place held)

/-- A step that can be taken can still be taken, and leads to the same place. -/
theorem Keeps.enter (keeps : t.Keeps t') {place next : Location} {part : String}
    (entered : t.enter place part = .ok next) : t'.enter place part = .ok next := by
  unfold FileTree.enter at entered ⊢
  cases held : t.node? place with
  | none => simp [held] at entered
  | some node =>
    cases node with
    | file content => simp [held] at entered
    | directory =>
      rw [keeps.directories place held]
      simpa only [held] using entered

/-- Steps that can be taken can still be taken, and lead to the same place. -/
theorem Keeps.foldlM_enter (keeps : t.Keeps t') {place last : Location} {parts : List String}
    (entered : parts.foldlM t.enter place = .ok last) :
    parts.foldlM t'.enter place = .ok last := by
  induction parts generalizing place with
  | nil => exact entered
  | cons part rest ih =>
    rw [List.foldlM_cons] at entered ⊢
    cases step : t.enter place part with
    | error e => simp [step, bind, Except.bind] at entered
    | ok next =>
      rw [step] at entered
      rw [keeps.enter step]
      exact ih entered

/-- Walking two stretches is walking the first and going on from there. -/
theorem walk_append (front back : List String) :
    t.walk p (front ++ back) = (t.walk p front >>= back.foldlM t.enter) := by
  unfold FileTree.walk
  split
  · rfl
  · split
    · rfl
    · split
      · rfl
      · exact List.foldlM_append

/-- A walk still leads where it led. -/
theorem Keeps.walk (keeps : t.Keeps t') {parts : List String} {place : Location}
    (leads : t.walk p parts = .ok place) : t'.walk p parts = .ok place := by
  unfold FileTree.walk at leads ⊢
  rw [keeps.home]
  split at leads
  · cases leads
  · split at leads
    · cases leads
    · split at leads
      · cases leads
      · simp only [*, if_false]
        exact keeps.foldlM_enter leads

/-- The parts of the path without the empty ones at its end. -/
def steps (p : FilePath) : List String := (p.parts.reverse.dropWhile (· == "")).reverse

/-- A path leads to a named place if its last step has a name and the steps before it lead to a
directory. -/
theorem target_eq_named_iff {place : Location} {slash : Bool} :
    t.target p = .ok (.named place slash) ↔
      ∃ last parent, (steps p).getLast? = some last ∧ last ≠ "." ∧ last ≠ ".." ∧
        t.walk p (steps p).dropLast = .ok parent ∧ t.enter parent last = .ok place ∧
        slash = decide ((steps p).length < p.parts.length) := by
  have named : (p.parts.reverse.dropWhile (· == "")).reverse = steps p := rfl
  unfold FileTree.target
  simp only [named]
  cases walked : t.walk p (steps p).dropLast with
  | error e => simp [bind, Except.bind]
  | ok parent =>
    cases (steps p).getLast? with
    | none => simp [bind, Except.bind, pure, Except.pure]
    | some last =>
      cases entered : t.enter parent last with
      | error e => simp [bind, Except.bind, entered]
      | ok next =>
        by_cases idle : last = "." ∨ last = ".."
        · simp [bind, Except.bind, pure, Except.pure, entered, idle]
          grind
        · simp [bind, Except.bind, pure, Except.pure, entered, idle]
          grind

/-- A path still leads to the named place that it led to. -/
theorem Keeps.target (keeps : t.Keeps t') {place : Location} {slash : Bool}
    (leads : t.target p = .ok (.named place slash)) :
    t'.target p = .ok (.named place slash) := by
  obtain ⟨last, parent, ends, point, up, walked, entered, slashes⟩ := target_eq_named_iff.mp leads
  exact target_eq_named_iff.mpr
    ⟨last, parent, ends, point, up, keeps.walk walked, keeps.enter entered, slashes⟩

/-- The steps of a path are the first of its parts. -/
theorem steps_prefix_parts (p : FilePath) : steps p <+: p.parts := by
  rw [← List.reverse_suffix, steps, List.reverse_reverse]
  exact List.dropWhile_suffix _

theorem ne_empty_of_getLast?_steps {last : String} (ends : (steps p).getLast? = some last) :
    last ≠ "" := by
  have kept := List.head?_dropWhile_not (· == "") p.parts.reverse
  rw [steps, List.getLast?_reverse] at ends
  rw [ends] at kept
  simpa using kept

/-- A path without slashes at its end leads to the place that it names, which is not the root. -/
theorem walk_of_target {place : Location} (leads : t.target p = .ok (.named place false)) :
    t.walk p p.parts = .ok place ∧ place ≠ [] := by
  obtain ⟨last, parent, ends, point, up, walked, entered, slashes⟩ := target_eq_named_iff.mp leads
  have whole : steps p = p.parts := by
    refine (steps_prefix_parts p).eq_of_length_le ?_
    simpa using slashes
  obtain ⟨front, parts⟩ := List.getLast?_eq_some_iff.mp ends
  have named : FilePath.isIdle last = false := by
    simp [FilePath.isIdle, ne_empty_of_getLast?_steps ends, point]
  rw [parts, List.dropLast_concat] at walked
  constructor
  · rw [← whole, parts, walk_append, walked]
    simp [bind, Except.bind, entered, pure, Except.pure]
  · unfold FileTree.enter at entered
    split at entered
    · cases entered
    · cases entered
    · simp only [named, up, Bool.false_eq_true, if_false] at entered
      split at entered
      · cases entered
      · cases entered
        simp

/-- Bytes are read as a text exactly if they are its UTF-8. -/
theorem textOf_eq_ok_iff {bytes : ByteArray} {text : String} :
    textOf bytes = .ok text ↔ bytes = text.toUTF8 := by
  have decoded : String.fromUTF8? bytes = some text ↔ bytes = text.toUTF8 := by
    unfold String.fromUTF8?
    constructor
    · intro read
      split at read
      · cases read
        rfl
      · cases read
    · rintro rfl
      exact dif_pos text.isValidUTF8
  unfold textOf
  split
  · rename_i found
    rw [← decoded, found, Except.ok.injEq, Option.some.injEq]
  · rename_i missing
    rw [← decoded, missing]
    simp

/-- A file that a path leads to is read as the text it holds. -/
theorem read_of_walk {place : Location} {content : String} (leads : t.walk p p.parts = .ok place)
    (held : t.node? place = some (.file content.toUTF8)) : t.read p = .ok content := by
  unfold read
  rw [leads]
  simpa [bind, Except.bind, held] using textOf_eq_ok_iff.mpr rfl

/-- A file is read at the place that its path names. -/
theorem read_of_target {place : Location} {content : String}
    (leads : t.target p = .ok (.named place false))
    (held : t.node? place = some (.file content.toUTF8)) : t.read p = .ok content :=
  read_of_walk (walk_of_target leads).1 held

end Stackwright.FileTree
