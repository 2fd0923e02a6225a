import Stackwright.Proofs.FileTree.Paths

/-!
# What operations on files change

Each step that succeeds changes the node at the places that its paths name and no other, and none of
them removes a directory. Creating directories adds directories where nothing was
(`FileTree.Extends`).
-/

namespace Stackwright.FileTree

variable {t t' : FileTree} {p : FilePath}

/-- Setting a node below the root changes what stands at its place, and nothing else. -/
theorem node?_setNode {place : Location} (below : place ≠ []) (node : Node) (other : Location) :
    (t.setNode place node).node? other = if other = place then some node else t.node? other := by
  unfold node? setNode
  by_cases root : other = []
  · simp [root, Ne.symm below]
  · simp only [root, if_false, OrderedMap.get?_insert]

/-- A node that is set where no directory stands keeps all directories. -/
theorem keeps_setNode {place : Location} (below : place ≠ []) {node : Node}
    (free : t.node? place ≠ some .directory) : t.Keeps (t.setNode place node) where
  home := rfl
  directories := by
    intro other held
    have apart : other ≠ place := fun same => free (same ▸ held)
    rw [node?_setNode below, if_neg apart, held]

/-- Of two nodes that are put at one place, the later one stays. -/
theorem setNode_setNode (t : FileTree) (place : Location) (first second : Node) :
    (t.setNode place first).setNode place second = t.setNode place second := by
  unfold setNode
  rw [OrderedMap.insert_insert]

/-- A file that is created stands empty where its path leads, where no directory stood. -/
theorem create_ok {place : Location} (opened : t.create p = .ok (place, t')) :
    t.target p = .ok (.named place false) ∧ t.node? place ≠ some .directory ∧
      t' = t.setNode place (.file .empty) := by
  unfold create at opened
  cases leads : t.target p with
  | error e => simp [leads, bind, Except.bind] at opened
  | ok goal =>
    simp only [leads, bind, Except.bind] at opened
    split at opened
    · split at opened
      · cases opened
      · rename_i free
        cases opened
        exact ⟨rfl, free, rfl⟩
    · cases opened

/-- Moving a node empties its place and fills another. -/
theorem node?_move {start goal : Location} (startBelow : start ≠ []) (goalBelow : goal ≠ [])
    (node : Node) (other : Location) :
    node? { t with nodes := (t.nodes.erase start).insert goal node } other =
      if other = goal then some node else if other = start then none else t.node? other := by
  unfold node?
  by_cases root : other = []
  · simp [root, Ne.symm startBelow, Ne.symm goalBelow]
  · simp only [root, if_false, OrderedMap.get?_insert, OrderedMap.get?_erase]

/-- A move takes the node from its place, if that is not where it goes. -/
theorem rename_ok {source destination : FilePath} (moved : t.rename source destination = .ok t') :
    ∃ start goal node, t.target source = .ok (.named start false) ∧
      t.target destination = .ok (.named goal false) ∧ t.node? start = some node ∧
      t.node? goal ≠ some .directory ∧ t'.home = t.home ∧
      ∀ other, t'.node? other =
        if other = goal then some node else if other = start then none else t.node? other := by
  unfold rename at moved
  cases starts : t.target source with
  | error e => simp [starts, bind, Except.bind] at moved
  | ok first =>
    simp only [starts, bind, Except.bind] at moved
    split at moved
    · rename_i start
      split at moved
      · cases moved
      · rename_i node held
        cases ends : t.target destination with
        | error e => simp [ends] at moved
        | ok second =>
          simp only [ends] at moved
          split at moved
          · cases moved
          · cases moved
          · rename_i goal
            split at moved
            · cases moved
            · rename_i free
              have startBelow := (walk_of_target starts).2
              have goalBelow := (walk_of_target ends).2
              split at moved
              · rename_i same
                cases moved
                refine ⟨start, goal, node, rfl, rfl, held, free, rfl, fun other => ?_⟩
                by_cases here : other = goal
                · rw [if_pos here, here, same, held]
                · rw [if_neg here, if_neg (same ▸ here)]
              · cases moved
                exact ⟨start, goal, node, rfl, rfl, held, free, rfl,
                  node?_move startBelow goalBelow node⟩
    · cases moved

/-- Where neither of the two places holds a directory, a move keeps all directories. -/
theorem keeps_of_move {start goal : Location} {node : Node} (home : t'.home = t.home)
    (startFree : t.node? start ≠ some .directory) (goalFree : t.node? goal ≠ some .directory)
    (nodes : ∀ other, t'.node? other =
      if other = goal then some node else if other = start then none else t.node? other) :
    t.Keeps t' where
  home := home
  directories := by
    intro place held
    have apartGoal : place ≠ goal := fun same => goalFree (same ▸ held)
    have apartStart : place ≠ start := fun same => startFree (same ▸ held)
    rw [nodes, if_neg apartGoal, if_neg apartStart, held]

/-- A directory is made only where nothing stood. -/
theorem makeDirectory_ok (made : t.makeDirectory p = .ok t') :
    ∃ place slash, t.target p = .ok (.named place slash) ∧ t.node? place = none ∧
      t' = t.setNode place .directory := by
  unfold makeDirectory at made
  cases leads : t.target p with
  | error e => simp [leads, bind, Except.bind] at made
  | ok goal =>
    simp only [leads, bind, Except.bind] at made
    split at made
    · rename_i place slash
      split at made
      · cases made
      · rename_i free
        cases made
        exact ⟨place, slash, rfl, by simpa using free, rfl⟩
    · cases made

/-- The tree has all nodes of the other, and besides them only directories at places that one of
the paths names. -/
structure Extends (t t' : FileTree) (paths : List FilePath) : Prop where
  home : t'.home = t.home
  nodes : ∀ place, t'.node? place = t.node? place ∨
    (t.node? place = none ∧ t'.node? place = some .directory ∧
      ∃ p ∈ paths, ∃ slash, t'.target p = .ok (.named place slash))

theorem Extends.refl (t : FileTree) (paths : List FilePath) : t.Extends t paths :=
  ⟨rfl, fun _ => .inl rfl⟩

/-- An extended tree keeps its directories. -/
theorem Extends.keeps {paths : List FilePath} (more : t.Extends t' paths) : t.Keeps t' where
  home := more.home
  directories := by
    intro place held
    rcases more.nodes place with same | ⟨absent, _⟩
    · rw [same, held]
    · rw [absent] at held
      cases held

/-- A tree that is extended on some paths is extended on more. -/
theorem Extends.mono {paths wider : List FilePath} (more : t.Extends t' paths)
    (within : ∀ p ∈ paths, p ∈ wider) : t.Extends t' wider where
  home := more.home
  nodes := fun place => (more.nodes place).imp_right fun ⟨absent, made, p, member, named⟩ =>
    ⟨absent, made, p, within p member, named⟩

theorem Extends.trans {t'' : FileTree} {paths : List FilePath} (first : t.Extends t' paths)
    (second : t'.Extends t'' paths) : t.Extends t'' paths where
  home := second.home.trans first.home
  nodes := by
    intro place
    rcases first.nodes place with same | ⟨absent, made, p, member, slash, named⟩
    · rw [← same]
      exact second.nodes place
    · right
      exact ⟨absent, second.keeps.directories place made, p, member, slash,
        second.keeps.target named⟩

/-- Making a directory extends the tree. -/
theorem extends_of_makeDirectory {paths : List FilePath} (member : p ∈ paths)
    (made : t.makeDirectory p = .ok t') : t.Extends t' paths := by
  obtain ⟨place, slash, leads, absent, rfl⟩ := makeDirectory_ok made
  have below : place ≠ [] := by
    rintro rfl
    simp [node?] at absent
  have keeps : t.Keeps (t.setNode place .directory) := keeps_setNode below (by simp [absent])
  refine ⟨rfl, fun other => ?_⟩
  rw [node?_setNode below]
  by_cases same : other = place
  · subst same
    exact .inr ⟨absent, if_pos rfl, p, member, slash, keeps.target leads⟩
  · exact .inl (if_neg same)

end Stackwright.FileTree
