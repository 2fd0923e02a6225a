import Stackwright.Compilation
import Stackwright.Proofs.OrderedMap

/-!
# The sections of a template

Each section is a run of writes to an ordered map: the parameters that are needed and the two fixed
ones, the guards of the variables and the fixed one, the environment, and the resources, which have
different names for every table. Guards are only written when each condition has one owner.
-/

namespace Stackwright

/-- The variable declared last under a name. -/
def Requirements.lastNamed (r : Requirements) (name : String) : Option Variable :=
  r.environment.reverse.find? fun v => decide (v.name = name)

namespace Requirements

variable {r : Requirements} {q : Parameter}

/-- What a listed permission needs is required. -/
theorem mem_parameters_of_permission {p : Permission} (listed : p ∈ r.permissions)
    (needed : q ∈ p.parameters) : q ∈ r.parameters :=
  List.mem_append_left _ (List.mem_append_left _ (List.mem_flatMap.mpr ⟨p, listed, needed⟩))

theorem mem_parameters_of_variable {v : Variable} (listed : v ∈ r.environment)
    (needed : q ∈ v.parameters) : q ∈ r.parameters :=
  List.mem_append_left _ (List.mem_append_right _ (List.mem_flatMap.mpr ⟨v, listed, needed⟩))

end Requirements

namespace Compilation

/-- Names with different beginnings differ, whatever follows. -/
theorem append_ne_append {a b : String} (apart : ¬ a.toList <+: b.toList ∧ ¬ b.toList <+: a.toList)
    (x y : String) : a ++ x ≠ b ++ y := by
  intro same
  have lists : a.toList ++ x.toList = b.toList ++ y.toList := by
    rw [← String.toList_append, same, String.toList_append]
  rcases List.prefix_or_prefix_of_prefix (List.prefix_append a.toList x.toList)
    (lists ▸ List.prefix_append b.toList y.toList) with shorter | longer
  · exact apart.1 shorter
  · exact apart.2 longer

/-- A text that is no prefix of another, nor the other of it, differs from every extension of the
other. -/
theorem ne_append {a b : String} (apart : ¬ a.toList <+: b.toList ∧ ¬ b.toList <+: a.toList)
    (y : String) : a ≠ b ++ y := by
  have differ := append_ne_append apart "" y
  rwa [String.append_empty] at differ

/-- Declaring parameters is a run of writes under their names. -/
theorem declare_fst (declared : OrderedMap String ParameterDecl) (ps : List Parameter) :
    (declare declared ps).1 =
      declared.insertMany (ps.map fun p => (p.name, .text p.defaultValue)) := by
  induction ps generalizing declared with
  | nil => rfl
  | cons p rest ih => exact ih (declared.insert p.name (.text p.defaultValue))

/-- The names that are declared are those of the required parameters. -/
theorem mem_keys_declare_iff {r : Requirements} {key : String} :
    key ∈ (declare .empty r.parameters.eraseDups).1.keys ↔ ∃ p ∈ r.parameters, p.name = key := by
  simp only [declare_fst, OrderedMap.mem_keys_insertMany, OrderedMap.keys_empty, List.not_mem_nil,
    false_or, List.map_map, List.mem_map, List.mem_eraseDups, Function.comp_apply]

/-- The parameters are the two fixed ones and the required ones. -/
theorem mem_keys_parameters {name : String} {r : Requirements} {key : String} :
    key ∈ (parameters name r).1.keys ↔
      key = resourceNameParameter ∨ key = envParameter ∨ ∃ p ∈ r.parameters, p.name = key := by
  simp only [parameters, declareFixed, OrderedMap.mem_keys_insert, mem_keys_declare_iff]

/-- The parameters are the different ones that are required and then the two fixed ones. -/
theorem parameters_fst (name : String) (r : Requirements) :
    (parameters name r).1 = OrderedMap.ofList
      (r.parameters.eraseDups.map (fun p => (p.name, .text p.defaultValue)) ++
        [(envParameter, .text none), (resourceNameParameter, .text (some name))]) := by
  simp only [parameters, declareFixed, declare_fst, OrderedMap.ofList, OrderedMap.insertMany_append,
    OrderedMap.insertMany_cons, OrderedMap.insertMany_nil]

/-- Variables that need one condition are the same. -/
def GuardsAgree (vs : List Variable) : Prop :=
  ∀ a ∈ vs, ∀ b ∈ vs, ∀ condition ∈ a.conditions.map Prod.fst,
    condition ∈ b.conditions.map Prod.fst → a = b

/-- A variable that could write its guards now owns them, and nobody else did before. -/
theorem claim_ok {v : Variable} {owners owners' : List (String × Variable)}
    {declared declared' : OrderedMap String Expr} {pairs : List (String × Expr)}
    (claimed : guards.claim v owners declared pairs = .ok (owners', declared')) :
    declared' = declared.insertMany pairs ∧
      (∀ condition, findEntry condition owners' =
        if condition ∈ pairs.map Prod.fst then some v else findEntry condition owners) ∧
      ∀ condition ∈ pairs.map Prod.fst, ∀ owner,
        findEntry condition owners = some owner → owner = v := by
  induction pairs generalizing owners declared with
  | nil =>
    cases claimed
    exact ⟨rfl, fun _ => by simp, fun _ absent => by cases absent⟩
  | cons pair rest ih =>
    obtain ⟨first, guard⟩ := pair
    unfold guards.claim at claimed
    split at claimed
    · rename_i owner found
      split at claimed
      · rename_i own
        subst own
        obtain ⟨written, owned, free⟩ := ih claimed
        refine ⟨written, ?_, ?_⟩
        · intro condition
          rw [owned]
          by_cases same : condition = first
          · simp [same, found]
          · simp only [List.map_cons, List.mem_cons, same, false_or]
        · intro condition member other taken
          rcases List.mem_cons.mp member with rfl | later
          · exact Option.some.inj (taken.symm.trans found)
          · exact free condition later other taken
      · cases claimed
    · rename_i absent
      obtain ⟨written, owned, free⟩ := ih claimed
      refine ⟨written, ?_, ?_⟩
      · intro condition
        rw [owned]
        by_cases same : condition = first
        · simp [same]
        · simp only [List.map_cons, List.mem_cons, same, false_or,
            findEntry_setEntry_of_ne same]
      · intro condition member other taken
        by_cases same : condition = first
        · rw [same, absent] at taken
          cases taken
        · have later := (List.mem_cons.mp member).resolve_left same
          exact free condition later other (by rwa [findEntry_setEntry_of_ne same])

/-- Guards that are granted are a run of writes, no condition had another owner, and the guards
agree. -/
theorem guards_ok {owners : List (String × Variable)} {declared declared' : OrderedMap String Expr}
    {vs : List Variable} (guarded : guards owners declared vs = .ok declared') :
    declared' = declared.insertMany (vs.flatMap Variable.conditions) ∧
      (∀ a ∈ vs, ∀ condition ∈ a.conditions.map Prod.fst, ∀ owner,
        findEntry condition owners = some owner → owner = a) ∧
      GuardsAgree vs := by
  induction vs generalizing owners declared with
  | nil =>
    cases guarded
    exact ⟨rfl, fun _ absent => (List.not_mem_nil absent).elim,
      fun _ absent => (List.not_mem_nil absent).elim⟩
  | cons v rest ih =>
    unfold guards at guarded
    cases claimed : guards.claim v owners declared v.conditions with
    | error reason => simp [claimed, bind, Except.bind] at guarded
    | ok next =>
      obtain ⟨owners', between⟩ := next
      simp only [claimed, bind, Except.bind] at guarded
      obtain ⟨rfl, owned, free⟩ := claim_ok claimed
      obtain ⟨rfl, freeRest, agree⟩ := ih guarded
      -- the owners handed on name `v` for its conditions, so no other variable gets past them
      have owner_of_rest : ∀ b ∈ rest, ∀ condition ∈ v.conditions.map Prod.fst,
          condition ∈ b.conditions.map Prod.fst → v = b := by
        intro b member condition ofFirst ofLater
        exact freeRest b member condition ofLater v (by rw [owned, if_pos ofFirst])
      refine ⟨?_, ?_, ?_⟩
      · rw [List.flatMap_cons, OrderedMap.insertMany_append]
      · intro a member condition needs owner taken
        rcases List.mem_cons.mp member with rfl | later
        · exact free condition needs owner taken
        · by_cases ofFirst : condition ∈ v.conditions.map Prod.fst
          · rw [free condition ofFirst owner taken]
            exact owner_of_rest a later condition ofFirst needs
          · exact freeRest a later condition needs owner (by rw [owned, if_neg ofFirst, taken])
      · intro a first b second condition ofA ofB
        rcases List.mem_cons.mp first with rfl | inRest
        · rcases List.mem_cons.mp second with rfl | alsoInRest
          · rfl
          · exact owner_of_rest b alsoInRest condition ofA ofB
        · rcases List.mem_cons.mp second with rfl | alsoInRest
          · exact (owner_of_rest a inRest condition ofB ofA).symm
          · exact agree a inRest b alsoInRest condition ofA ofB

/-- The conditions of a function are the guards of its variables and then the fixed one. -/
theorem conditions_ok {r : Requirements} {declared : OrderedMap String Expr}
    (collected : conditions r = .ok declared) :
    declared = (OrderedMap.ofList (r.environment.flatMap Variable.conditions)).insert
        noEnvironmentCondition noEnvironmentGuard ∧ GuardsAgree r.environment := by
  have none_of_permissions : r.permissions.flatMap Permission.conditions = [] := by
    simp [Permission.conditions]
  unfold conditions at collected
  rw [none_of_permissions] at collected
  cases guarded : guards [] (OrderedMap.ofList []) r.environment with
  | error reason => simp [guarded, bind, Except.bind] at collected
  | ok all =>
    simp only [guarded, bind, Except.bind, pure, Except.pure, Except.ok.injEq] at collected
    obtain ⟨rfl, _, agree⟩ := guards_ok guarded
    exact ⟨collected.symm, agree⟩

/-- No variable's condition is the one for a missing environment. -/
theorem conditionName_ne_noEnvironmentCondition (name : String) :
    Variable.conditionName name ≠ noEnvironmentCondition := by
  have apart : ¬ noEnvironmentCondition.toList <+: "FirstNotEmpty_".toList ∧
    ¬ "FirstNotEmpty_".toList <+: noEnvironmentCondition.toList := by decide
  exact (ne_append apart name).symm

/-- The condition for a missing environment is among the collected ones. -/
theorem get?_noEnvironmentCondition {r : Requirements} {declared : OrderedMap String Expr}
    (collected : conditions r = .ok declared) :
    declared.get? noEnvironmentCondition = some noEnvironmentGuard := by
  rw [(conditions_ok collected).1, OrderedMap.get?_insert_self]

/-- No other variable of the function writes to the condition of a coalesced variable. -/
theorem get?_conditionName {r : Requirements} {declared : OrderedMap String Expr}
    (collected : conditions r = .ok declared) {name : String} {first second : ValueSource}
    (member : .coalesced name first second ∈ r.environment) :
    declared.get? (Variable.conditionName name) =
      some (.not [.equals first.expr (.literal "")]) := by
  obtain ⟨rfl, agree⟩ := conditions_ok collected
  rw [OrderedMap.get?_insert_of_ne _ (conditionName_ne_noEnvironmentCondition name)]
  apply OrderedMap.get?_ofList_of_agree
  · exact List.mem_flatMap.mpr ⟨_, member, List.mem_singleton.mpr rfl⟩
  · intro other written
    obtain ⟨v, listed, needed⟩ := List.mem_flatMap.mp written
    have same := agree v listed _ member (Variable.conditionName name)
      (List.mem_map.mpr ⟨_, needed, rfl⟩) (by simp [Variable.conditions])
    rw [same, Variable.conditions, List.mem_singleton] at needed
    exact congrArg Prod.snd needed

/-- Adding variables is a run of writes under their names. -/
theorem addVariables_fst (done : OrderedMap String Expr) (vs : List Variable) :
    (addVariables done vs).1 = done.insertMany (vs.map fun v => (v.name, v.value)) := by
  induction vs generalizing done with
  | nil => rfl
  | cons v rest ih => exact ih (done.insert v.name v.value)

/-- The variable added last is written last. -/
theorem addVariables_append_singleton_fst (done : OrderedMap String Expr) (vs : List Variable)
    (v : Variable) :
    (addVariables done (vs ++ [v])).1 = (addVariables done vs).1.insert v.name v.value := by
  rw [addVariables_fst, addVariables_fst, List.map_append, OrderedMap.insertMany_append,
    List.map_singleton, OrderedMap.insertMany_cons, OrderedMap.insertMany_nil]

/-- A name in the environment has the value of its last variable, or the fixed one if there is
none. -/
theorem get?_environment (r : Requirements) (name : String) :
    (environment r).1.get? name = ((r.lastNamed name).map Variable.value).or
      ((OrderedMap.ofList [("ENV", .ref envParameter), ("REGION", .region)]).get? name) := by
  rw [environment, addVariables_fst, OrderedMap.get?_insertMany, ← List.map_reverse, findEntry_map]
  rfl

/-- No table makes two resources share a name. -/
theorem nodup_resource_ids (t : Table) :
    [functionId, roleId, policyId, triggerPolicyId t, mappingId t].Nodup := by
  have trigger_ne_mapping : triggerPolicyId t ≠ mappingId t := by
    have apart : ¬ "LambdaTriggerPolicy".toList <+: "LambdaEventSourceMapping".toList ∧
      ¬ "LambdaEventSourceMapping".toList <+: "LambdaTriggerPolicy".toList := by decide
    exact append_ne_append apart t.tableName t.tableName
  simp only [List.nodup_cons, List.mem_cons, List.not_mem_nil, or_false, not_or, not_false_eq_true,
    List.nodup_nil, and_true]
  exact ⟨⟨by decide, by decide, ne_append (by decide) _, ne_append (by decide) _⟩,
    ⟨by decide, ne_append (by decide) _, ne_append (by decide) _⟩,
    ⟨ne_append (by decide) _, ne_append (by decide) _⟩, trigger_ne_mapping⟩

/-- Nothing is written twice, so the resources stand as they are listed. -/
theorem entries_resources (values : OrderedMap String Expr) (s : Settings) (r : Requirements) :
    (resources values s r).entries =
      [(functionId, functionResource values s), (roleId, roleResource),
        (policyId, executionPolicy r.permissions)]
      ++ r.eventSource.toList.flatMap fun t =>
        [(triggerPolicyId t, triggerPolicy t), (mappingId t, eventSourceMapping t)] := by
  unfold resources
  apply OrderedMap.entries_ofList
  cases r.eventSource with
  | none => simp [functionId, roleId, policyId]
  | some t => exact nodup_resource_ids t

/-- The resources are the function, the role and its policy, and two for an event source. -/
theorem keys_resources (values : OrderedMap String Expr) (s : Settings) (r : Requirements) :
    (resources values s r).keys =
      [functionId, roleId, policyId]
        ++ r.eventSource.toList.flatMap fun t => [triggerPolicyId t, mappingId t] := by
  rw [OrderedMap.keys, entries_resources, List.map_append, List.map_flatMap]
  rfl

/-- Permissions reach the execution policy only. -/
theorem without_policyId_resources {s : Settings} {r r' : Requirements}
    (values : OrderedMap String Expr) (same : r'.eventSource = r.eventSource) :
    (resources values s r').without [policyId] = (resources values s r).without [policyId] := by
  apply OrderedMap.eq_of_entries
  simp [OrderedMap.without, entries_resources, same, List.filter_cons]

/-- Every resource depends on resources of the function only. -/
theorem contains_of_dependsOn_resources (values : OrderedMap String Expr) (s : Settings)
    (r : Requirements) {entry : String × ResourceDecl}
    (member : entry ∈ (resources values s r).entries) {id : String}
    (needed : id ∈ entry.2.dependsOn) : (resources values s r).contains id = true := by
  rw [OrderedMap.contains_iff, keys_resources]
  rw [entries_resources] at member
  simp only [List.mem_append, List.mem_cons, List.not_mem_nil, or_false, List.mem_flatMap,
    Option.mem_toList] at member ⊢
  rcases member with (rfl | rfl | rfl) | ⟨host, source, rfl | rfl⟩
  · cases needed
  · cases needed
  · exact .inl (.inr (.inl (List.mem_singleton.mp needed)))
  · exact .inl (.inr (.inl (List.mem_singleton.mp needed)))
  · simp only [eventSourceMapping, List.mem_cons, List.not_mem_nil, or_false] at needed
    rcases needed with trigger | role
    · exact .inr ⟨host, source, .inl trigger⟩
    · exact .inl (.inr (.inl role))

/-- The function resource stands under its fixed identifier. -/
theorem get?_functionId (values : OrderedMap String Expr) (s : Settings) (r : Requirements) :
    (resources values s r).get? functionId = some (functionResource values s) := by
  rw [OrderedMap.get?_eq_some_iff, entries_resources]
  simp

theorem get?_roleId (values : OrderedMap String Expr) (s : Settings) (r : Requirements) :
    (resources values s r).get? roleId = some roleResource := by
  rw [OrderedMap.get?_eq_some_iff, entries_resources]
  simp

end Compilation

end Stackwright
