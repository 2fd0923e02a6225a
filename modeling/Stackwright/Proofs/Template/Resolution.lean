import Stackwright.Proofs.Template.Verdict

/-!
# Names with a dot

A placeholder `${Resource.Attribute}` stands for a resource, so the check of names looks a name up
by what stands before its first dot. It does so for every name: a declared name that holds a dot is
refused unless what stands before the dot is declared too, and a name that is not declared passes
if that is. These are the only names that it judges in another way than is documented
(`Template.resolvesAsDocumented_iff`).
-/

namespace Stackwright.Template

/-- The name is of the platform, or that of a parameter or resource of the template. -/
def Recognises (t : Template) (name : String) : Prop := OfPlatform name ∨ t.Names name

/-- The name is that of a resource of the template, with an attribute after a dot. -/
def RecognisesAttribute (t : Template) (name : String) : Prop :=
  ∃ id property, name = id ++ "." ++ property ∧ t.resources.contains id = true

/-- The check of names does not object to the name of a parameter or resource or of the platform;
and when it passes, references have such names, and placeholders these or those of attributes. -/
structure ResolvesAsDocumented (t : Template) : Prop where
  spares : ∀ location name, t.OffendsFirst location (.value name) → ¬ t.Recognises name
  refs : t.firstOpen = none → ∀ body ∈ t.bodies, ∀ name,
    Json.Binds "Ref" (.string name) body → t.Recognises name
  placeholders : t.firstOpen = none → ∀ body ∈ t.bodies, ∀ text,
    Json.Binds "Fn::Sub" (.string text) body → ∀ name ∈ Expr.placeholders text,
      t.Recognises name ∨ t.RecognisesAttribute name

/-- Of the name and what stands before its first dot, the template declares one only. -/
def Misreads (t : Template) (name : String) : Prop :=
  ¬ OfPlatform name ∧ (t.Names (baseName name) ↔ ¬ t.Names name)

variable {t : Template} {name : String}

/-- Only a name with a dot is misread. -/
theorem Misreads.dot_mem (misread : t.Misreads name) : '.' ∈ name.toList := by
  refine Decidable.byContradiction fun dotFree => ?_
  have opposite := misread.2
  rw [baseName_eq_self dotFree] at opposite
  exact iff_not_self opposite

/-- Misread names are those that the check judges in the other way. -/
theorem misreads_iff : t.Misreads name ↔ (t.resolves name = true ↔ ¬ t.Recognises name) := by
  rw [resolves_iff]
  by_cases platform : OfPlatform name <;> simp [Misreads, Recognises, platform]

/-- Of the names that resolve, those misread are not recognised. -/
theorem recognises_iff_of_resolves (passes : t.resolves name = true) :
    t.Recognises name ↔ ¬ t.Misreads name := by
  simp [misreads_iff, passes]

/-- Of the names that are reported, those misread are recognised. -/
theorem recognises_iff_of_offendsFirst {location : String}
    (offends : t.OffendsFirst location (.value name)) : t.Recognises name ↔ t.Misreads name := by
  obtain ⟨_, _, refused, _⟩ := offends
  rw [declares] at refused
  simp [misreads_iff, refused]

/-- **Which names are judged as documented.** A name is misread only if it holds a dot. The check
resolves the names of a template as documented if and only if it does not object to a misread name,
and no reference that it lets pass is misread, nor a placeholder except that of an attribute. -/
theorem resolvesAsDocumented_iff (t : Template) :
    (∀ name, t.Misreads name → '.' ∈ name.toList) ∧
    (t.ResolvesAsDocumented ↔
      (∀ location name, t.OffendsFirst location (.value name) → ¬ t.Misreads name) ∧
      (t.firstOpen = none → ∀ body ∈ t.bodies,
        (∀ name, Json.Binds "Ref" (.string name) body → ¬ t.Misreads name) ∧
        ∀ text, Json.Binds "Fn::Sub" (.string text) body → ∀ name ∈ Expr.placeholders text,
          t.Misreads name → t.RecognisesAttribute name)) := by
  have declared : t.firstOpen = none → t.NamesDeclared := fun passes =>
    closed_iff_namesDeclared.mp ((firstOpen_eq_none_iff t).mp passes)
  refine ⟨fun _ => Misreads.dot_mem, ?_, ?_⟩
  · rintro ⟨spares, refs, placeholders⟩
    refine ⟨fun location name offends misread => ?_, fun passes body member => ⟨?_, ?_⟩⟩
    · exact spares location name offends ((recognises_iff_of_offendsFirst offends).mpr misread)
    · intro name bound
      have resolved := (declared passes).refs body member name bound
      exact (recognises_iff_of_resolves resolved).mp (refs passes body member name bound)
    · intro text bound name listed misread
      have resolved := (declared passes).placeholders body member text bound name listed
      refine (placeholders passes body member text bound name listed).resolve_left ?_
      exact fun recognised => (recognises_iff_of_resolves resolved).mp recognised misread
  · rintro ⟨spares, reads⟩
    refine ⟨fun location name offends recognised => ?_, fun passes body member name bound => ?_,
      fun passes body member text bound name listed => ?_⟩
    · exact spares location name offends ((recognises_iff_of_offendsFirst offends).mp recognised)
    · have resolved := (declared passes).refs body member name bound
      exact (recognises_iff_of_resolves resolved).mpr ((reads passes body member).1 name bound)
    · have resolved := (declared passes).placeholders body member text bound name listed
      by_cases misread : t.Misreads name
      · exact .inr ((reads passes body member).2 text bound name listed misread)
      · exact .inl ((recognises_iff_of_resolves resolved).mpr misread)

/-- A parameter `app.stage`, and an output that refers to it. -/
def dottedParameter : Template where
  parameters := .ofList [("app.stage", .text none)]
  outputs := .ofList [("Stage", ⟨.ref "app.stage"⟩)]

/-- The parameter `app.stage` is declared, but the check looks for `app`. -/
theorem not_resolvesAsDocumented : ¬ ∀ t : Template, t.ResolvesAsDocumented := by
  intro always
  have offends : dottedParameter.OffendsFirst "Outputs.Stage" (.value "app.stage") :=
    offendsFirst_iff.mpr (by decide +kernel)
  have declared : dottedParameter.Recognises "app.stage" := .inr (.inl (by decide +kernel))
  exact (always dottedParameter).spares "Outputs.Stage" "app.stage" offends declared

end Stackwright.Template
