import SchemaFixtures.Proofs.Schema.Merging

/-!
# Extensions on both sides of a base

Extensions before the declaration of a type wait until all definitions are read, and those
after it are folded in at once. So the contents of late extensions come before those of
early ones, and the order of the document is kept exactly when the two interchange. When a
base lists no values of its own, the first value is then the first late one, although an
early extension was written before it.
-/

namespace SchemaFixtures.Schema

/-- Two lists put together are the same in both orders. -/
def Interchange {α : Type} (first second : List α) : Prop := first ++ second = second ++ first

/-- Lists that have nothing twice interchange only when one of them is empty. -/
theorem interchange_iff_of_nodup {α : Type} {first second : List α}
    (once : (first ++ second).Nodup) : Interchange first second ↔ first = [] ∨ second = [] := by
  constructor
  · intro same
    cases first with
    | nil => exact .inl rfl
    | cons head rest =>
      cases second with
      | nil => exact .inr rfl
      | cons other others =>
        have equal : head = other := (List.cons.inj same).1
        rw [List.nodup_append] at once
        exact absurd equal (once.2.2 head List.mem_cons_self other List.mem_cons_self)
  · rintro (rfl | rfl) <;> simp [Interchange]

/-- Contents that come late first are in the order of the document exactly when the early and
the late contents interchange. -/
theorem late_first_iff {α : Type} (contents : Definition → List α) (listed : List α)
    (own : List Definition) :
    listed ++ (lateExtensions own ++ earlyExtensions own).flatMap contents =
        listed ++ (own.filter (·.isExtension)).flatMap contents ↔
      Interchange ((earlyExtensions own).flatMap contents)
        ((lateExtensions own).flatMap contents) := by
  rw [← early_append_late, List.append_cancel_left_eq, List.flatMap_append, List.flatMap_append,
    Interchange, eq_comm]

/-- A type is looked up by its name among all but the directives. -/
theorem type?_eq (document : Document) (name : String) :
    document.type? name = document.definitions.find? (·.key == ⟨false, name⟩) := by
  have same (definition : Definition) :
      (definition.kind != .directive && definition.name == name) =
        (definition.key == ⟨false, name⟩) := by
    rw [Bool.eq_iff_iff]
    simp [Definition.key]
  rw [Document.type?]
  simp only [same]

/-- The first value of a merged definition that lists none itself is the first late one, or
the first early one where nothing comes late. -/
theorem late_first_head {α : Type} (contents : Definition → List α) (own : List Definition) :
    ((lateExtensions own ++ earlyExtensions own).flatMap contents).head? =
      (((lateExtensions own).flatMap contents).head?).or
        (((earlyExtensions own).flatMap contents).head?) := by
  rw [List.flatMap_append, List.head?_append]

/-- The merged definition of a declared type. Its base comes first, then the extensions that
were written after the base, then those that were written before it. So its fields, values
and members stand in the order of the document exactly when the early and the late ones
interchange: for contents without a repeat, when all of them come from one side. A base that
lists no values or members itself leaves the first place to the first late one. -/
theorem late_extensions_come_first (definitions : List Definition)
    (lowered : Lowered definitions) (name : String) (base : Definition)
    (declared : (ofKey definitions ⟨false, name⟩).find? (!·.isExtension) = some base) :
    let own := ofKey definitions ⟨false, name⟩
    let written := own.filter (·.isExtension)
    let early := earlyExtensions own
    let late := lateExtensions own
    let merged := base.append (late ++ early)
    written = early ++ late ∧
      (Document.ofDefinitions definitions).type? name = some merged ∧
      (merged.fields = base.fields ++ written.flatMap (·.fields) ↔
        Interchange (early.flatMap (·.fields)) (late.flatMap (·.fields))) ∧
      (merged.enumValues = base.enumValues ++ written.flatMap (·.enumValues) ↔
        Interchange (early.flatMap (·.enumValues)) (late.flatMap (·.enumValues))) ∧
      (merged.unionMembers = base.unionMembers ++ written.flatMap (·.unionMembers) ↔
        Interchange (early.flatMap (·.unionMembers)) (late.flatMap (·.unionMembers))) ∧
      (∀ (α : Type) (contents : Definition → List α), (written.flatMap contents).Nodup →
        (Interchange (early.flatMap contents) (late.flatMap contents) ↔
          early.flatMap contents = [] ∨ late.flatMap contents = [])) ∧
      (base.enumValues = [] → merged.enumValues.head? =
        ((late.flatMap (·.enumValues)).head?).or ((early.flatMap (·.enumValues)).head?)) ∧
      (base.unionMembers = [] → merged.unionMembers.head? =
        ((late.flatMap (·.unionMembers)).head?).or ((early.flatMap (·.unionMembers)).head?)) := by
  intro own written early late merged
  have split : written = early ++ late := (early_append_late own).symm
  refine ⟨split, ?_, late_first_iff _ _ own, late_first_iff _ _ own, late_first_iff _ _ own,
    ?_, ?_, ?_⟩
  · rw [type?_eq, document_find? lowered]
    exact merged_declared declared
  · intro α contents once
    rw [split, List.flatMap_append] at once
    exact interchange_iff_of_nodup once
  · intro noneListed
    show (base.enumValues ++ _).head? = _
    rw [noneListed, List.nil_append]
    exact late_first_head _ own
  · intro noneListed
    show (base.unionMembers ++ _).head? = _
    rw [noneListed, List.nil_append]
    exact late_first_head _ own

/-- Of a role with an extension on each side of its empty declaration, the later value comes
first. -/
theorem scatteredRoles_late_first :
    ((Document.ofDefinitions scatteredRoles).type? "Role").map (·.enumValues) =
      some ["MEMBER", "ADMIN"] ∧
    (scatteredRoles.filter (·.isExtension)).flatMap (·.enumValues) = ["ADMIN", "MEMBER"] := by
  have lowered : Lowered scatteredRoles := by
    unfold Lowered
    decide
  have merged := (late_extensions_come_first scatteredRoles lowered "Role"
    { name := "Role", kind := .enum } (by decide)).2.1
  rw [merged]
  exact ⟨by decide, by decide⟩

end SchemaFixtures.Schema
