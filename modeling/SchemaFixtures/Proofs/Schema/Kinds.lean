import SchemaFixtures.Proofs.Schema.Merging
import SchemaFixtures.Sdl.Parse

/-!
# Contents of a kind

Fields belong to objects, interfaces and input objects, values to enums, and members to unions.
Every definition that a schema text writes has contents of its own kind. A merge looks at names
only: an extension adds its contents to whatever definition has its name. So a definition of a
document has contents of its kind exactly if every extension that names it brings such contents,
and an extension of another kind can leave contents behind that do not belong to the kind.
-/

namespace SchemaFixtures.Schema

/-- Whether definitions of a kind have fields. -/
def Kind.hasFields : Kind → Bool
  | .object => true
  | .interface => true
  | .inputObject => true
  | _ => false

/-- All contents of a definition are such as a kind has. -/
structure Definition.Fits (definition : Definition) (kind : Kind) : Prop where
  fields : definition.fields ≠ [] → kind.hasFields = true
  enumValues : definition.enumValues ≠ [] → kind = .enum
  unionMembers : definition.unionMembers ≠ [] → kind = .union

instance (definition : Definition) (kind : Kind) : Decidable (definition.Fits kind) :=
  decidable_of_iff
    ((definition.fields ≠ [] → kind.hasFields = true) ∧
      (definition.enumValues ≠ [] → kind = .enum) ∧ (definition.unionMembers ≠ [] → kind = .union))
    ⟨fun ⟨fields, values, members⟩ => ⟨fields, values, members⟩,
      fun fits => ⟨fits.fields, fits.enumValues, fits.unionMembers⟩⟩

/-- Contents that are put together fit a kind exactly if both parts do. -/
theorem Definition.extend_fits (base extension : Definition) (kind : Kind) :
    (base.extend extension).Fits kind ↔ base.Fits kind ∧ extension.Fits kind := by
  have both {α : Type} (first second : List α) (holds : Prop) :
      (first ++ second ≠ [] → holds) ↔ (first ≠ [] → holds) ∧ (second ≠ [] → holds) := by
    rw [ne_eq, List.append_eq_nil_iff, Classical.not_and_iff_not_or_not, or_imp]
  constructor
  · rintro ⟨fields, values, members⟩
    obtain ⟨ownFields, moreFields⟩ := (both _ _ _).mp fields
    obtain ⟨ownValues, moreValues⟩ := (both _ _ _).mp values
    obtain ⟨ownMembers, moreMembers⟩ := (both _ _ _).mp members
    exact ⟨⟨ownFields, ownValues, ownMembers⟩, ⟨moreFields, moreValues, moreMembers⟩⟩
  · rintro ⟨own, more⟩
    exact ⟨(both _ _ _).mpr ⟨own.fields, more.fields⟩,
      (both _ _ _).mpr ⟨own.enumValues, more.enumValues⟩,
      (both _ _ _).mpr ⟨own.unionMembers, more.unionMembers⟩⟩

theorem Definition.append_fits (base : Definition) (extensions : List Definition) (kind : Kind) :
    (base.append extensions).Fits kind ↔
      base.Fits kind ∧ ∀ extension ∈ extensions, extension.Fits kind := by
  induction extensions generalizing base with
  | nil => simp
  | cons extension rest inductionHypothesis =>
    rw [append_cons, inductionHypothesis, extend_fits, and_assoc, List.forall_mem_cons]

/-! ## What a schema text writes -/

/-- Every form that is written is lowered to contents of its kind. -/
theorem written_fits {written : Sdl.Definition} {definition : Definition}
    (lowers : written.lower? = some definition) : definition.Fits definition.kind := by
  cases written with
  | schema | schemaExtension | operation | fragment => cases lowers
  | scalar _ _ | scalarExtension _ | directive _ _ =>
    cases lowers
    exact ⟨by simp, by simp, by simp⟩
  | object _ _ _ | interface _ _ _ | inputObject _ _ _ | objectExtension _ _
  | interfaceExtension _ _ | inputObjectExtension _ _ =>
    cases lowers
    exact ⟨fun _ => rfl, by simp, by simp⟩
  | enum _ _ _ | enumExtension _ _ =>
    cases lowers
    exact ⟨by simp, fun _ => rfl, by simp⟩
  | union _ _ _ | unionExtension _ _ =>
    cases lowers
    exact ⟨by simp, by simp, fun _ => rfl⟩

/-- No form extends a directive. -/
theorem written_lowered (written : List Sdl.Definition) :
    Lowered (written.filterMap (·.lower?)) := by
  intro definition member
  obtain ⟨original, -, lowers⟩ := List.mem_filterMap.mp member
  cases original <;> cases lowers <;> simp

theorem written_each_fit (written : List Sdl.Definition) :
    ∀ definition ∈ written.filterMap (·.lower?), definition.Fits definition.kind := by
  intro definition member
  obtain ⟨original, -, lowers⟩ := List.mem_filterMap.mp member
  exact written_fits lowers

/-! ## What a merge leaves -/

/-- The base of a key is one of its definitions. -/
theorem base?_mem {own : List Definition} {base : Definition} (isBase : base? own = some base) :
    base ∈ own := by
  rcases Option.or_eq_some_iff.mp isBase with declared | ⟨-, first⟩
  · exact List.mem_of_find?_eq_some declared
  · exact List.mem_of_head? first

/-- If the base of a key fits a kind, then what is added to it does so exactly if all extensions
of the key do. -/
theorem contributions_fit_iff {own : List Definition} {base : Definition} {kind : Kind}
    (isBase : base? own = some base) (fits : base.Fits kind) :
    (∀ extension ∈ contributions own, extension.Fits kind) ↔
      ∀ extension ∈ own, extension.isExtension = true → extension.Fits kind := by
  rw [contributions]
  split
  · rename_i undeclared
    have extensions := List.all_eq_true.mp undeclared
    -- The first extension is the base here, and it is not added to itself.
    cases own with
    | nil => simp
    | cons first rest =>
      have none : (first :: rest).find? (!·.isExtension) = none :=
        List.find?_eq_none.mpr fun other member => by simp [extensions other member]
      rw [base?, none, Option.none_or, List.head?_cons, Option.some_inj] at isBase
      subst isBase
      rw [List.tail_cons]
      constructor
      · exact fun others extension member _ =>
          (List.mem_cons.mp member).elim (fun same => same ▸ fits) (others extension)
      · exact fun all extension member =>
          all extension (List.mem_cons_of_mem _ member)
            (extensions extension (List.mem_cons_of_mem _ member))
  · simp only [List.mem_filter, and_imp]

/-- The extensions that name a definition decide whether it has contents of its kind. For every
schema text that is accepted, a definition has fields only as an object, an interface or an input
object, values only as an enum and members only as a union, exactly if no extension with its name
brings contents that the kind of the definition does not have. All is well where these extensions
are of the kind that they extend. -/
theorem contents_fit_unless_crossed {source path : String} {document : Document}
    (parsed : Sdl.parseSchema source path = .ok document) :
    ∃ written, Sdl.definitions source.toList = .ok written ∧
      ∀ definition ∈ document.definitions,
        let own := ofKey (written.filterMap (·.lower?)) definition.key
        (definition.Fits definition.kind ↔
          ∀ extension ∈ own, extension.isExtension = true → extension.Fits definition.kind) ∧
        ((∀ extension ∈ own, extension.isExtension = true → extension.kind = definition.kind) →
          definition.Fits definition.kind) := by
  rw [Sdl.parseSchema, Sdl.parse] at parsed
  cases read : Sdl.definitions source.toList with
  | error failure =>
    rw [read] at parsed
    cases parsed
  | ok written =>
    rw [read] at parsed
    cases parsed
    refine ⟨written, rfl, ?_⟩
    intro definition member own
    obtain ⟨base, order, isBase, perm, merged⟩ :=
      document_merges (written_lowered written) member
    have kept : definition.kind = base.kind := by rw [merged, Definition.append]
    have among {other : Definition} (listed : other ∈ own) : other.Fits other.kind :=
      written_each_fit written other (List.mem_filter.mp listed).1
    have exactly : definition.Fits definition.kind ↔
        ∀ extension ∈ own, extension.isExtension = true → extension.Fits definition.kind := by
      have fits : base.Fits definition.kind := kept ▸ among (base?_mem isBase)
      rw [← contributions_fit_iff isBase fits]
      calc definition.Fits definition.kind
          ↔ (base.append order).Fits definition.kind := by rw [← merged]
        _ ↔ ∀ extension ∈ order, extension.Fits definition.kind := by
            rw [Definition.append_fits, and_iff_right fits]
        _ ↔ _ := by simp only [perm.mem_iff]
    refine ⟨exactly, fun same => exactly.mpr fun extension listed late => ?_⟩
    rw [← same extension listed late]
    exact among listed

/-- An object that is extended as an enum has a value, which the extension brings. -/
theorem crossed_role_has_values :
    let source := "type Role { id: ID! } extend enum Role { ADMIN }"
    ∃ document written, Sdl.parseSchema source "" = .ok document ∧
      Sdl.definitions source.toList = .ok written ∧
      ∃ role ∈ document.definitions, role.kind = .object ∧ role.enumValues = ["ADMIN"] ∧
        ∃ extension ∈ ofKey (written.filterMap (·.lower?)) role.key,
          extension.isExtension = true ∧ ¬ extension.Fits .object := by
  intro source
  let role : Definition :=
    { name := "Role", kind := .object, fields := [⟨"id", .nonNull (.named "ID")⟩],
      enumValues := ["ADMIN"] }
  have accepted : (Sdl.parseSchema source "").toOption = some ⟨[role]⟩ := by decide +kernel
  have parsed : Sdl.parseSchema source "" = .ok ⟨[role]⟩ := by
    cases parsed : Sdl.parseSchema source "" with
    | error _ => rw [parsed] at accepted; cases accepted
    | ok document => rw [parsed] at accepted; cases accepted; rfl
  obtain ⟨written, read, fits⟩ := contents_fit_unless_crossed parsed
  refine ⟨_, written, parsed, read, role, List.mem_singleton_self role, rfl, rfl, ?_⟩
  have misfit : ¬ role.Fits role.kind := by decide
  have crossed := mt (fits role (List.mem_singleton_self role)).1.mpr misfit
  simp only [Classical.not_forall] at crossed
  obtain ⟨extension, listed, late, unfit⟩ := crossed
  exact ⟨extension, listed, late, unfit⟩

end SchemaFixtures.Schema
