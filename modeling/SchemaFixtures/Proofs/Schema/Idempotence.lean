import SchemaFixtures.Proofs.Schema.Contents
import SchemaFixtures.Proofs.Schema.Merging

/-!
# Merging what is merged already

In a document every key stands once, and the extensions that stand for a declaration come behind
all declarations. When such a list is read again, a declaration is new whenever it is met. An
extension finds nothing under its key, so it waits, and it is placed at the end, as it was when
it was merged first. The list comes out as it was.
-/

namespace SchemaFixtures.Schema

/-! ## A list with every key once -/

/-- Definitions, each under its own key. -/
def keyed (definitions : List Definition) : Known :=
  definitions.map fun definition => (definition.key, definition)

theorem definitions_keyed (definitions : List Definition) :
    (keyed definitions).map (·.2) = definitions := by
  rw [keyed, List.map_map]
  exact List.map_id definitions

theorem keys_keyed (definitions : List Definition) :
    (keyed definitions).keys = definitions.map Definition.key := List.map_map

/-- Nothing is known under a key that is still to come. -/
theorem has_of_once {known : Known} {key : Key} {others : List Key}
    (once : (known.keys ++ key :: others).Nodup) : known.has key = false := by
  rw [← Bool.not_eq_true, Known.has_iff]
  intro member
  exact (List.nodup_append.mp once).2.2 key member key List.mem_cons_self rfl

/-- If no key comes twice, declarations become known one after another and all extensions
wait, whatever their order is. -/
theorem foldl_add_once {definitions : List Definition} {gathering : Gathering}
    (once : (gathering.known.keys ++ definitions.map Definition.key).Nodup) :
    definitions.foldl Gathering.add gathering =
      ⟨gathering.known ++ keyed (definitions.filter (!·.isExtension)),
        gathering.waiting ++ definitions.filter (·.isExtension)⟩ := by
  induction definitions generalizing gathering with
  | nil => simp [keyed]
  | cons definition rest inductionHypothesis =>
    rw [List.map_cons] at once
    have missing := has_of_once once
    rw [List.foldl_cons]
    cases late : definition.isExtension with
    | true =>
      have added : gathering.add definition =
          { gathering with waiting := gathering.waiting ++ [definition] } := by
        simp [Gathering.add, late, missing]
      have others : (gathering.known.keys ++ rest.map Definition.key).Nodup :=
        once.sublist (List.Sublist.append_left (List.sublist_cons_self _ _) _)
      have read := @inductionHypothesis
        { gathering with waiting := gathering.waiting ++ [definition] } others
      rw [added, read, List.filter_cons_of_neg (by simp [late]), List.filter_cons_of_pos late,
        List.append_assoc, List.singleton_append]
    | false =>
      have added : gathering.add definition =
          { gathering with known := gathering.known ++ [(definition.key, definition)] } := by
        simp [Gathering.add, late, missing]
      have others : (Known.keys (gathering.known ++ [(definition.key, definition)]) ++
          rest.map Definition.key).Nodup := by
        rwa [Known.keys_append, List.append_assoc, List.singleton_append]
      rw [added, inductionHypothesis others, List.filter_cons_of_pos (by simp [late]),
        List.filter_cons_of_neg (by simp [late])]
      simp [keyed]

/-- Extensions of types under new keys are placed one after another. -/
theorem foldl_settle_once {waiting : List Definition}
    (types : ∀ extension ∈ waiting, extension.kind ≠ .directive) {known : Known}
    (once : (known.keys ++ waiting.map Definition.key).Nodup) :
    waiting.foldl Known.settle known = known ++ keyed waiting := by
  induction waiting generalizing known with
  | nil => simp [keyed]
  | cons extension rest inductionHypothesis =>
    obtain ⟨isType, others⟩ := List.forall_mem_cons.mp types
    rw [List.map_cons] at once
    have placed : known.settle extension = known ++ [(extension.key, extension)] := by
      rw [Known.settle, typeKey_eq isType, has_of_once once, if_neg Bool.false_ne_true]
    have onward : (Known.keys (known ++ [(extension.key, extension)]) ++
        rest.map Definition.key).Nodup := by
      rwa [Known.keys_append, List.append_assoc, List.singleton_append]
    rw [List.foldl_cons, placed, inductionHypothesis others onward, List.append_assoc]
    rfl

/-- The document of a list with every key once is the list, declarations first. -/
theorem ofDefinitions_of_once {definitions : List Definition} (lowered : Lowered definitions)
    (once : (definitions.map Definition.key).Nodup) :
    (Document.ofDefinitions definitions).definitions =
      definitions.filter (!·.isExtension) ++ definitions.filter (·.isExtension) := by
  have read : definitions.foldl Gathering.add {} =
      ⟨keyed (definitions.filter (!·.isExtension)), definitions.filter (·.isExtension)⟩ :=
    foldl_add_once once
  have types : ∀ extension ∈ definitions.filter (·.isExtension), extension.kind ≠ .directive := by
    intro extension member
    obtain ⟨stands, isExtension⟩ := List.mem_filter.mp member
    exact lowered extension stands isExtension
  have apart : ((keyed (definitions.filter (!·.isExtension))).keys ++
      (definitions.filter (·.isExtension)).map Definition.key).Nodup := by
    have split : (definitions.filter (!·.isExtension) ++
        definitions.filter (·.isExtension)).Perm definitions :=
      List.perm_append_comm.trans (List.filter_append_perm _ _)
    rw [keys_keyed, ← List.map_append]
    exact (split.map Definition.key).nodup_iff.mpr once
  rw [Document.ofDefinitions, read]
  show ((definitions.filter (·.isExtension)).foldl Known.settle _).map (·.2) = _
  rw [foldl_settle_once types apart, List.map_append, definitions_keyed, definitions_keyed]

/-! ## The order of a document -/

/-- Behind an extension there are only extensions. -/
def DeclaredFirst (definitions : List Definition) : Prop :=
  definitions.Pairwise fun before behind =>
    before.isExtension = true → behind.isExtension = true

/-- In a list with its declarations first nothing moves when they are put first. -/
theorem DeclaredFirst.filter_append {definitions : List Definition}
    (ordered : DeclaredFirst definitions) :
    definitions.filter (!·.isExtension) ++ definitions.filter (·.isExtension) = definitions := by
  induction definitions with
  | nil => rfl
  | cons definition rest inductionHypothesis =>
    obtain ⟨behind, others⟩ := List.pairwise_cons.mp ordered
    cases late : definition.isExtension with
    | true =>
      have all : ∀ other ∈ definition :: rest, other.isExtension = true :=
        List.forall_mem_cons.mpr ⟨late, fun other member => behind other member late⟩
      have none : (definition :: rest).filter (!·.isExtension) = [] :=
        List.filter_eq_nil_iff.mpr fun other member => by simp [all other member]
      rw [none, List.filter_eq_self.mpr all, List.nil_append]
    | false =>
      rw [List.filter_cons_of_pos (by simp [late]), List.filter_cons_of_neg (by simp [late]),
        List.cons_append, inductionHypothesis others]

/-- While definitions are read, what is known are declarations, and what waits are extensions. -/
theorem gathered_flags (definitions : List Definition) :
    let gathering := definitions.foldl Gathering.add {}
    (∀ entry ∈ gathering.known, entry.2.isExtension = false) ∧
      ∀ extension ∈ gathering.waiting, extension.isExtension = true := by
  refine List.foldlRecOn (motive := fun gathering : Gathering =>
    (∀ entry ∈ gathering.known, entry.2.isExtension = false) ∧
      ∀ extension ∈ gathering.waiting, extension.isExtension = true)
    definitions Gathering.add ⟨by simp, by simp⟩ ?_
  rintro gathering ⟨declares, extensions⟩ definition -
  cases late : definition.isExtension <;>
    cases known : gathering.known.has definition.key <;>
    simp only [Gathering.add, late, known, if_true, if_false, Bool.false_eq_true]
  · exact ⟨List.forall_mem_append.mpr ⟨declares, List.forall_mem_singleton.mpr late⟩, extensions⟩
  · exact ⟨declares, extensions⟩
  · exact ⟨declares, List.forall_mem_append.mpr ⟨extensions, List.forall_mem_singleton.mpr late⟩⟩
  · refine ⟨fun entry member => ?_, extensions⟩
    obtain ⟨before, stands, rfl⟩ := List.mem_map.mp member
    by_cases same : before.1 = definition.key
    · rw [if_pos same]
      exact declares before stands
    · rw [if_neg same]
      exact declares before stands

/-- Placing an extension keeps declarations first: it is folded in, or it comes last. -/
theorem settle_declaredFirst {known : Known} (ordered : DeclaredFirst (known.map (·.2)))
    {extension : Definition} (late : extension.isExtension = true) :
    DeclaredFirst ((known.settle extension).map (·.2)) := by
  cases present : known.has extension.typeKey with
  | true =>
    rw [Known.settle, present, if_pos rfl, Known.extend, List.map_map, DeclaredFirst,
      List.pairwise_map]
    refine (List.pairwise_map.mp ordered).imp fun {before behind} flags => ?_
    by_cases first : before.1 = extension.typeKey <;>
      by_cases second : behind.1 = extension.typeKey <;>
      simpa [first, second, Definition.extend] using flags
  | false =>
    rw [Known.settle, present, if_neg Bool.false_ne_true, List.map_append, DeclaredFirst,
      List.pairwise_append]
    refine ⟨ordered, List.pairwise_singleton _ _, fun before _ behind last _ => ?_⟩
    rw [List.mem_singleton.mp last]
    exact late

/-- A document has its declarations first. -/
theorem document_declaredFirst (definitions : List Definition) :
    DeclaredFirst (Document.ofDefinitions definitions).definitions := by
  obtain ⟨declares, extensions⟩ := gathered_flags definitions
  refine List.foldlRecOn (motive := fun known => DeclaredFirst (known.map (·.2))) _ Known.settle
    ?_ ?_
  · refine List.pairwise_map.mpr (List.pairwise_of_forall_mem_list ?_)
    intro before stands behind _ late
    exact absurd (late.symm.trans (declares before stands)) nofun
  · intro known ordered extension member
    exact settle_declaredFirst ordered (extensions extension member)

/-- A document extends no directive. -/
theorem document_lowered {definitions : List Definition} (lowered : Lowered definitions) :
    Lowered (Document.ofDefinitions definitions).definitions :=
  ofDefinitions_each (fun _ _ holds _ => holds) lowered

/-- Merging the definitions of a merged document changes nothing: neither a definition nor the
order, also where extensions stand for a declaration that is missing. -/
theorem merging_is_idempotent (definitions : List Definition) (lowered : Lowered definitions) :
    Document.ofDefinitions (Document.ofDefinitions definitions).definitions =
      Document.ofDefinitions definitions := by
  have again := ofDefinitions_of_once (document_lowered lowered) (document_once lowered)
  rw [(document_declaredFirst definitions).filter_append] at again
  exact congrArg Document.mk again

/-- The scattered definitions leave an extension for a bot that is declared nowhere, and merge
into the same document when they are merged again. -/
theorem scatteredRoles_merged_again : Lowered scatteredRoles ∧
    (Document.ofDefinitions scatteredRoles).definitions.map (·.isExtension) =
      [false, false, true] ∧
    Document.ofDefinitions (Document.ofDefinitions scatteredRoles).definitions =
      Document.ofDefinitions scatteredRoles := by
  have lowered : Lowered scatteredRoles := by
    unfold Lowered
    decide
  exact ⟨lowered, by decide, merging_is_idempotent scatteredRoles lowered⟩

end SchemaFixtures.Schema
