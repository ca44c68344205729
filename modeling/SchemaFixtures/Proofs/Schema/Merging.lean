import SchemaFixtures.Proofs.Schema.Gathering

/-!
# Merging by name

A document has every name of its definitions once. A declaration places its key when it is
met first; the keys of the extensions that wait are placed at the end, and of those only the
keys that are never declared are new. Together with the outcome at one key this tells the
whole document.
-/

namespace SchemaFixtures.Schema

/-! ## All keys -/

/-- Places a key at the end, if it has no place yet. -/
def place (keys : List Key) (key : Key) : List Key :=
  if key ∈ keys then keys else keys ++ [key]

/-- Keys are placed in the order in which they are met first. -/
theorem foldl_place (met keys : List Key) :
    met.foldl place keys = keys ++ (met.filter (· ∉ keys)).eraseDups := by
  induction met generalizing keys with
  | nil => simp
  | cons key rest inductionHypothesis =>
    rw [List.foldl_cons, inductionHypothesis, place]
    by_cases known : key ∈ keys
    · rw [if_pos known, List.filter_cons_of_neg (by simpa using known)]
    · rw [if_neg known, List.filter_cons_of_pos (by simpa using known), List.eraseDups_cons,
        List.filter_filter, List.append_assoc, List.singleton_append]
      congr 3
      refine List.filter_congr fun other _ => ?_
      by_cases same : other = key <;> simp [same]

theorem mem_foldl_place {met keys : List Key} {key : Key} (known : key ∈ keys) :
    key ∈ met.foldl place keys := by
  rw [foldl_place]
  exact List.mem_append_left _ known

theorem keys_add (gathering : Gathering) (definition : Definition) :
    (gathering.add definition).known.keys =
      if definition.isExtension then gathering.known.keys
      else place gathering.known.keys definition.key := by
  have known_iff := Known.has_iff gathering.known definition.key
  cases late : definition.isExtension <;>
    cases known : gathering.known.has definition.key <;>
    simp_all [Gathering.add, Known.keys_extend, Known.keys_append, place]

theorem keys_settle (known : Known) (extension : Definition) :
    (known.settle extension).keys = place known.keys extension.typeKey := by
  have known_iff := Known.has_iff known extension.typeKey
  cases present : known.has extension.typeKey <;>
    simp_all [Known.settle, Known.keys_extend, Known.keys_append, place]

/-- The keys of declarations, in order. -/
def declaredKeys (definitions : List Definition) : List Key :=
  (definitions.filter (!·.isExtension)).map Definition.key

/-- The keys of extensions, in order. -/
def extendedKeys (definitions : List Definition) : List Key :=
  (definitions.filter (·.isExtension)).map Definition.key

theorem keys_foldl_add (definitions : List Definition) (gathering : Gathering) :
    (definitions.foldl Gathering.add gathering).known.keys =
      (declaredKeys definitions).foldl place gathering.known.keys := by
  induction definitions generalizing gathering with
  | nil => rfl
  | cons definition rest inductionHypothesis =>
    rw [List.foldl_cons, inductionHypothesis, keys_add, declaredKeys, declaredKeys]
    cases late : definition.isExtension with
    | true => rw [if_pos rfl, List.filter_cons_of_neg (by simp [late])]
    | false =>
      rw [if_neg Bool.false_ne_true, List.filter_cons_of_pos (by simp [late]), List.map_cons,
        List.foldl_cons]

theorem keys_foldl_settle (waiting : List Definition) (known : Known) :
    (waiting.foldl Known.settle known).keys =
      (waiting.map Definition.typeKey).foldl place known.keys := by
  induction waiting generalizing known with
  | nil => rfl
  | cons extension rest inductionHypothesis =>
    rw [List.foldl_cons, inductionHypothesis, keys_settle, List.map_cons, List.foldl_cons]

/-- Of the keys that are never declared, those of the extensions that wait are those of all
extensions. -/
theorem waiting_keys (definitions : List Definition) (gathering : Gathering) (declared : List Key)
    (all : ∀ key ∈ (definitions.foldl Gathering.add gathering).known.keys, key ∈ declared) :
    ((definitions.foldl Gathering.add gathering).waiting.map Definition.key).filter
        (· ∉ declared) =
      (gathering.waiting.map Definition.key).filter (· ∉ declared) ++
        (extendedKeys definitions).filter (· ∉ declared) := by
  induction definitions generalizing gathering with
  | nil => rw [extendedKeys, List.filter_nil, List.map_nil, List.filter_nil, List.append_nil]; rfl
  | cons definition rest inductionHypothesis =>
    rw [List.foldl_cons] at all ⊢
    rw [inductionHypothesis _ all, extendedKeys, extendedKeys]
    cases late : definition.isExtension with
    | false =>
      have waits : (gathering.add definition).waiting = gathering.waiting := by
        cases known : gathering.known.has definition.key <;> simp [Gathering.add, late, known]
      rw [waits, List.filter_cons_of_neg (by simp [late])]
    | true =>
      rw [List.filter_cons_of_pos (by simp [late]), List.map_cons]
      cases known : gathering.known.has definition.key with
      | true =>
        have waits : (gathering.add definition).waiting = gathering.waiting := by
          simp [Gathering.add, late, known]
        have isDeclared : definition.key ∈ declared := by
          refine all _ ?_
          rw [keys_foldl_add]
          refine mem_foldl_place ?_
          rw [keys_add, late, if_pos rfl]
          exact (Known.has_iff _ _).mp known
        rw [waits, List.filter_cons_of_neg (by simpa using isDeclared)]
      | false =>
        have waits : (gathering.add definition).waiting = gathering.waiting ++ [definition] := by
          simp [Gathering.add, late, known]
        rw [waits, List.map_append, List.filter_append, List.append_assoc, List.map_singleton,
          ← List.filter_append, List.singleton_append]

/-! ## Soundness -/

/-- What is known is sound, and what waits is an extension of a type that the document has. -/
structure Gathering.Sound (gathering : Gathering) : Prop where
  known : gathering.known.Sound
  types : ∀ extension ∈ gathering.waiting, extension.kind ≠ .directive

theorem Gathering.Sound.add {gathering : Gathering} {definition : Definition}
    (sound : gathering.Sound)
    (lowered : definition.isExtension = true → definition.kind ≠ .directive) :
    (gathering.add definition).Sound := by
  cases late : definition.isExtension with
  | true =>
    cases known : gathering.known.has definition.key with
    | true =>
      simp only [Gathering.add, late, known, if_true]
      exact ⟨sound.known.extend _ _, sound.types⟩
    | false =>
      simp only [Gathering.add, late, known, if_true]
      refine ⟨sound.known, fun extension member => ?_⟩
      rcases List.mem_append.mp member with before | last
      · exact sound.types extension before
      · rw [List.mem_singleton.mp last]
        exact lowered late
  | false =>
    cases known : gathering.known.has definition.key with
    | true =>
      simp only [Gathering.add, late, known, if_true]
      exact sound
    | false =>
      simp only [Gathering.add, late, known]
      exact ⟨sound.known.append known, sound.types⟩

theorem Gathering.Sound.foldl {definitions : List Definition} (lowered : Lowered definitions)
    {gathering : Gathering} (sound : gathering.Sound) :
    (definitions.foldl Gathering.add gathering).Sound := by
  induction definitions generalizing gathering with
  | nil => exact sound
  | cons definition rest inductionHypothesis =>
    obtain ⟨here, others⟩ := List.forall_mem_cons.mp lowered
    exact inductionHypothesis others (sound.add here)

theorem Known.Sound.settle {known : Known} {extension : Definition} (sound : known.Sound)
    (isType : extension.kind ≠ .directive) : (known.settle extension).Sound := by
  rw [Known.settle, typeKey_eq isType]
  cases present : known.has extension.key with
  | true => exact sound.extend _ _
  | false => exact sound.append present

theorem Known.Sound.foldl_settle {waiting : List Definition}
    (types : ∀ extension ∈ waiting, extension.kind ≠ .directive) {known : Known}
    (sound : known.Sound) : (waiting.foldl Known.settle known).Sound := by
  induction waiting generalizing known with
  | nil => exact sound
  | cons extension rest inductionHypothesis =>
    obtain ⟨isType, others⟩ := List.forall_mem_cons.mp types
    exact inductionHypothesis others (sound.settle isType)

/-! ## Documents -/

/-- What is known when all definitions are read and nothing waits any more. -/
def settled (definitions : List Definition) : Known :=
  let gathering := definitions.foldl Gathering.add {}
  gathering.waiting.foldl Known.settle gathering.known

theorem gathered_sound {definitions : List Definition} (lowered : Lowered definitions) :
    (definitions.foldl Gathering.add {}).Sound :=
  Gathering.Sound.foldl lowered ⟨.nil, fun _ member => absurd member List.not_mem_nil⟩

theorem settled_sound {definitions : List Definition} (lowered : Lowered definitions) :
    (settled definitions).Sound :=
  Known.Sound.foldl_settle (gathered_sound lowered).types (gathered_sound lowered).known

theorem keys_eq_settled {definitions : List Definition} (lowered : Lowered definitions) :
    (Document.ofDefinitions definitions).definitions.map Definition.key =
      (settled definitions).keys := by
  rw [Document.ofDefinitions, List.map_map]
  exact List.map_congr_left (settled_sound lowered).own

/-- A document has under a key what is made of the definitions of the key. -/
theorem document_find? {definitions : List Definition} (lowered : Lowered definitions)
    (key : Key) :
    (Document.ofDefinitions definitions).definitions.find? (·.key == key) =
      merged? (ofKey definitions key) := by
  have read : (definitions.foldl Gathering.add {}).pending key =
      (ofKey definitions key).foldl Pending.add {} := pending_foldl definitions {} key
  have found : (definitions.foldl Gathering.add {}).known.at? key =
      ((ofKey definitions key).foldl Pending.add {}).found := congrArg Pending.found read
  have waiting : ofKey (definitions.foldl Gathering.add {}).waiting key =
      ((ofKey definitions key).foldl Pending.add {}).waiting := congrArg Pending.waiting read
  refine (Known.find?_definitions (settled_sound lowered).own key).trans ?_
  rw [settled, at?_foldl_settle (gathered_sound lowered).types, found, waiting]
  rfl

/-- The keys of a document: the declared ones in the order of their first declaration, then
those that are only extended in the order of their first extension. -/
theorem document_keys {definitions : List Definition} (lowered : Lowered definitions) :
    (Document.ofDefinitions definitions).definitions.map Definition.key =
      (declaredKeys definitions).eraseDups ++
        ((extendedKeys definitions).filter (· ∉ declaredKeys definitions)).eraseDups := by
  have first : (definitions.foldl Gathering.add {}).known.keys =
      (declaredKeys definitions).eraseDups := by
    have all : (declaredKeys definitions).filter (· ∉ ([] : List Key)) =
        declaredKeys definitions := List.filter_eq_self.mpr (by simp)
    rw [keys_foldl_add, foldl_place]
    exact congrArg List.eraseDups all
  have types : (definitions.foldl Gathering.add {}).waiting.map Definition.typeKey =
      (definitions.foldl Gathering.add {}).waiting.map Definition.key :=
    List.map_congr_left fun extension member =>
      typeKey_eq ((gathered_sound lowered).types extension member)
  have waits := waiting_keys definitions {} (declaredKeys definitions)
    (fun key member => List.mem_eraseDups.mp (first ▸ member))
  rw [keys_eq_settled lowered, settled, keys_foldl_settle, types, foldl_place, first]
  simp only [List.mem_eraseDups]
  rw [waits]
  rfl

/-- A document has every key once. -/
theorem document_once {definitions : List Definition} (lowered : Lowered definitions) :
    ((Document.ofDefinitions definitions).definitions.map Definition.key).Nodup := by
  rw [keys_eq_settled lowered]
  exact (settled_sound lowered).once

/-- A definition of a document is the base of its key with all extensions besides it. -/
theorem document_merges {definitions : List Definition} (lowered : Lowered definitions)
    {definition : Definition}
    (member : definition ∈ (Document.ofDefinitions definitions).definitions) :
    ∃ base order, base? (ofKey definitions definition.key) = some base ∧
      order.Perm (contributions (ofKey definitions definition.key)) ∧
      definition = base.append order := by
  have found := find?_of_mem (document_once lowered) member
  rw [document_find? lowered] at found
  have given : ofKey definitions definition.key ≠ [] := by
    intro empty
    rw [empty] at found
    cases found
  obtain ⟨base, order, isBase, perm, merged⟩ := merged_some given
  exact ⟨base, order, isBase, perm, Option.some.inj (found.symm.trans merged)⟩

/-- Nothing is lost and nothing is invented when definitions are merged by name. Types and
directives have name spaces of their own, in which each name occurs once; declared names come
first. A merged definition is its base with the contents of the extensions of its name after
its own, each extension once and its contents together. It depends on nothing but the
definitions of its name. -/
theorem definitions_are_merged (definitions : List Definition) (lowered : Lowered definitions) :
    let document := Document.ofDefinitions definitions
    document.definitions.map Definition.key =
        (declaredKeys definitions).eraseDups ++
          ((extendedKeys definitions).filter (· ∉ declaredKeys definitions)).eraseDups ∧
      (document.definitions.map Definition.key).Nodup ∧
      (∀ definition ∈ document.definitions, ∃ base order,
        base? (ofKey definitions definition.key) = some base ∧
          order.Perm (contributions (ofKey definitions definition.key)) ∧
          definition = base.append order) ∧
      ∀ others, Lowered others → ∀ key, ofKey others key = ofKey definitions key →
        (Document.ofDefinitions others).definitions.find? (·.key == key) =
          document.definitions.find? (·.key == key) := by
  intro document
  refine ⟨document_keys lowered, document_once lowered,
    fun _ member => document_merges lowered member, ?_⟩
  intro others othersLowered key same
  rw [document_find? othersLowered, document_find? lowered, same]

/-- A list of definitions in which extensions stand on both sides of their base. -/
def scatteredRoles : List Definition := [
  { name := "Role", kind := .enum, enumValues := ["ADMIN"], isExtension := true },
  { name := "Bot", kind := .object, isExtension := true },
  { name := "role", kind := .directive },
  { name := "Role", kind := .enum },
  { name := "Role", kind := .enum, enumValues := ["MEMBER"], isExtension := true }]

/-- The keys of the scattered definitions after the merge. -/
theorem scatteredRoles_merged : Lowered scatteredRoles ∧
    (Document.ofDefinitions scatteredRoles).definitions.map Definition.key =
      [⟨true, "role"⟩, ⟨false, "Role"⟩, ⟨false, "Bot"⟩] := by
  have lowered : Lowered scatteredRoles := by
    unfold Lowered
    decide
  exact ⟨lowered, (definitions_are_merged scatteredRoles lowered).1.trans (by decide)⟩

end SchemaFixtures.Schema
