import SchemaFixtures.Proofs.Emission.Layout
import SchemaFixtures.Proofs.Fixture.Rearrangement

/-!
# Members in another order

The text of a member depends on its factory and on which names have a factory. So when the
factories of a registry change places, its members change places with them and keep their texts.
The content of a module is nothing but these texts, each indented, one behind the other.
-/

namespace SchemaFixtures.Emission

open Fixture

/-- The texts of the members as they stand in a module, in order. -/
def memberTexts (settings : Config.Settings) (registry : Registry) : List String :=
  (members settings registry).map fun member => indent member.text

/-- The content of a module is made of the texts of its members. -/
theorem content_texts (settings : Config.Settings) (registry : Registry) :
    contentText settings registry = "\n".intercalate (memberTexts settings registry) := by
  have texts : (memberTexts settings registry).map String.toList =
      (members settings registry).map fun member => indented member.text.toList := by
    rw [memberTexts, List.map_map]
    refine List.map_congr_left fun member _ => ?_
    rw [Function.comp_apply, indent_eq, String.toList_ofList]
  have feed : "\n".toList = ['\n'] := by decide
  refine String.toList_injective ?_
  rw [content_eq, String.toList_intercalate, texts, joinLines, feed]

variable {first second : Registry}

theorem defaultSource_alike (alike : first.Alike second) (default : Default) :
    defaultSource first default = defaultSource second default := by
  cases default with
  | factory name => rw [defaultSource, defaultSource, callSource, callSource, alike.contains_eq]
  | absent | emptyList | emptyString | zeroInt | zeroFloat | false | emptyObject | literal _ => rfl

theorem form_alike (alike : first.Alike second) (body : Body) :
    form first body = form second body := by
  cases body with
  | scalar default => exact congrArg Form.expression (defaultSource_alike alike default)
  | union member => exact congrArg Form.expression (defaultSource_alike alike (.factory member))
  | enum value => rfl
  | record typename fields =>
    refine congrArg (Form.record typename) (List.map_congr_left fun field _ => ?_)
    rw [property, property, defaultSource_alike alike]

/-- A factory has the same member in both registries. -/
theorem member_alike (settings : Config.Settings) (alike : first.Alike second)
    (factory : Factory) : member settings first factory = member settings second factory := by
  rw [member, member, form_alike alike]

theorem members_alike (settings : Config.Settings) (alike : first.Alike second) :
    (members settings first).Perm (members settings second) := by
  have same : members settings first = first.factories.map (member settings second) :=
    List.map_congr_left fun factory _ => member_alike settings alike factory
  exact same ▸ alike.perm.map _

/-- The order of definitions does not matter, as long as those of one name keep theirs: a type may
stand before or after the types that use it, extend it or contain it. Both registries have the
same names and under each name the same factory, and every chain of calls ends alike. In whatever
states scripts have left two stores, a fixture of a name in one and a fixture in the other read
the same along every path and have the same JSON to any depth. The emitted modules open and
close alike, and between they consist of the same texts in another order, one for each member. -/
theorem rearranged_schemas_agree (settings : Config.Settings)
    {first second : List Schema.Definition} (lowered : Schema.Lowered first)
    (rearranged : Schema.Rearranged first second) :
    let registry := Registry.build (.ofDefinitions first) settings
    let other := Registry.build (.ofDefinitions second) settings
    let generated := Module.generate (.ofDefinitions first) settings
    let otherGenerated := Module.generate (.ofDefinitions second) settings
    registry.names.Perm other.names ∧
    (∀ name, registry.factory? name = other.factory? name ∧
      registry.chain name = other.chain name) ∧
    (∀ script otherScript name,
      let store := (runScript script { accessor := .ofSettings registry settings }).2.store
      let otherStore := (runScript otherScript { accessor := .ofSettings other settings }).2.store
      (∀ path, fixtureYields registry name path store =
        fixtureYields other name path otherStore) ∧
      ∀ depth, fixtureJson registry name depth store =
        fixtureJson other name depth otherStore) ∧
    generated.opening = otherGenerated.opening ∧
    generated.closing = otherGenerated.closing ∧
    generated.content = "\n".intercalate (memberTexts settings registry) ∧
    otherGenerated.content = "\n".intercalate (memberTexts settings other) ∧
    (members settings registry).Perm (members settings other) ∧
    (memberTexts settings registry).Perm (memberTexts settings other) := by
  intro registry other generated otherGenerated
  have alike : registry.Alike other := build_alike rearranged lowered settings
  refine ⟨alike.names, fun name => ⟨alike.factory?_eq name, alike.chain_eq name⟩, ?_, rfl, rfl,
    content_texts settings registry, content_texts settings other, members_alike settings alike,
    (members_alike settings alike).map _⟩
  intro script otherScript name store otherStore
  obtain ⟨_, follows⟩ := reached_follows registry settings script
  obtain ⟨_, otherFollows⟩ := reached_follows other settings otherScript
  refine ⟨fun path => ?_, fun depth => ?_⟩
  · rw [fixtureYields_eq follows, fixtureYields_eq otherFollows, alike.tree?_eq]
    simp only [alike.get?_eq]
  · rw [fixtureJson_eq follows, fixtureJson_eq otherFollows, alike.tree?_eq]
    simp only [alike.materialize_eq]

/-- A union stands before its member and the extension of the member, or behind both. -/
theorem moved_union_agrees :
    let search : Schema.Definition := { name := "Search", kind := .union, unionMembers := ["User"] }
    let user : Schema.Definition := { name := "User", kind := .object }
    let found : Schema.Definition :=
      { user with fields := [⟨"found", .nonNull (.named "Search")⟩], isExtension := true }
    let registry := Registry.build (.ofDefinitions [search, user, found]) {}
    let other := Registry.build (.ofDefinitions [user, found, search]) {}
    registry.names = ["Search", "User"] ∧ other.names = ["User", "Search"] ∧
      registry.factory? "User" = other.factory? "User" ∧
      fixtureYields registry "Search" ["found", "found"] {} =
        fixtureYields other "Search" ["found", "found"] {} := by
  intro search user found registry other
  have lowered : Schema.Lowered [search, user, found] := by
    unfold Schema.Lowered
    decide
  have rearranged : Schema.Rearranged [search, user, found] [user, found, search] :=
    @Schema.Rearranged.move search [user, found] [] (by decide)
  obtain ⟨-, same, yields, -⟩ := rearranged_schemas_agree {} lowered rearranged
  exact ⟨by decide, by decide, (same "User").1, (yields [] [] "Search").1 ["found", "found"]⟩

end SchemaFixtures.Emission
