import SchemaFixtures.Schema.Document

/-!
# What all definitions of a document share

A document is put together from definitions, and an extension adds its contents to a definition.
What holds of every definition that goes in, and goes on to hold when an extension is added, holds
of every definition of the document. The order of the definitions does not matter for this.
-/

namespace SchemaFixtures.Schema

/-- A property of definitions that goes on to hold when contents are added. -/
def Grows (P : Definition → Prop) : Prop :=
  ∀ base extension, P base → P extension → P (base.extend extension)

/-- All definitions that are known have a property. -/
def Known.Each (P : Definition → Prop) (known : Known) : Prop := ∀ entry ∈ known, P entry.2

variable {P : Definition → Prop}

theorem Known.Each.append {known : Known} (each : known.Each P) (key : Key)
    {definition : Definition} (holds : P definition) : Each P (known ++ [(key, definition)]) :=
  List.forall_mem_append.mpr ⟨each, List.forall_mem_singleton.mpr holds⟩

theorem Known.Each.extend (grows : Grows P) {known : Known} (each : known.Each P) (key : Key)
    {extension : Definition} (holds : P extension) : (known.extend key extension).Each P := by
  intro entry member
  obtain ⟨before, stands, rfl⟩ := List.mem_map.mp member
  by_cases same : before.1 = key
  · rw [if_pos same]
    exact grows before.2 extension (each before stands) holds
  · rw [if_neg same]
    exact each before stands

theorem Known.Each.settle (grows : Grows P) {known : Known} (each : known.Each P)
    {extension : Definition} (holds : P extension) : (known.settle extension).Each P := by
  rw [Known.settle]
  split
  · exact each.extend grows _ holds
  · exact each.append _ holds

/-- All definitions that are known or wait have a property. -/
structure Gathering.Each (P : Definition → Prop) (gathering : Gathering) : Prop where
  known : gathering.known.Each P
  waiting : ∀ extension ∈ gathering.waiting, P extension

theorem Gathering.Each.add (grows : Grows P) {gathering : Gathering} (each : gathering.Each P)
    {definition : Definition} (holds : P definition) : (gathering.add definition).Each P := by
  rw [Gathering.add]
  split
  · split
    · exact ⟨each.known.extend grows _ holds, each.waiting⟩
    · refine ⟨each.known, ?_⟩
      exact List.forall_mem_append.mpr ⟨each.waiting, List.forall_mem_singleton.mpr holds⟩
  · split
    · exact each
    · exact ⟨each.known.append _ holds, each.waiting⟩

/-- What all definitions share, those of their document share. -/
theorem ofDefinitions_each (grows : Grows P) {definitions : List Definition}
    (all : ∀ definition ∈ definitions, P definition) :
    ∀ definition ∈ (Document.ofDefinitions definitions).definitions, P definition := by
  have gathered : (definitions.foldl Gathering.add {}).Each P := by
    refine List.foldlRecOn definitions Gathering.add ?_ ?_
    · exact ⟨List.forall_mem_nil _, List.forall_mem_nil _⟩
    · intro gathering each definition member
      exact each.add grows (all definition member)
  have settled : ((definitions.foldl Gathering.add {}).waiting.foldl Known.settle
      (definitions.foldl Gathering.add {}).known).Each P := by
    refine List.foldlRecOn _ Known.settle gathered.known ?_
    intro known each extension member
    exact each.settle grows (gathered.waiting extension member)
  intro definition member
  obtain ⟨entry, stands, rfl⟩ := List.mem_map.mp member
  exact settled entry stands

end SchemaFixtures.Schema
