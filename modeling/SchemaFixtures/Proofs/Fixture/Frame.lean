import SchemaFixtures.Proofs.Fixture.PrivateScript

/-!
# Which names a script writes

An instruction writes the name that it makes a value for and the name that it changes a
value through. A recipe in a script writes what its instructions write, except the name of
its draft, which is given back when the recipe has ended. On private trees a name that is
not written keeps its tree; the induction is on the script, with one case per instruction.

Giving back a name that stood for nothing takes it out of the named trees. Names stand once
in them, so nothing is left that an earlier entry had covered.
-/

namespace SchemaFixtures.Fixture

/-- Whether a step may give a name another value. -/
def Step.writes (name : String) : Step → Bool
  | .fixture _ target => target == name
  | .content _ target => target == name
  | .copy _ _ target => target == name
  | .produce _ _ target => target == name
  | .fixtureWith _ _ target => target == name
  | .operate source (.write _ _) => source == name
  | .operate _ (.read _ _) => false
  | .sameObject _ _ => false
  | .drop source => source == name
  | .accessor => false

mutual

/-- Whether an instruction may give a name another value. -/
def Instruction.writes (name : String) : Instruction → Bool
  | .step step => step.writes name
  | .pick _ _ _ _ target => target == name
  | .take source _ _ target => source == name || target == name
  | .produce _ draft recipe _ target =>
    target == name || (draft != name && scriptWrites name recipe)
  | .fixtureWith _ draft recipe _ target =>
    target == name || (draft != name && scriptWrites name recipe)

/-- Whether an instruction of a script may give a name another value. -/
def scriptWrites (name : String) : List Instruction → Bool
  | [] => false
  | instruction :: rest => instruction.writes name || scriptWrites name rest

end

namespace PrivateSession

/-- What one session names after another: names still stand once, and one name stands for
what it stood for, if it was not written. -/
structure Frames (name : String) (written : Bool) (before after : PrivateSession) : Prop where
  once : after.bindings.names.Nodup
  same : written = false → after.bindings.value? name = before.bindings.value? name

variable {session : PrivateSession} {name : String}

theorem Frames.refl (once : session.bindings.names.Nodup) (written : Bool) :
    Frames name written session session := ⟨once, fun _ => rfl⟩

/-- A tree that is put under a name leaves the other names alone. -/
theorem put_frames (once : session.bindings.names.Nodup) (name target : String) (tree : Tree) :
    Frames name (target == name) session
      { session with bindings := session.bindings.put target tree } := by
  refine ⟨Entries.nodup_put once target tree, fun other => ?_⟩
  exact Entries.value?_put_other _ _ (by simpa using other)

/-- Taking a name out leaves the other names alone. -/
theorem remove_frames (once : session.bindings.names.Nodup) (name target : String) :
    Frames name (target == name) session
      { session with bindings := session.bindings.remove target } := by
  refine ⟨?_, fun other => Entries.value?_remove_other _ (by simpa using other)⟩
  rw [Entries.names_remove]
  exact once.erase target

theorem keep_frames (once : session.bindings.names.Nodup) (name target : String)
    (tree? : Option Tree) : Frames name (target == name) session (session.keep target tree?) := by
  cases tree? with
  | none => exact Frames.refl once _
  | some tree => exact put_frames once name target tree

/-- Every step leaves the names alone that it does not write. -/
theorem step_frames (once : session.bindings.names.Nodup) (name : String) (step : Step) :
    Frames name (step.writes name) session (session.step step).2 := by
  cases step with
  | fixture _ target | copy _ _ target => exact keep_frames once name target _
  | content _ target => exact keep_frames once name target (some _)
  | produce source _ target =>
    simp only [step]
    cases session.bindings.value? source with
    | none => exact Frames.refl once _
    | some base => exact keep_frames once name target (some _)
  | fixtureWith type _ target =>
    simp only [step]
    cases session.registry.tree? type with
    | none => exact Frames.refl once _
    | some base => exact keep_frames once name target (some _)
  | operate source operation =>
    simp only [step]
    cases found : session.bindings.value? source with
    | none => exact Frames.refl once _
    | some tree =>
      have kept := keep_frames once name source
        (some (operation.treeEdit session.registry session.bindings tree).2)
      cases operation with
      | write path writing => exact kept
      | read path reading =>
        -- A question puts the tree back that was there.
        have asked : ((Operation.read path reading).treeEdit session.registry session.bindings
            tree).2 = tree := by
          simp only [Operation.treeEdit]
          cases tree.get? session.registry path <;> rfl
        refine ⟨kept.once, fun _ => ?_⟩
        simp only [keep, asked]
        by_cases own : source = name
        · rw [← own, found]
          exact Entries.value?_put_self _ _ _
        · exact Entries.value?_put_other _ _ own
  | sameObject _ _ | accessor => exact Frames.refl once _
  | drop source => exact remove_frames once name source

theorem take_frames (once : session.bindings.names.Nodup) (name source : String)
    (path : List String) (field target : String) :
    Frames name (source == name || target == name) session
      (session.take source path field target).2 := by
  simp only [take]
  cases session.bindings.value? source with
  | none => exact Frames.refl once _
  | some tree =>
    have rebuilt := keep_frames once name source
      (some (tree.edit session.registry (Tree.removeField session.registry field) path).2)
    have named := keep_frames rebuilt.once name target
      (tree.edit session.registry (Tree.removeField session.registry field) path).1.join.join
    refine ⟨named.once, fun untouched => ?_⟩
    obtain ⟨notSource, notTarget⟩ := Bool.or_eq_false_iff.mp untouched
    exact (named.same notTarget).trans (rebuilt.same notSource)

/-- Giving a name back leaves the other names alone. -/
theorem restore_frames (once : session.bindings.names.Nodup) (name draft : String)
    (before : Option Tree) :
    Frames name (draft == name) session (session.restore draft before) := by
  cases before with
  | none => exact remove_frames once name draft
  | some tree => exact put_frames once name draft tree

/-- A name that was given back stands for what it stood for. -/
theorem restore_own (once : session.bindings.names.Nodup) (draft : String)
    (before : Option Tree) : (session.restore draft before).bindings.value? draft = before := by
  cases before with
  | none => exact Entries.value?_remove_self once draft
  | some tree => exact Entries.value?_put_self _ _ _

/-- A recipe leaves the names alone that its script does not write, and the name of its
draft besides. -/
theorem recipe_frames {script : PrivateSession → List ScriptReply × PrivateSession}
    {written : Bool} (once : session.bindings.names.Nodup) (name draft : String)
    (framed : ∀ inner : PrivateSession, inner.bindings.names.Nodup →
      Frames name written inner (script inner).2)
    (replacement : Option Content) (tree : Tree) :
    Frames name (draft != name && written) session
      (session.recipe draft script replacement tree).1.1.2 := by
  have opened := put_frames once name draft tree
  have ran := framed _ opened.once
  simp only [recipe]
  generalize script _ = done at ran ⊢
  have restored := restore_frames ran.once name draft (session.bindings.value? draft)
  refine ⟨restored.once, fun untouched => ?_⟩
  by_cases own : draft = name
  · rw [← own]
    exact restore_own ran.once draft _
  · have other : (draft == name) = false := by simpa using own
    have unwritten : written = false := by simpa [own] using untouched
    calc _ = done.2.bindings.value? name := restored.same other
      _ = _ := ran.same unwritten
      _ = session.bindings.value? name := opened.same other

/-- Naming what a recipe produced. -/
theorem produced_frames {after : PrivateSession} {written : Bool}
    (framed : Frames name written session after) (target : String) (tree? : Option Tree) :
    Frames name (target == name || written) session (after.keep target tree?) := by
  have named := keep_frames framed.once name target tree?
  refine ⟨named.once, fun untouched => ?_⟩
  obtain ⟨notTarget, unwritten⟩ := Bool.or_eq_false_iff.mp untouched
  exact (named.same notTarget).trans (framed.same unwritten)

end PrivateSession

open PrivateSession

mutual

/-- Every instruction leaves the names alone that it does not write. -/
theorem Instruction.run_frames (name : String) : (instruction : Instruction) →
    (session : PrivateSession) → session.bindings.names.Nodup →
    Frames name (instruction.writes name) session (instruction.runPrivately session).2
  | .step step, _, once => step_frames once name step
  | .pick _ _ _ _ target, _, once => keep_frames once name target _
  | .take source path field target, _, once => take_frames once name source path field target
  | .produce source draft recipe replacement target, session, once => by
    simp only [Instruction.runPrivately]
    cases session.bindings.value? source with
    | none => exact Frames.refl once _
    | some base =>
      have framed :=
        recipe_frames once name draft (runScript_frames name recipe) replacement base
      exact produced_frames framed target (some _)
  | .fixtureWith type draft recipe replacement target, session, once => by
    simp only [Instruction.runPrivately]
    cases session.registry.tree? type with
    | none => exact Frames.refl once _
    | some base =>
      have framed :=
        recipe_frames once name draft (runScript_frames name recipe) replacement base
      exact produced_frames framed target (some _)

/-- Every script leaves the names alone that it does not write. -/
theorem runScript_frames (name : String) : (script : List Instruction) →
    (session : PrivateSession) → session.bindings.names.Nodup →
    Frames name (scriptWrites name script) session (runScriptPrivately script session).2
  | [], _, once => Frames.refl once _
  | instruction :: rest, session, once => by
    have first := instruction.run_frames name session once
    have others := runScript_frames name rest _ first.once
    refine ⟨others.once, fun untouched => ?_⟩
    obtain ⟨unwritten, later⟩ := Bool.or_eq_false_iff.mp untouched
    exact (others.same later).trans (first.same unwritten)

end

end SchemaFixtures.Fixture
