import SchemaFixtures.Fixture.Session

/-!
# Scripts

In a script a recipe is a script of its own. Its draft has a name while the recipe runs:
other values can be read, made and changed in between, parts of the draft can be put into
each other or into other values, and a draft can be drafted again. A script also keeps what
a removal gives and what stands in a list. The steps of a session are instructions too.
-/

namespace SchemaFixtures.Fixture

/-- An instruction of a script. -/
inductive Instruction where
  | step (step : Step)
  | pick (source : String) (path : List String) (index : Nat) (rest : List String)
    (target : String)
  | take (source : String) (path : List String) (name target : String)
  | produce (source draft : String) (recipe : List Instruction) (replacement : Option Content)
    (target : String)
  | fixtureWith (type draft : String) (recipe : List Instruction)
    (replacement : Option Content) (target : String)

/-- The answer to an instruction. -/
inductive Response where
  | step (answer : StepAnswer)
  | produced (responses : List Response) (snapshot : Option Snapshot)

/-- What a path finds in one item of a list that a path finds in a named value. -/
def itemOf (registry : Registry) (bindings : Entries Value) (source : String)
    (path : List String) (index : Nat) (rest : List String) (store : Store) :
    Option Value × Store :=
  let (found, store) := copyOf registry bindings source path store
  match (found.bind (·.items?)).bind (·[index]?) with
  | some item => item.get? registry rest store
  | none => (none, store)

namespace Session

/-- Gives a name back to the value that it stood for before, if it stood for one. -/
def restore (session : Session) (name : String) (before : Option Value) : Session :=
  match before with
  | some value => { session with bindings := session.bindings.put name value }
  | none => { session with bindings := session.bindings.remove name }

/-- The recipe that runs a script on its draft, which has a name in the script. The
replacement is worked out when the script has ended. -/
def recipe (session : Session) (draft : String) (script : Session → List Response × Session)
    (replacement : Option Content) : Recipe (List Response × Session) := fun value store =>
  let (responses, after) :=
    script { session with bindings := session.bindings.put draft value, store }
  let (replaced, store) :=
    contentValue? after.registry after.bindings replacement after.store
  let drafted := (after.bindings.value? draft).getD .absent
  (((responses, after.restore draft (session.bindings.value? draft)), replaced), drafted, store)

/-- Names what a path finds in an item of a list. -/
def pick (session : Session) (source : String) (path : List String) (index : Nat)
    (rest : List String) (target : String) : StepAnswer × Session :=
  let (found, store) :=
    itemOf session.registry session.bindings source path index rest session.store
  let (snapshot, session) := session.keep target found store
  (.made snapshot, session)

/-- Takes a field out of the object that a path finds and names its value. -/
def take (session : Session) (source : String) (path : List String) (name target : String) :
    StepAnswer × Session :=
  match session.bindings.value? source with
  | none => (.made none, session)
  | some value =>
    let (removed, value, store) :=
      value.edit session.registry (Value.removeField session.registry name) path session.store
    let bindings := session.bindings.put source value
    let (snapshot, session) := { session with bindings }.keep target removed.join.join store
    (.made snapshot, session)

end Session

mutual

/-- Follows one instruction. -/
def Instruction.run : Instruction → Session → Response × Session
  | .step step, session =>
    let (answer, session) := session.step step
    (.step answer, session)
  | .pick source path index rest target, session =>
    let (answer, session) := session.pick source path index rest target
    (.step answer, session)
  | .take source path name target, session =>
    let (answer, session) := session.take source path name target
    (.step answer, session)
  | .produce source draft recipe replacement target, session =>
    match session.bindings.value? source with
    | none => (.produced [] none, session)
    | some base =>
      let ((responses, after), value, store) :=
        Fixture.produce base (session.recipe draft (runScript recipe) replacement) session.store
      let (snapshot, session) := after.keep target (some value) store
      (.produced responses snapshot, session)
  | .fixtureWith type draft recipe replacement target, session =>
    let recipe := session.recipe draft (runScript recipe) replacement
    match fixtureWith? session.registry type recipe session.store with
    | none => (.produced [] none, session)
    | some ((responses, after), value, store) =>
      let (snapshot, session) := after.keep target (some value) store
      (.produced responses snapshot, session)

/-- Follows the instructions of a script in order. -/
def runScript : List Instruction → Session → List Response × Session
  | [], session => ([], session)
  | instruction :: rest, session =>
    let (response, session) := instruction.run session
    let (responses, session) := runScript rest session
    (response :: responses, session)

end

end SchemaFixtures.Fixture
