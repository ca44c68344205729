import SchemaFixtures.Proofs.Fixture.PrivateScript
import SchemaFixtures.Proofs.Fixture.Traversal
import SchemaFixtures.Proofs.Fixture.Writing

/-!
# Operations answer like private operations

An answer tells what a reply of the private machine tells when every text, number, name and
JSON value in it is the same and every snapshot in it shows the tree in its place. Working
out a content, asking a question and making a change each give an answer that tells the
private reply, from named values that stand for the named trees.
-/

namespace SchemaFixtures.Fixture

/-- An answer tells what a private reply tells. Texts of values, which mark the fields that
are not evaluated yet, and the question for such a field have no private counterpart. -/
inductive Answer.Tells (registry : Registry) : Answer → Reply → Prop where
  | missing : Answer.Tells registry .missing .missing
  | notObject : Answer.Tells registry .notObject .notObject
  | notList : Answer.Tells registry .notList .notList
  | done : Answer.Tells registry .done .done
  | value {snapshot? : Option Snapshot} {tree? : Option Tree}
      (shown : Option.Rel (Snapshot.Shows registry) snapshot? tree?) :
      Answer.Tells registry (.value snapshot?) (.value tree?)
  | json (json : Json) : Answer.Tells registry (.json json) (.json json)
  | parts (value : Value) : Answer.Tells registry (.parts value) (.parts value.tree)
  | flag (flag : Bool) : Answer.Tells registry (.flag flag) (.flag flag)
  | names (names : List String) : Answer.Tells registry (.names names) (.names names)
  | size (size : Nat) : Answer.Tells registry (.size size) (.size size)
  | length (length : Nat) : Answer.Tells registry (.length length) (.length length)
  | typename (name : Option String) : Answer.Tells registry (.typename name) (.typename name)
  | visited {snapshots : List (String × Snapshot)} {trees : List (String × Tree)}
      (shown : List.Forall₂ (fun shown read => shown.1 = read.1 ∧ shown.2.Shows registry read.2)
        snapshots trees) :
      Answer.Tells registry (.visited snapshots) (.visited trees)
  | text (text : String) : Answer.Tells registry (.text text) .unspoken
  | resolved (flag : Bool) : Answer.Tells registry (.flag flag) .unspoken

/-- Named values are planned and stand for named trees. -/
structure BindingsStand (plan : Plan) (bindings : Entries Value) (trees : Entries Tree) : Prop where
  planned : ∀ entry ∈ bindings, entry.2.Planned plan
  same : bindings.mapValues Value.tree = trees

variable {registry : Registry} {plan : Plan} {store : Store} {bindings : Entries Value}
  {trees : Entries Tree}

theorem BindingsStand.grows {grown : Plan} (stand : BindingsStand plan bindings trees)
    (grows : plan <+: grown) : BindingsStand grown bindings trees :=
  ⟨fun entry member => entry.2.planned_grows grows (stand.planned entry member), stand.same⟩

/-- A named value stands for the tree of its name, and there is one exactly when there is the
other. -/
theorem named_stands (stand : BindingsStand plan bindings trees) (name : String) :
    Option.Rel (Value.Stands plan) (bindings.value? name) (trees.value? name) := by
  rw [← stand.same, Entries.value?_mapValues]
  cases found : bindings.value? name with
  | none => exact .none
  | some value => exact .some ⟨stand.planned _ (Entries.mem_of_value? found), rfl⟩

theorem snapshots_show (follows : store.Follows registry plan) {value? : Option Value}
    {tree? : Option Tree} (found : Option.Rel (Value.Stands plan) value? tree?) :
    Option.Rel (Snapshot.Shows registry) (value?.map store.snapshot) tree? := by
  cases found with
  | none => exact .none
  | some stands => exact .some (snapshot_shows follows stands)

/-- A path finds in a named value what it finds in the named tree. -/
theorem copyOf_stands (follows : store.Follows registry plan)
    (stand : BindingsStand plan bindings trees) (source : String) (path : List String) :
    (copyOf registry bindings source path store).2.Continues registry plan fun grown =>
      Option.Rel (Value.Stands grown) (copyOf registry bindings source path store).1
        (treeOf registry trees source path) := by
  have named := named_stands stand source
  simp only [copyOf, treeOf]
  generalize bindings.value? source = value? at named ⊢
  generalize trees.value? source = tree? at named ⊢
  cases named with
  | none => exact follows.continues .none
  | some stands => exact get?_stands follows stands path

mutual

/-- The value of a content stands for the tree of the content. -/
theorem content_stands {plan : Plan} {store : Store} (follows : store.Follows registry plan)
    (stand : BindingsStand plan bindings trees) : (content : Content) →
    (content.value registry bindings store).2.Continues registry plan fun grown =>
      (content.value registry bindings store).1.Stands grown (content.tree registry trees)
  | .absent | .null | .boolean _ | .int _ | .float _ | .string _ | .enum _ | .raw _ =>
    follows.continues ⟨trivial, rfl⟩
  | .list items => by
    refine (contentItems_stand follows stand items).imp fun grown _ listed => ?_
    rw [Content.tree, ← listed.2]
    exact list_stands listed.1
  | .object fields => by
    obtain ⟨grown, grows, followsOn, planned, branches⟩ := contentFields_stand follows stand fields
    refine ⟨grown, grows, followsOn.newObject _, ?_⟩
    rw [Content.tree, ← branches]
    exact paired_object_stands _ planned
  | .copy source path => by
    refine (copyOf_stands follows stand source path).imp fun grown _ found => ?_
    simp only [Content.value, Content.tree]
    generalize (copyOf registry bindings source path store).1 = value? at found ⊢
    generalize treeOf registry trees source path = tree? at found ⊢
    cases found with
    | none => exact ⟨trivial, rfl⟩
    | some stands => exact stands

theorem contentItems_stand {plan : Plan} {store : Store} (follows : store.Follows registry plan)
    (stand : BindingsStand plan bindings trees) : (items : List Content) →
    (contentItems registry bindings items store).2.Continues registry plan fun grown =>
      (∀ item ∈ (contentItems registry bindings items store).1, item.Planned grown) ∧
        (contentItems registry bindings items store).1.map Value.tree =
          contentTrees registry trees items
  | [] => follows.continues ⟨by simp [contentItems], rfl⟩
  | item :: rest =>
    (content_stands follows stand item).next fun _ grows followsOn stands =>
      (contentItems_stand followsOn (stand.grows grows) rest).imp fun _ growsOn others =>
        ⟨List.forall_mem_cons.mpr ⟨(stands.grows growsOn).planned, others.1⟩,
          congrArg₂ List.cons stands.same others.2⟩

theorem contentFields_stand {plan : Plan} {store : Store} (follows : store.Follows registry plan)
    (stand : BindingsStand plan bindings trees) : (fields : List (String × Content)) →
    (contentFields registry bindings fields store).2.Continues registry plan fun grown =>
      (∀ entry ∈ (contentFields registry bindings fields store).1, entry.2.Planned grown) ∧
        Entries.mapValues Field.branch (contentFields registry bindings fields store).1 =
          contentBranches registry trees fields
  | [] => follows.continues ⟨by simp [contentFields], rfl⟩
  | (name, content) :: rest =>
    (content_stands follows stand content).next fun _ grows followsOn stands =>
      (contentFields_stand followsOn (stand.grows grows) rest).imp fun _ growsOn others =>
        ⟨List.forall_mem_cons.mpr ⟨(stands.grows growsOn).planned, others.1⟩,
          congrArg₂ List.cons (congrArg (fun tree => (name, Branch.held tree)) stands.same)
            others.2⟩

end

/-- The value of an optional content stands for its optional tree. -/
theorem contentValue?_stands (follows : store.Follows registry plan)
    (stand : BindingsStand plan bindings trees) (content? : Option Content) :
    (contentValue? registry bindings content? store).2.Continues registry plan fun grown =>
      Option.Rel (Value.Stands grown) (contentValue? registry bindings content? store).1
        (content?.map (·.tree registry trees)) := by
  cases content? with
  | none => exact follows.continues .none
  | some content =>
    exact (content_stands follows stand content).imp fun _ _ stands => .some stands

/-- The slots of a list agree with the private slots. -/
theorem slotValues_stand (follows : store.Follows registry plan)
    (stand : BindingsStand plan bindings trees) (slots : List (Slot Content)) :
    (slotValues registry bindings slots store).2.Continues registry plan fun grown =>
      List.Forall₂ (SlotStands grown) (slotValues registry bindings slots store).1
        (slots.map (slotTree registry trees)) := by
  induction slots generalizing store plan with
  | nil => exact follows.continues .nil
  | cons slot rest inductionHypothesis =>
    cases slot with
    | kept index =>
      exact (inductionHypothesis follows stand).imp fun _ _ others => .cons (.kept index) others
    | fresh content =>
      refine (content_stands follows stand content).next fun grown grows followsOn stands => ?_
      exact (inductionHypothesis followsOn (stand.grows grows)).imp fun _ growsOn others =>
        .cons (.fresh (stands.grows growsOn)) others

/-- A path that finds nothing is answered alike. -/
theorem Reading.missing_tells (registry : Registry) (reading : Reading) :
    reading.missing.Tells registry reading.missingReply := by
  cases reading with
  | value => exact .value .none
  | materialize _ | text | parts | field _ | isResolved _ | contains _ | names | size | typename
  | visit | objectText | onItem _ _ _ => exact .missing

theorem Writing.missing_tells (registry : Registry) (writing : Writing) :
    writing.missing.Tells registry writing.missingReply := by
  cases writing with
  | reach => exact .value .none
  | assign _ | push _ | set _ _ | remove _ | arrange _ | onItem _ _ _ => exact .missing

/-- A question about an object is answered alike when it is for the fields and their branches. -/
theorem aboutObject_tells {answer : Entries Field → Store → Answer × Store}
    {reply : Entries Branch → Reply} (follows : store.Follows registry plan) {value : Value}
    {tree : Tree} (stands : value.Stands plan tree)
    (alike : ∀ fields : Entries Field, (∀ entry ∈ fields, entry.2.Planned plan) →
      (answer fields store).2.Continues registry plan fun _ =>
        (answer fields store).1.Tells registry (reply (Entries.mapValues Field.branch fields))) :
    (aboutObject value store answer).2.Continues registry plan fun _ =>
      (aboutObject value store answer).1.Tells registry (aboutBranches tree reply) := by
  rcases stands.fields with ⟨identity, fields, rfl, planned, rfl⟩ | ⟨notObject, notTree⟩
  · exact alike fields planned
  · have other : aboutObject value store answer = (.notObject, store) := by
      cases value <;> simp_all [aboutObject]
    have otherReply : aboutBranches tree reply = .notObject := by
      cases tree <;> simp_all [aboutBranches]
    rw [other, otherReply]
    exact follows.continues .notObject

/-- A question about an item of a list is answered alike when the question itself is. -/
theorem onItem_tells (follows : store.Follows registry plan) {value : Value} {tree : Tree}
    (stands : value.Stands plan tree) (index : Nat) (path : List String) {reading : Reading}
    (alike : ∀ {plan : Plan} {store : Store} {value : Value} {tree : Tree},
      store.Follows registry plan → value.Stands plan tree →
        (reading.answer registry value store).2.Continues registry plan fun _ =>
          (reading.answer registry value store).1.Tells registry (reading.reply registry tree)) :
    ((Reading.onItem index path reading).answer registry value store).2.Continues registry plan
      fun _ => ((Reading.onItem index path reading).answer registry value store).1.Tells registry
        ((Reading.onItem index path reading).reply registry tree) := by
  rcases stands.items with ⟨items, rfl, planned, rfl⟩ | ⟨notList, notTree⟩
  · simp only [Reading.answer, Reading.reply, List.getElem?_map]
    cases chosen : items[index]? with
    | none => exact follows.continues .missing
    | some item =>
      have itemStands : item.Stands plan item.tree :=
        ⟨planned item (List.mem_of_getElem? chosen), rfl⟩
      simp only [Option.map_some]
      refine (get?_stands follows itemStands path).next fun grown _ followsOn found => ?_
      generalize item.get? registry path store = read at found followsOn ⊢
      obtain ⟨value?, after⟩ := read
      generalize item.tree.get? registry path = tree? at found ⊢
      cases found with
      | none => exact followsOn.continues (reading.missing_tells registry)
      | some stands => exact alike followsOn stands
  · have other : (Reading.onItem index path reading).answer registry value store =
        (.notList, store) := by
      cases value <;> simp_all [Reading.answer]
    have otherReply : (Reading.onItem index path reading).reply registry tree = .notList := by
      cases tree <;> simp_all [Reading.reply]
    rw [other, otherReply]
    exact follows.continues .notList

/-- Every question about a value is answered like the question about its tree. -/
theorem Reading.answer_tells (follows : store.Follows registry plan) {value : Value}
    {tree : Tree} (stands : value.Stands plan tree) (reading : Reading) :
    (reading.answer registry value store).2.Continues registry plan fun _ =>
      (reading.answer registry value store).1.Tells registry (reading.reply registry tree) := by
  induction reading generalizing value tree store plan with
  | value => exact follows.continues (.value (.some (snapshot_shows follows stands)))
  | materialize depth =>
    refine (materialize_stands follows stands depth).imp fun _ _ same => ?_
    simp only [Reading.answer, Reading.reply, same]
    exact .json _
  | text => exact follows.continues (.text _)
  | parts =>
    rw [← stands.same]
    exact follows.continues (.parts value)
  | field name =>
    refine aboutObject_tells follows stands fun fields planned => ?_
    obtain ⟨grown, grows, followsOn, found⟩ := readField_stands follows fields planned name
    exact ⟨grown, grows, followsOn, .value (snapshots_show followsOn found)⟩
  | isResolved name =>
    exact aboutObject_tells follows stands fun fields _ => follows.continues (.resolved _)
  | contains name =>
    refine aboutObject_tells follows stands fun fields _ => follows.continues ?_
    rw [Entries.value?_mapValues, Option.isSome_map]
    exact .flag _
  | names =>
    refine aboutObject_tells follows stands fun fields _ => follows.continues ?_
    rw [Entries.names_mapValues]
    exact .names _
  | size =>
    refine aboutObject_tells follows stands fun fields _ => follows.continues ?_
    rw [Entries.mapValues, List.length_map]
    exact .size _
  | typename =>
    refine aboutObject_tells follows stands fun fields planned => ?_
    refine (typename?_stands follows fields planned).imp fun _ _ same => ?_
    rw [← same]
    exact .typename _
  | visit =>
    refine aboutObject_tells follows stands fun fields planned => ?_
    exact (visitFields_show follows fields planned).imp fun _ _ shown => .visited shown
  | objectText =>
    exact aboutObject_tells follows stands fun fields _ => follows.continues (.text _)
  | onItem index path reading inductionHypothesis =>
    exact onItem_tells follows stands index path fun followsOn => inductionHypothesis followsOn

/-- A change whose content is worked out first: the store after that continues the plan, and
from then on the change does what the private change does. -/
def ChangesAlike (registry : Registry) (plan : Plan) (changed : Edit Answer × Store)
    (privately : TreeEdit Reply) : Prop :=
  changed.2.Continues registry plan fun grown =>
    EditsAlike registry grown (fun _ => Answer.Tells registry) changed.1 privately

/-- Edits that are done alike and whose answers are put into words alike are answered alike. -/
theorem EditsAlike.told {α β : Type} {answers : Plan → α → β → Prop} {change : Edit α}
    {privately : TreeEdit β} (alike : EditsAlike registry plan answers change privately)
    (answer : α → Store → Answer) (reply : β → Reply)
    (tells : ∀ {last : Plan} {store : Store} {given : α} {privateGiven : β},
      store.Follows registry last → answers last given privateGiven →
        (answer given store).Tells registry (reply privateGiven)) :
    EditsAlike registry plan (fun _ => Answer.Tells registry)
      (fun value store =>
        let (given, value, store) := change value store
        (answer given store, value, store))
      (fun tree =>
        let (given, tree) := privately tree
        (reply given, tree)) := by
  intro grown store value tree grows follows stands
  obtain ⟨last, growsOn, followsOn, changed, agree⟩ := alike grows follows stands
  exact ⟨last, growsOn, followsOn, changed, tells followsOn agree⟩

/-- The length of a list, or that there is none, is answered alike. -/
theorem length_tells (registry : Registry) (length? : Option Nat) :
    ((length?.map Answer.length).getD .notList).Tells registry
      ((length?.map Reply.length).getD .notList) := by
  cases length? with
  | none => exact .notList
  | some length => exact .length length

/-- An optional answer, with another one where there is none, tells the optional reply. -/
theorem getD_tells {answer? : Option Answer} {reply? : Option Reply} {other : Answer}
    {otherReply : Reply} (told : Option.Rel (Answer.Tells registry) answer? reply?)
    (otherwise : other.Tells registry otherReply) :
    (answer?.getD other).Tells registry (reply?.getD otherReply) := by
  cases told with
  | none => exact otherwise
  | some told => exact told

/-- The change of an item of a list is answered alike wherever it ends. -/
theorem Writing.itemAnswer_tells (writing : Writing)
    {found : Option (Option (Option Answer))} {foundReply : Option (Option (Option Reply))}
    (told : Option.Rel (Option.Rel (Option.Rel (Answer.Tells registry))) found foundReply) :
    (writing.itemAnswer found).Tells registry (writing.itemReply foundReply) := by
  cases told with
  | none => exact .notList
  | some chosen =>
    cases chosen with
    | none => exact .missing
    | some answered => exact getD_tells answered (writing.missing_tells registry)

/-- Every change of a value is answered like the change of its tree, and leaves a value that
stands for the changed tree. -/
theorem Writing.edit_tells (follows : store.Follows registry plan)
    (stand : BindingsStand plan bindings trees) (writing : Writing) :
    ChangesAlike registry plan (writing.edit registry bindings store)
      (writing.treeEdit registry trees) := by
  induction writing generalizing store plan with
  | reach =>
    refine follows.continues fun _ _ _ _ _ followsThen stands => followsThen.continues ?_
    exact ⟨stands, .value (.some (snapshot_shows followsThen stands))⟩
  | assign content =>
    refine (content_stands follows stand content).imp fun grown _ replacement => ?_
    exact (assign_alike replacement).told (fun _ _ => .done) (fun _ => .done) fun _ _ => .done
  | push content =>
    refine (content_stands follows stand content).imp fun grown _ item => ?_
    exact (push_alike item).told (fun length? _ => (length?.map Answer.length).getD .notList)
      (fun length? => (length?.map Reply.length).getD .notList)
      fun _ same => same ▸ length_tells registry _
  | set name content =>
    refine (content_stands follows stand content).imp fun grown _ replacement => ?_
    refine (setField_alike name replacement).told
      (fun isObject _ => if isObject then .done else .notObject)
      (fun isObject => if isObject then .done else .notObject) fun {_ _ isObject _} _ same => ?_
    subst same
    cases isObject with
    | true => exact .done
    | false => exact .notObject
  | remove name =>
    refine follows.continues ((removeField_alike registry plan name).told
      (fun removed store =>
        (removed.map fun found : Option Value =>
          Answer.value (found.map store.snapshot)).getD .notObject)
      (fun removed => (removed.map Reply.value).getD .notObject) fun followsThen removed => ?_)
    cases removed with
    | none => exact .notObject
    | some found => exact .value (snapshots_show followsThen found)
  | arrange slots =>
    refine (slotValues_stand follows stand slots).imp fun grown _ placed => ?_
    exact (arrange_alike placed).told
      (fun length? _ => (length?.map Answer.length).getD .notList)
      (fun length? => (length?.map Reply.length).getD .notList)
      fun _ same => same ▸ length_tells registry _
  | onItem index path writing inductionHypothesis =>
    refine (inductionHypothesis follows stand).imp fun grown _ alike => ?_
    exact (editItem_alike (edit_alike alike path) index).told
      (fun found _ => writing.itemAnswer found) writing.itemReply
      fun _ told => writing.itemAnswer_tells told

/-- Every operation on a value is answered like the operation on its tree, and leaves a value
that stands for the tree that the operation leaves. -/
theorem Operation.run_tells (stand : BindingsStand plan bindings trees) (operation : Operation) :
    EditsAlike registry plan (fun _ => Answer.Tells registry)
      (operation.run registry bindings) (operation.treeEdit registry trees) := by
  intro grown store value tree grows follows stands
  cases operation with
  | read path reading =>
    refine (get?_stands follows stands path).next fun read growsRead followsRead found => ?_
    simp only [Operation.run, Operation.treeEdit]
    generalize value.get? registry path store = got at found followsRead ⊢
    generalize tree.get? registry path = tree? at found ⊢
    obtain ⟨value?, after⟩ := got
    cases found with
    | none => exact followsRead.continues ⟨stands.grows growsRead, reading.missing_tells registry⟩
    | some target =>
      exact (reading.answer_tells followsRead target).imp fun _ growsOn told =>
        ⟨stands.grows (growsRead.trans growsOn), told⟩
  | write path writing =>
    refine (writing.edit_tells follows (stand.grows grows)).next
      fun worked growsWorked followsWorked alike => ?_
    have answered := (edit_alike alike path).told
      (fun answer? _ => answer?.getD writing.missing) (·.getD writing.missingReply)
      fun _ told => getD_tells told (writing.missing_tells registry)
    exact answered (List.prefix_refl worked) followsWorked (stands.grows growsWorked)

/-- Operations one after another are answered like operations on the tree. -/
theorem runOperations_tell (stand : BindingsStand plan bindings trees)
    (operations : List Operation) :
    EditsAlike registry plan (fun _ => List.Forall₂ (Answer.Tells registry))
      (runOperations registry bindings operations) (treeOperations registry trees operations) := by
  induction operations with
  | nil => exact fun _ _ _ _ _ follows stands => follows.continues ⟨stands, .nil⟩
  | cons operation rest inductionHypothesis =>
    intro grown store value tree grows follows stands
    refine (operation.run_tells stand grows follows stands).next
      fun done growsDone followsDone first => ?_
    exact (inductionHypothesis (grows.trans growsDone) followsDone first.1).imp
      fun _ _ others => ⟨others.1, .cons first.2 others.2⟩

end SchemaFixtures.Fixture
