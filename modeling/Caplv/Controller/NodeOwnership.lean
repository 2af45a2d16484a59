import Caplv.Controller.NodeKeys
import Caplv.Controller.World

namespace Caplv.Controller

open Text Api Program

-- The Node as the API server has it, what the running call has read of it, what the other
-- writers by themselves have made of it, and how many patches were applied.
structure NodeWorld where
  node : Node
  base : Node
  foreign : Node
  patches : Nat

def writeKey (node : Node) (key : String) (entry : Option String) : NodeField → Node
  | .labels => { node with labels := node.labels.write key entry }
  | .annotations => { node with annotations := node.annotations.write key entry }

def patchedNode (base modified current : Node) : Node :=
  ⟨.mergePatch base.labels modified.labels current.labels,
    .mergePatch base.annotations modified.annotations current.annotations⟩

def Own (specs : LibvirtMachineSpec → Prop) (field : NodeField) (key : String) : Prop :=
  field.Tracks key ∨ ∃ spec, specs spec ∧ key ∈ (field.wanted spec).keys

-- Another writer adds, changes or removes a key of its own.
inductive Others (specs : LibvirtMachineSpec → Prop) : NodeWorld → NodeWorld → Prop where
  | write (w : NodeWorld) (field : NodeField) (key : String) (entry : Option String)
      (hforeign : ¬ Own specs field key) :
      Others specs w { w with
        node := writeKey w.node key entry field
        foreign := writeKey w.foreign key entry field }

def HasKeys (valid : String → Prop) (node : Node) : Prop :=
  ∀ (field : NodeField) (key : String), ((field.of node).get? key).isSome = true → valid key

-- A request may fail. A patch that is applied leaves a Node whose keys are all qualified; its
-- answer may get lost.
def nodeStep (qualified : String → Prop) : Handler signature NodeWorld
  | before, .getNode _, reply, after =>
    (after = before ∧ ∃ err, reply = .error err) ∨
      (reply = .ok before.node ∧ after = { before with base := before.node })
  | before, .patchNode _ modified, reply, after =>
    (after = before ∧ ∃ err, reply = .error err) ∨
      (HasKeys qualified (patchedNode before.base modified before.node) ∧ after = { before with
        node := patchedNode before.base modified before.node
        patches := before.patches + 1 })
  | before, _, _, after => after = before

-- Calls of reconcileNodeLabels for these specs, one after the other, and the other writers at
-- any point between two requests.
def nodeSystem (qualified : String → Prop) (specs : LibvirtMachineSpec → Prop) (nodeName : String) :
    System signature NodeWorld Unit (Return × LibvirtMachineStatus) where
  handler _ := nodeStep qualified
  env := Others specs
  start _ prog := ∃ lm status, specs (LibvirtMachine.spec lm) ∧ prog = reconcileNodeLabels lm nodeName status

def Agrees (specs : LibvirtMachineSpec → Prop) (node other : Node) : Prop :=
  ∀ (field : NodeField) (key : String), Own specs field key → (field.of node).get? key = (field.of other).get? key

def Tracked (specs : LibvirtMachineSpec → Prop) (node : Node) : Prop :=
  ∀ (field : NodeField), ∀ key ∈ managedKeys node field, ∃ spec, specs spec ∧ key ∈ (field.wanted spec).keys

section Patches

variable {specs : LibvirtMachineSpec → Prop} {qualified : String → Prop} {a b c base current : Node}
  {field : NodeField} {key : String}

theorem Agrees.refl (a : Node) : Agrees specs a a := fun _ _ _ => rfl

theorem Agrees.trans (hab : Agrees specs a b) (hbc : Agrees specs b c) : Agrees specs a c :=
  fun field key hown => (hab field key hown).trans (hbc field key hown)

theorem Agrees.managedKeys (h : Agrees specs a b) (field : NodeField) : managedKeys a field = managedKeys b field := by
  have htracking : a.annotations.get? field.tracking = b.annotations.get? field.tracking :=
    h .annotations field.tracking (.inl ⟨rfl, field, rfl⟩)
  rw [Controller.managedKeys, Controller.managedKeys, StringMap.index, StringMap.index, htracking]

theorem Tracked.agrees (h : Tracked specs a) (hagrees : Agrees specs a b) : Tracked specs b :=
  fun field key hkey => h field key (hagrees.managedKeys field ▸ hkey)

theorem get?_writeKey (node : Node) (written : String) (entry : Option String) (other : NodeField) :
    (field.of (writeKey node written entry other)).get? key =
      if field = other ∧ key = written then entry else (field.of node).get? key := by
  cases field <;> cases other <;> simp [NodeField.of, writeKey, StringMap.get?_write]

theorem get?_patchedNode (base modified current : Node) :
    (field.of (patchedNode base modified current)).get? key =
      if (field.of base).get? key = (field.of modified).get? key then (field.of current).get? key
      else (field.of modified).get? key := by
  cases field <;> exact StringMap.get?_mergePatch ..

theorem get?_patchedNode_own (hagrees : Agrees specs base current) (hown : Own specs field key) (modified : Node) :
    (field.of (patchedNode base modified current)).get? key = (field.of modified).get? key := by
  rw [get?_patchedNode]
  split
  · rename_i hsame
    rw [← hagrees field key hown, hsame]
  · rfl

theorem get?_patchedNode_foreign {spec : LibvirtMachineSpec} (hspec : specs spec) (htracked : Tracked specs base)
    (hforeign : ¬ Own specs field key) :
    (field.of (patchedNode base (labelledNode spec base) current)).get? key = (field.of current).get? key := by
  have hwanted : (field.wanted spec).get? key = none := by
    by_contra hsome
    have hmem := (StringMap.get?_isSome _ _).mp (Option.isSome_iff_ne_none.mpr hsome)
    exact hforeign (.inr ⟨spec, hspec, hmem⟩)
  have hmanaged : key ∉ managedKeys base field := fun hmem => hforeign (.inr (htracked field key hmem))
  have hsame : (field.of (labelledNode spec base)).get? key = (field.of base).get? key := by
    rw [labelledNode_get? spec base field fun h => hforeign (.inl h), hwanted, if_neg hmanaged]
    rfl
  rw [get?_patchedNode, hsame, if_pos rfl]

theorem tracking_listable (field : NodeField) : Listable field.tracking := by
  cases field <;> exact ⟨by decide, by decide⟩

-- An accepted patch has only keys that can be read back.
theorem wanted_listable (hqualified : ∀ key, qualified key → Listable key) {spec : LibvirtMachineSpec}
    (hspec : specs spec) (hagrees : Agrees specs base current)
    (haccepted : HasKeys qualified (patchedNode base (labelledNode spec base) current)) :
    ∀ key ∈ (field.wanted spec).keys, Listable key := by
  intro key hkey
  by_cases htracks : field.Tracks key
  · obtain ⟨-, other, rfl⟩ := htracks
    exact tracking_listable other
  · refine hqualified key (haccepted field key ?_)
    rw [get?_patchedNode_own hagrees (.inr ⟨spec, hspec, hkey⟩), labelledNode_get? spec base field htracks,
      Option.isSome_or, (StringMap.get?_isSome _ _).mpr hkey, Bool.true_or]

theorem managedKeys_patchedNode (hqualified : ∀ key, qualified key → Listable key) {spec : LibvirtMachineSpec}
    (hspec : specs spec) (hagrees : Agrees specs base current)
    (haccepted : HasKeys qualified (patchedNode base (labelledNode spec base) current)) :
    key ∈ managedKeys (patchedNode base (labelledNode spec base) current) field ↔ key ∈ (field.wanted spec).keys := by
  have htracking : (patchedNode base (labelledNode spec base) current).annotations.get? field.tracking =
      trackingValue (field.wanted spec) :=
    (get?_patchedNode_own hagrees (.inl ⟨rfl, field, rfl⟩) _).trans (labelledNode_tracking spec base field)
  rw [managedKeys, StringMap.index, htracking]
  exact mem_parse_trackingValue (wanted_listable hqualified hspec hagrees haccepted) key

end Patches

def NodeRely (specs : LibvirtMachineSpec → Prop) (before after : NodeWorld) : Prop :=
  after.base = before.base ∧ after.patches = before.patches ∧ Agrees specs before.node after.node

-- A patch is made for one of the specs, from a version of the Node that is still its own.
def NodeGuard (specs : LibvirtMachineSpec → Prop) (w : NodeWorld) : Op → Prop
  | .patchNode _ modified => ∃ spec, specs spec ∧ modified = labelledNode spec w.base ∧
      Tracked specs w.base ∧ Agrees specs w.base w.node
  | _ => True

def NoKeys (spec : LibvirtMachineSpec) : Prop := spec.nodeLabels = [] ∧ spec.nodeAnnotations = []

def Applied (qualified : String → Prop) (specs : LibvirtMachineSpec → Prop) (spec : LibvirtMachineSpec)
    (before after : Node) : Prop :=
  ∃ base current, Agrees specs before base ∧ Agrees specs base current ∧
    HasKeys qualified (patchedNode base (labelledNode spec base) current) ∧
    Agrees specs (patchedNode base (labelledNode spec base) current) after

def CallEnd (qualified : String → Prop) (specs : LibvirtMachineSpec → Prop) (spec : LibvirtMachineSpec)
    (before after : NodeWorld) : Prop :=
  (after.patches = before.patches ∧ Agrees specs before.node after.node) ∨
    (¬ NoKeys spec ∧ after.patches = before.patches + 1 ∧ Applied qualified specs spec before.node after.node)

section Calls

variable {specs : LibvirtMachineSpec → Prop} {qualified : String → Prop} {w w' : NodeWorld}

theorem NodeRely.refl (w : NodeWorld) : NodeRely specs w w := ⟨rfl, rfl, .refl _⟩

theorem NodeRely.trans {a b c : NodeWorld} (hab : NodeRely specs a b) (hbc : NodeRely specs b c) :
    NodeRely specs a c :=
  ⟨hbc.1.trans hab.1, hbc.2.1.trans hab.2.1, hab.2.2.trans hbc.2.2⟩

theorem Others.rely (h : Others specs w w') : NodeRely specs w w' := by
  cases h with
  | write field key entry hforeign =>
    refine ⟨rfl, rfl, fun other key' hown => ?_⟩
    rw [get?_writeKey, if_neg]
    rintro ⟨rfl, rfl⟩
    exact hforeign hown

-- Every request of a call is one the others can live with. A call that finds the Node and
-- returns no error has nothing to do or has patched it.
theorem reconcileNodeLabels_ends {step : Handler signature NodeWorld} {lm : LibvirtMachine} (nodeName : String)
    (status : LibvirtMachineStatus)
    (hstep : ∀ before op reply after, step before op reply after → nodeStep qualified before op reply after)
    (hspec : specs lm.spec) (htracked : Tracked specs w.node) :
    EndsUnder (NodeRely specs) step (NodeGuard specs)
      (fun out after => CallEnd qualified specs lm.spec w after ∧
        ((∀ before name reply after, step before (.getNode name) reply after → ∃ node, reply = .ok node) →
          out.1.2 = none → NoKeys lm.spec ∨ after.patches = w.patches + 1))
      (reconcileNodeLabels lm nodeName status) w := by
  intro w₁ h₁
  rw [reconcileNodeLabels]
  split
  · rename_i hempty
    have hnone : NoKeys lm.spec := ⟨List.length_eq_zero_iff.mp hempty.1, List.length_eq_zero_iff.mp hempty.2⟩
    exact ⟨.inl h₁.2, fun _ _ => .inl hnone⟩
  · rename_i hkeys
    have hsome : ¬ NoKeys lm.spec := fun h => hkeys (by rw [h.1, h.2]; exact ⟨rfl, rfl⟩)
    refine ⟨trivial, fun found w₃ hread => ?_⟩
    obtain ⟨w₂, hget, h₃⟩ := hread
    rcases hstep _ _ _ _ hget with ⟨rfl, err, rfl⟩ | ⟨rfl, rfl⟩
    · have hleft : CallEnd qualified specs lm.spec w w₃ := .inl (h₁.trans h₃).2
      have hnever {post : Prop} (hfound : ∀ before name reply after, step before (.getNode name) reply after →
          ∃ node, reply = .ok node) : post := by
        obtain ⟨node, hok⟩ := hfound _ _ _ _ hget
        cases hok
      change Holds _ _ _ (if err.isNotFound = true then _ else _) _
      split
      · exact ⟨hleft, fun hfound => hnever hfound⟩
      · exact ⟨hleft, fun hfound => hnever hfound⟩
    · obtain ⟨hbase, hpatches, hagrees⟩ := h₃
      refine ⟨⟨lm.spec, hspec, ?_, ?_, ?_⟩, fun reply w₅ hwritten => ?_⟩
      · exact congrArg (labelledNode lm.spec) hbase.symm
      · rw [hbase]
        exact htracked.agrees h₁.2.2
      · rw [hbase]
        exact hagrees
      obtain ⟨w₄, hpatch, h₅⟩ := hwritten
      rcases hstep _ _ _ _ hpatch with ⟨rfl, err, rfl⟩ | ⟨haccepted, rfl⟩
      · refine ⟨.inl ⟨?_, ?_⟩, fun _ hok => by cases hok⟩
        · exact h₅.2.1.trans (hpatches.trans h₁.2.1)
        · exact h₁.2.2.trans (hagrees.trans h₅.2.2)
      · have hcount : w₅.patches = w.patches + 1 := by
          rw [h₅.2.1]
          exact congrArg (· + 1) (hpatches.trans h₁.2.1)
        rw [hbase] at haccepted h₅
        have happlied : Applied qualified specs lm.spec w.node w₅.node :=
          ⟨w₁.node, w₃.node, h₁.2.2, hagrees, haccepted, h₅.2.2⟩
        cases reply with
        | error err => exact ⟨.inr ⟨hsome, hcount, happlied⟩, fun _ _ => .inr hcount⟩
        | ok _ => exact ⟨.inr ⟨hsome, hcount, happlied⟩, fun _ _ => .inr hcount⟩

end Calls

-- What the other writers rely on, and why they can: the tracking annotations name keys of
-- some spec only.
structure Untouched (specs : LibvirtMachineSpec → Prop) (w : NodeWorld) : Prop where
  foreign : ∀ (field : NodeField) (key : String), ¬ Own specs field key →
    (field.of w.node).get? key = (field.of w.foreign).get? key
  tracked : Tracked specs w.node

section Untouched

variable {specs : LibvirtMachineSpec → Prop} {qualified : String → Prop} {w w' : NodeWorld}

theorem Untouched.others (h : Untouched specs w) (hothers : Others specs w w') : Untouched specs w' := by
  refine ⟨?_, h.tracked.agrees hothers.rely.2.2⟩
  cases hothers with
  | write field key entry hforeign =>
    intro other key' hkey
    rw [get?_writeKey, get?_writeKey, h.foreign other key' hkey]

theorem Untouched.step (hqualified : ∀ key, qualified key → Listable key) {op : Op} {reply : Reply op}
    (h : Untouched specs w) (hguard : NodeGuard specs w op) (hstep : nodeStep qualified w op reply w') :
    Untouched specs w' := by
  cases op with
  | getNode name =>
    rcases hstep with ⟨rfl, -⟩ | ⟨-, rfl⟩
    · exact h
    · exact ⟨h.foreign, h.tracked⟩
  | patchNode name modified =>
    obtain ⟨spec, hspec, rfl, htracked, hagrees⟩ := hguard
    rcases hstep with ⟨rfl, -⟩ | ⟨haccepted, rfl⟩
    · exact h
    · refine ⟨fun field key hforeign => ?_, fun field key hkey => ⟨spec, hspec, ?_⟩⟩
      · exact (get?_patchedNode_foreign hspec htracked hforeign).trans (h.foreign field key hforeign)
      · exact (managedKeys_patchedNode hqualified hspec hagrees haccepted).mp hkey
  | _ => exact hstep ▸ h

end Untouched

-- Every key that no spec and no tracking annotation names has the value its own writers gave
-- it last, because the tracking annotations are read back exactly and never name another key.
theorem foreign_keys_untouched (qualified : String → Prop) (specs : LibvirtMachineSpec → Prop) (nodeName : String)
    (start : Node) (hqualified : ∀ key, qualified key → key ≠ "" ∧ ',' ∉ key.toList)
    (hstart : ∀ field : NodeField, start.annotations.get? field.tracking = none)
    (c : Config signature NodeWorld Unit (Return × LibvirtMachineStatus))
    (hc : (nodeSystem qualified specs nodeName).Reachable (fun w => w.node = start ∧ w.foreign = start) c) :
    (∀ (field : NodeField) (key : String), ¬ Own specs field key →
      (field.of c.state.node).get? key = (field.of c.state.foreign).get? key) ∧
    (∀ (field : NodeField), ∀ key ∈ managedKeys c.state.node field,
      ∃ spec, specs spec ∧ key ∈ (field.wanted spec).keys) ∧
    ∀ m : StringMap, (∀ key ∈ m.keys, qualified key) →
      (parseManagedKeys (formatManagedKeys m)).Perm m.keys := by
  have hsafe := (nodeSystem qualified specs nodeName).reachable_safe (Untouched specs) (fun _ => NodeRely specs)
    (fun _ => NodeGuard specs) (fun _ => NodeRely.refl) (fun _ _ _ _ => NodeRely.trans) ?_ ?_ ?_ ?_ hc
  · exact ⟨hsafe.1.foreign, hsafe.1.tracked,
      fun m hm => parseManagedKeys_formatManagedKeys fun key hkey => hqualified key (hm key hkey)⟩
  · rintro w ⟨rfl, hforeign⟩
    refine ⟨fun field key _ => by rw [hforeign], fun field key hkey => ?_⟩
    rw [managedKeys, StringMap.index, hstart field] at hkey
    exact (List.not_mem_nil hkey).elim
  · exact fun before after hinv hothers => ⟨hinv.others hothers, fun _ => hothers.rely⟩
  · rintro _ _ w hinv ⟨lm, status, hspec, rfl⟩ w₁ h₁
    have hends := @reconcileNodeLabels_ends specs qualified w (nodeStep qualified) lm nodeName status
      (fun _ _ _ _ hs => hs) hspec hinv.tracked
    exact (hends w₁ h₁).post_mono fun _ _ _ => trivial
  · intro i before op reply after hinv hguard hstep
    exact ⟨hinv.step hqualified hguard hstep, fun j hj => absurd (Subsingleton.elim j i) hj⟩

instance : DecidablePred Listable := fun _ => inferInstanceAs (Decidable (_ ∧ _))

def nodeMachine : Program.Machine signature NodeWorld := fun w op =>
  match op with
  | .getNode _ => (.ok w.node, { w with base := w.node })
  | .patchNode _ modified =>
    (.ok (), { w with node := patchedNode w.base modified w.node, patches := w.patches + 1 })
  | op => (freshAnswer op, w)

def acceptable (w : NodeWorld) : Op → Bool
  | .getNode _ => true
  | .patchNode _ modified =>
    let node := patchedNode w.base modified w.node
    (node.labels.keys ++ node.annotations.keys).all fun key => decide (Listable key)
  | _ => false

theorem nodeMachine_nodeStep {w : NodeWorld} {op : Op} (h : acceptable w op = true) :
    nodeStep Listable w op (nodeMachine w op).1 (nodeMachine w op).2 := by
  cases op with
  | getNode name => exact .inr ⟨rfl, rfl⟩
  | patchNode name modified =>
    have hall := List.all_eq_true.mp h
    refine .inr ⟨fun field key hkey => ?_, rfl⟩
    have hmem := (StringMap.get?_isSome _ _).mp hkey
    cases field with
    | labels => exact of_decide_eq_true (hall key (List.mem_append_left _ hmem))
    | annotations => exact of_decide_eq_true (hall key (List.mem_append_right _ hmem))
  | _ => cases h

def gpuMachine : LibvirtMachine :=
  { sampleMachine with spec := { sampleMachine.spec with nodeLabels := [("role", "gpu")] } }

def bareNode : Node := ⟨[("zone", "a")], []⟩

def bareWorld : NodeWorld := ⟨bareNode, bareNode, bareNode, 0⟩

def labelling : Prog signature (Return × LibvirtMachineStatus) :=
  reconcileNodeLabels gpuMachine "ns-c-m" gpuMachine.status

def readRun : Prog signature (Return × LibvirtMachineStatus) × NodeWorld := runFor nodeMachine 1 labelling bareWorld

def rezonedWorld : NodeWorld :=
  { readRun.2 with
    node := writeKey readRun.2.node "zone" (some "b") .labels
    foreign := writeKey readRun.2.foreign "zone" (some "b") .labels }

def labelledRun : Prog signature (Return × LibvirtMachineStatus) × NodeWorld :=
  runFor nodeMachine 1 readRun.1 rezonedWorld

theorem zone_foreign : ¬ Own (· = gpuMachine.spec) .labels "zone" := by
  rintro (⟨hfield, -⟩ | ⟨spec, rfl, hkey⟩)
  · cases hfield
  · exact absurd hkey (by decide)

abbrev gpuSystem : System signature NodeWorld Unit (Return × LibvirtMachineStatus) :=
  nodeSystem Listable (· = gpuMachine.spec) "ns-c-m"

def bareStart (w : NodeWorld) : Prop := w.node = bareNode ∧ w.foreign = bareNode

theorem labelledRun_permitted : permits nodeMachine acceptable 1 labelling bareWorld = true ∧
    permits nodeMachine acceptable 1 readRun.1 rezonedWorld = true ∧
    labelledRun.2.node.labels.get? "role" = some "gpu" ∧ labelledRun.2.foreign.labels.get? "zone" = some "b" := by
  decide +kernel

theorem labelledRun_reachable : gpuSystem.Reachable bareStart ⟨labelledRun.2, fun _ => some labelledRun.1⟩ := by
  obtain ⟨hreads, hpatches, -⟩ := labelledRun_permitted
  have hidle : gpuSystem.Reachable bareStart (System.idle bareWorld) := System.reachable_idle ⟨rfl, rfl⟩
  have hread : gpuSystem.Reachable bareStart ⟨readRun.2, fun _ => some readRun.1⟩ :=
    hidle.startRun (i := ()) rfl ⟨gpuMachine, gpuMachine.status, rfl, rfl⟩ nodeMachine acceptable 1
      hreads fun _ _ => nodeMachine_nodeStep
  have hrezoned : gpuSystem.Reachable bareStart ⟨rezonedWorld, fun _ => some readRun.1⟩ :=
    hread.env (Others.write readRun.2 .labels "zone" (some "b") zone_foreign)
  exact hrezoned.runFor (i := ()) rfl nodeMachine acceptable 1 hpatches fun _ _ => nodeMachine_nodeStep

theorem foreign_keys_untouched_sample :
    labelledRun.2.node.labels.get? "role" = some "gpu" ∧ labelledRun.2.node.labels.get? "zone" = some "b" := by
  have huntouched := foreign_keys_untouched Listable (· = gpuMachine.spec) "ns-c-m" bareNode (fun _ h => h)
    (fun field => by cases field <;> rfl) _ labelledRun_reachable
  obtain ⟨-, -, hrole, hzone⟩ := labelledRun_permitted
  exact ⟨hrole, (huntouched.1 .labels "zone" zone_foreign).trans hzone⟩

def Found : (op : Op) → Reply op → Prop
  | .getNode _, reply => ∃ node, reply = .ok node
  | _, _ => True

def foundStep (qualified : String → Prop) : Handler signature NodeWorld := fun before op reply after =>
  nodeStep qualified before op reply after ∧ Found op reply

-- A call as the other writers leave it: they may write before and after each request.
def amongOthers (qualified : String → Prop) (specs : LibvirtMachineSpec → Prop) : Handler signature NodeWorld :=
  interfered (Relation.ReflTransGen (Others specs)) (foundStep qualified)

-- The calls made so far, the latest first, those of them whose patch was applied, and the Node.
inductive Calls (qualified : String → Prop) (specs : LibvirtMachineSpec → Prop) (nodeName : String) (start : Node) :
    List LibvirtMachineSpec → List LibvirtMachineSpec → NodeWorld → Prop where
  | start (w : NodeWorld) (hnode : w.node = start) : Calls qualified specs nodeName start [] [] w
  | others {made applied : List LibvirtMachineSpec} {w w' : NodeWorld}
      (h : Calls qualified specs nodeName start made applied w) (hothers : Others specs w w') :
      Calls qualified specs nodeName start made applied w'
  | call {made applied : List LibvirtMachineSpec} {w w' : NodeWorld} {lm : LibvirtMachine}
      {status : LibvirtMachineStatus} {out : Return × LibvirtMachineStatus}
      (h : Calls qualified specs nodeName start made applied w) (hspec : specs lm.spec)
      (hrun : Completes (amongOthers qualified specs) (reconcileNodeLabels lm nodeName status) w out w') :
      Calls qualified specs nodeName start (lm.spec :: made)
        (if w'.patches = w.patches then applied else lm.spec :: applied) w'

-- The value of a key after these patches: from the last one, or gone once it was applied, or
-- as it was at the start.
def expected (start : Node) (field : NodeField) (key : String) : List LibvirtMachineSpec → Option String
  | [] => (field.of start).get? key
  | last :: rest => ((field.wanted last).get? key).or
      (if ∃ spec ∈ last :: rest, key ∈ (field.wanted spec).keys then none else (field.of start).get? key)

structure Ledger (specs : LibvirtMachineSpec → Prop) (start : Node) (made applied : List LibvirtMachineSpec)
    (node : Node) : Prop where
  value : ∀ (spec : LibvirtMachineSpec) (field : NodeField), specs spec → ∀ key ∈ (field.wanted spec).keys,
    (field.of node).get? key = expected start field key applied
  managed : ∀ (field : NodeField) (key : String),
    key ∈ managedKeys node field ↔ ∃ last ∈ applied.head?, key ∈ (field.wanted last).keys
  applied_made : applied ⊆ made
  made_specs : ∀ spec ∈ made, specs spec
  applied_keys : ∀ spec ∈ applied, ¬ NoKeys spec

section Ledger

variable {specs : LibvirtMachineSpec → Prop} {qualified : String → Prop} {nodeName : String}
  {start before after : Node} {made applied : List LibvirtMachineSpec} {w w' : NodeWorld}
  {spec : LibvirtMachineSpec} {field : NodeField} {key : String}

theorem Others.relies (h : Relation.ReflTransGen (Others specs) w w') : NodeRely specs w w' := by
  induction h with
  | refl => exact .refl w
  | tail _ hothers ih => exact ih.trans hothers.rely

theorem expected_cons : expected start field key (spec :: applied) = ((field.wanted spec).get? key).or
    (if ∃ last ∈ applied.head?, key ∈ (field.wanted last).keys then none
      else expected start field key applied) := by
  rw [expected]
  cases hspec : (field.wanted spec).get? key with
  | some value => rfl
  | none =>
    have hnot : key ∉ (field.wanted spec).keys := (StringMap.get?_eq_none _ _).mp hspec
    cases applied with
    | nil => simp [expected, hnot]
    | cons last rest =>
      rw [expected]
      by_cases hlast : key ∈ (field.wanted last).keys
      · simp [hnot, hlast]
      · have hnone : (field.wanted last).get? key = none := (StringMap.get?_eq_none _ _).mpr hlast
        simp [hnot, hlast, hnone]

theorem expected_eq_none : expected start field key applied = none ↔
    (∀ last ∈ applied.head?, key ∉ (field.wanted last).keys) ∧
      ((field.of start).get? key ≠ none → ∃ spec ∈ applied, key ∈ (field.wanted spec).keys) := by
  cases applied with
  | nil => simp [expected]
  | cons last rest =>
    rw [expected, Option.or_eq_none_iff, StringMap.get?_eq_none]
    refine and_congr (by simp) ?_
    by_cases hany : ∃ spec ∈ last :: rest, key ∈ (field.wanted spec).keys
    · exact ⟨fun _ _ => hany, fun _ => if_pos hany⟩
    · rw [if_neg hany]
      exact ⟨fun hnone hsome => absurd hnone hsome, fun h => by_contra fun hsome => hany (h hsome)⟩

theorem Applied.get? (h : Applied qualified specs spec before after) (hown : Own specs field key)
    (hkey : ¬ field.Tracks key) :
    (field.of after).get? key = ((field.wanted spec).get? key).or
      (if key ∈ managedKeys before field then none else (field.of before).get? key) := by
  obtain ⟨base, current, hbase, hcurrent, -, hafter⟩ := h
  rw [← hafter field key hown, get?_patchedNode_own hcurrent hown, labelledNode_get? spec base field hkey,
    hbase.managedKeys, hbase field key hown]

theorem Applied.managedKeys (hqualified : ∀ key, qualified key → Listable key) (hspec : specs spec)
    (h : Applied qualified specs spec before after) :
    key ∈ managedKeys after field ↔ key ∈ (field.wanted spec).keys := by
  obtain ⟨base, current, hbase, hcurrent, haccepted, hafter⟩ := h
  rw [← hafter.managedKeys]
  exact managedKeys_patchedNode hqualified hspec hcurrent haccepted

theorem Ledger.agrees (h : Ledger specs start made applied before) (hagrees : Agrees specs before after) :
    Ledger specs start made applied after := by
  refine ⟨fun spec field hspec key hkey => ?_, fun field key => ?_, h.applied_made, h.made_specs, h.applied_keys⟩
  · rw [← hagrees field key (.inr ⟨spec, hspec, hkey⟩)]
    exact h.value spec field hspec key hkey
  · rw [← hagrees.managedKeys]
    exact h.managed field key

theorem Ledger.tracked (h : Ledger specs start made applied before) : Tracked specs before := by
  intro field key hkey
  obtain ⟨last, hlast, hmem⟩ := (h.managed field key).mp hkey
  exact ⟨last, h.made_specs last (h.applied_made (List.mem_of_mem_head? hlast)), hmem⟩

theorem Ledger.call (h : Ledger specs start made applied before) (hspec : specs spec) :
    Ledger specs start (spec :: made) applied before :=
  ⟨h.value, h.managed, fun _ hmem => List.mem_cons_of_mem _ (h.applied_made hmem),
    List.forall_mem_cons.mpr ⟨hspec, h.made_specs⟩, h.applied_keys⟩

theorem Ledger.apply (hqualified : ∀ key, qualified key → Listable key)
    (hnames : ∀ spec (field : NodeField), specs spec → ∀ key ∈ (field.wanted spec).keys, ¬ field.Tracks key)
    (h : Ledger specs start made applied before) (hspec : specs spec) (hkeys : ¬ NoKeys spec)
    (happlied : Applied qualified specs spec before after) :
    Ledger specs start (spec :: made) (spec :: applied) after := by
  refine ⟨fun other field hother key hkey => ?_, fun field key => ?_, ?_, (h.call hspec).made_specs,
    List.forall_mem_cons.mpr ⟨hkeys, h.applied_keys⟩⟩
  · rw [happlied.get? (.inr ⟨other, hother, hkey⟩) (hnames other field hother key hkey), expected_cons,
      h.value other field hother key hkey]
    simp only [h.managed]
  · rw [happlied.managedKeys hqualified hspec]
    simp
  · exact List.cons_subset.mpr ⟨List.mem_cons_self, (h.call hspec).applied_made⟩

theorem call_ends {lm : LibvirtMachine} {status : LibvirtMachineStatus} {out : Return × LibvirtMachineStatus}
    (htracked : Tracked specs w.node) (hspec : specs lm.spec)
    (hrun : Completes (amongOthers qualified specs) (reconcileNodeLabels lm nodeName status) w out w') :
    CallEnd qualified specs lm.spec w w' ∧ (out.1.2 = none → NoKeys lm.spec ∨ w'.patches = w.patches + 1) := by
  have hends := @reconcileNodeLabels_ends specs qualified w (foundStep qualified) lm nodeName status
    (fun _ _ _ _ hs => hs.1) hspec htracked
  have hothers (before : NodeWorld) (op : Op) (reply : Reply op) (after : NodeWorld)
      (hs : amongOthers qualified specs before op reply after) :
      interfered (NodeRely specs) (foundStep qualified) before op reply after := by
    obtain ⟨middle, hs, hothers⟩ := hs
    exact ⟨middle, hs, Others.relies hothers⟩
  obtain ⟨hend, hdone⟩ := ((hends w (.refl w)).mono hothers (fun _ _ hg => hg) fun _ _ hp => hp).completes hrun
  exact ⟨hend, hdone fun _ _ _ _ hs => hs.2⟩

theorem Calls.ledger (hqualified : ∀ key, qualified key → Listable key)
    (hnames : ∀ spec (field : NodeField), specs spec → ∀ key ∈ (field.wanted spec).keys, ¬ field.Tracks key)
    (hstart : ∀ field : NodeField, start.annotations.get? field.tracking = none)
    (h : Calls qualified specs nodeName start made applied w) : Ledger specs start made applied w.node := by
  induction h with
  | start w hnode =>
    subst hnode
    refine ⟨fun _ _ _ _ _ => rfl, fun field key => ?_, fun _ h => h, fun _ h => (List.not_mem_nil h).elim,
      fun _ h => (List.not_mem_nil h).elim⟩
    rw [managedKeys, StringMap.index, hstart field]
    simp [parseManagedKeys, splitKeys]
  | others h hothers ih => exact ih.agrees hothers.rely.2.2
  | @call made applied w w' lm status out h hspec hrun ih =>
    rcases (call_ends ih.tracked hspec hrun).1 with ⟨hsame, hagrees⟩ | ⟨hkeys, hcount, happlied⟩
    · rw [if_pos hsame]
      exact (ih.call hspec).agrees hagrees
    · rw [if_neg (by omega)]
      exact ih.apply hqualified hnames hspec hkeys happlied

end Ledger

theorem NoKeys.wanted {spec : LibvirtMachineSpec} (h : NoKeys spec) (field : NodeField) : field.wanted spec = [] := by
  cases field with
  | labels => exact h.1
  | annotations => exact h.2

theorem exists_key {spec : LibvirtMachineSpec} (h : ¬ NoKeys spec) :
    ∃ (field : NodeField) (key : String), key ∈ (field.wanted spec).keys := by
  by_cases hlabels : spec.nodeLabels = []
  · obtain ⟨entry, rest, hannotations⟩ := List.exists_cons_of_ne_nil fun hnil => h ⟨hlabels, hnil⟩
    refine ⟨.annotations, entry.1, ?_⟩
    rw [NodeField.wanted, hannotations]
    exact List.mem_cons_self
  · obtain ⟨entry, rest, hcons⟩ := List.exists_cons_of_ne_nil hlabels
    refine ⟨.labels, entry.1, ?_⟩
    rw [NodeField.wanted, hcons]
    exact List.mem_cons_self

def Carries (spec : LibvirtMachineSpec) (node : Node) : Prop :=
  ∀ (field : NodeField) (key value : String), (field.wanted spec).get? key = some value →
    (field.of node).get? key = some value

def DroppedKey (made : List LibvirtMachineSpec) (spec : LibvirtMachineSpec) (field : NodeField) (key : String) :
    Prop :=
  (∃ earlier ∈ made, key ∈ (field.wanted earlier).keys) ∧ key ∉ (field.wanted spec).keys

-- A call that finds the Node and returns no error leaves what its spec wants and nothing of
-- what earlier specs wanted besides, if and only if it wants something or no earlier patch was
-- applied, and every dropped key the Node had at the start was applied by some call.
theorem keys_follow_spec_iff (qualified : String → Prop) (specs : LibvirtMachineSpec → Prop) (nodeName : String)
    (start : Node) (made applied : List LibvirtMachineSpec) (w w' : NodeWorld) (lm : LibvirtMachine)
    (status : LibvirtMachineStatus) (out : Return × LibvirtMachineStatus)
    (hqualified : ∀ key, qualified key → key ≠ "" ∧ ',' ∉ key.toList)
    (hnames : ∀ spec (field : NodeField), specs spec → ∀ key ∈ (field.wanted spec).keys, ¬ field.Tracks key)
    (hstart : ∀ field : NodeField, start.annotations.get? field.tracking = none)
    (hcalls : Calls qualified specs nodeName start made applied w) (hspec : specs lm.spec)
    (hrun : Completes (amongOthers qualified specs) (reconcileNodeLabels lm nodeName status) w out w')
    (hok : out.1.2 = none) :
    (Carries lm.spec w'.node ∧ ∀ (field : NodeField) (key : String), DroppedKey made lm.spec field key →
      (field.of w'.node).get? key = none) ↔
    (¬ NoKeys lm.spec ∨ applied = []) ∧ ∀ (field : NodeField) (key : String), DroppedKey made lm.spec field key →
      (field.of start).get? key ≠ none → ∃ spec ∈ applied, key ∈ (field.wanted spec).keys := by
  have hledger := hcalls.ledger hqualified hnames hstart
  obtain ⟨hend, hdone⟩ := call_ends hledger.tracked hspec hrun
  have hown {field : NodeField} {key : String} (h : DroppedKey made lm.spec field key) :
      ∃ earlier, specs earlier ∧ key ∈ (field.wanted earlier).keys := by
    obtain ⟨⟨earlier, hmade, hkey⟩, -⟩ := h
    exact ⟨earlier, hledger.made_specs earlier hmade, hkey⟩
  have hvalue {node : Node} {made' applied' : List LibvirtMachineSpec}
      (h : Ledger specs start made' applied' node) {field : NodeField} {key : String}
      (hkey : DroppedKey made lm.spec field key) :
      (field.of node).get? key = none ↔ (∀ last ∈ applied'.head?, key ∉ (field.wanted last).keys) ∧
        ((field.of start).get? key ≠ none → ∃ spec ∈ applied', key ∈ (field.wanted spec).keys) := by
    obtain ⟨earlier, hearlier, hmem⟩ := hown hkey
    rw [h.value earlier field hearlier key hmem]
    exact expected_eq_none
  by_cases hnone : NoKeys lm.spec
  · -- the early return: the Node is as the earlier calls left it
    have hafter : Ledger specs start made applied w'.node := by
      rcases hend with ⟨-, hagrees⟩ | ⟨hkeys, -⟩
      · exact hledger.agrees hagrees
      · exact absurd hnone hkeys
    constructor
    · rintro ⟨-, hgone⟩
      refine ⟨.inr ?_, fun field key hkey => ((hvalue hafter hkey).mp (hgone field key hkey)).2⟩
      cases applied with
      | nil => rfl
      | cons last rest =>
        obtain ⟨field, key, hkey⟩ := exists_key (hafter.applied_keys last List.mem_cons_self)
        have hdropped : DroppedKey made lm.spec field key :=
          ⟨⟨last, hafter.applied_made List.mem_cons_self, hkey⟩, hnone.wanted field ▸ List.not_mem_nil⟩
        exact absurd hkey (((hvalue hafter hdropped).mp (hgone field key hdropped)).1 last rfl)
    · rintro ⟨hempty, hcond⟩
      obtain rfl := hempty.resolve_left (not_not_intro hnone)
      refine ⟨fun field key value hwanted => ?_, fun field key hkey => ?_⟩
      · rw [hnone.wanted field] at hwanted
        cases hwanted
      · exact (hvalue hafter hkey).mpr ⟨fun _ h => (nomatch h), hcond field key hkey⟩
  · have hcount : w'.patches = w.patches + 1 := (hdone hok).resolve_left hnone
    have hafter : Ledger specs start (lm.spec :: made) (lm.spec :: applied) w'.node := by
      rcases hend with ⟨hsame, -⟩ | ⟨hkeys, -, happlied⟩
      · omega
      · exact hledger.apply hqualified hnames hspec hkeys happlied
    have hcarries : Carries lm.spec w'.node := by
      intro field key value hwanted
      have hkey : key ∈ (field.wanted lm.spec).keys := by
        rw [← StringMap.get?_isSome, hwanted]
        rfl
      rw [hafter.value lm.spec field hspec key hkey, expected, hwanted]
      rfl
    have happlied {field : NodeField} {key : String} (hkey : DroppedKey made lm.spec field key) :
        (∃ spec ∈ lm.spec :: applied, key ∈ (field.wanted spec).keys) ↔
          ∃ spec ∈ applied, key ∈ (field.wanted spec).keys := by
      simp [hkey.2]
    constructor
    · rintro ⟨-, hgone⟩
      refine ⟨.inl hnone, fun field key hkey hpresent => (happlied hkey).mp ?_⟩
      exact ((hvalue hafter hkey).mp (hgone field key hkey)).2 hpresent
    · rintro ⟨-, hcond⟩
      refine ⟨hcarries, fun field key hkey => (hvalue hafter hkey).mpr ⟨?_, fun hpresent => ?_⟩⟩
      · rintro last hlast
        obtain rfl : lm.spec = last := Option.some.inj hlast
        exact hkey.2
      · exact (happlied hkey).mpr (hcond field key hkey hpresent)

-- The machine once its label is dropped from the spec, and one that wants another label instead.
def retiredMachine : LibvirtMachine := { sampleMachine with spec := { sampleMachine.spec with nodeLabels := [] } }

def diskfulMachine : LibvirtMachine :=
  { sampleMachine with spec := { sampleMachine.spec with nodeLabels := [("disk", "ssd")] } }

def sampleSpecs (spec : LibvirtMachineSpec) : Prop :=
  spec ∈ [gpuMachine.spec, retiredMachine.spec, diskfulMachine.spec]

def callRun (lm : LibvirtMachine) (w : NodeWorld) : (Return × LibvirtMachineStatus) × NodeWorld :=
  run nodeMachine (reconcileNodeLabels lm "ns-c-m" lm.status) w

theorem callRun_completes {lm : LibvirtMachine} {w : NodeWorld}
    (h : permitted nodeMachine acceptable (reconcileNodeLabels lm "ns-c-m" lm.status) w = true) :
    Completes (amongOthers Listable sampleSpecs) (reconcileNodeLabels lm "ns-c-m" lm.status) w
      (callRun lm w).1 (callRun lm w).2 := by
  refine completes_of_permitted (fun before op henabled => ?_) h
  refine ⟨_, ⟨nodeMachine_nodeStep henabled, ?_⟩, .refl⟩
  cases op with
  | getNode name => exact ⟨before.node, rfl⟩
  | _ => trivial

def gpuWorld : NodeWorld := (callRun gpuMachine bareWorld).2

theorem callRuns_permitted :
    permitted nodeMachine acceptable (reconcileNodeLabels gpuMachine "ns-c-m" gpuMachine.status) bareWorld = true ∧
    permitted nodeMachine acceptable (reconcileNodeLabels diskfulMachine "ns-c-m" diskfulMachine.status)
      gpuWorld = true ∧
    permitted nodeMachine acceptable (reconcileNodeLabels retiredMachine "ns-c-m" retiredMachine.status)
      gpuWorld = true ∧
    (callRun retiredMachine gpuWorld).2.node.labels.get? "role" = some "gpu" := by
  decide +kernel

theorem gpuWorld_calls :
    Calls Listable sampleSpecs "ns-c-m" bareNode [gpuMachine.spec] [gpuMachine.spec] gpuWorld :=
  .call (.start bareWorld rfl) (by simp [sampleSpecs]) (callRun_completes callRuns_permitted.1)

theorem sampleSpecs_names (spec : LibvirtMachineSpec) (field : NodeField) (hspec : sampleSpecs spec) :
    ∀ key ∈ (field.wanted spec).keys, ¬ field.Tracks key := by
  rintro key hkey ⟨rfl, -⟩
  simp only [sampleSpecs, List.mem_cons, List.not_mem_nil, or_false] at hspec
  rcases hspec with rfl | rfl | rfl <;> cases hkey

theorem keys_follow_spec_sample :
    (callRun diskfulMachine gpuWorld).2.node.labels.get? "disk" = some "ssd" ∧
      (callRun diskfulMachine gpuWorld).2.node.labels.get? "role" = none := by
  have hrun : Completes (amongOthers Listable sampleSpecs) _ gpuWorld (callRun diskfulMachine gpuWorld).1
      (callRun diskfulMachine gpuWorld).2 := callRun_completes callRuns_permitted.2.1
  have hiff := keys_follow_spec_iff Listable sampleSpecs "ns-c-m" bareNode _ _ _ _ diskfulMachine _ _ (fun _ h => h)
    sampleSpecs_names (fun field => by cases field <;> rfl) gpuWorld_calls (by simp [sampleSpecs]) hrun rfl
  have hkeys : ¬ NoKeys diskfulMachine.spec := fun h => absurd h.1 (by decide)
  have hfollows := hiff.mpr ⟨.inl hkeys, fun _ _ hdropped _ => hdropped.1⟩
  refine ⟨hfollows.1 .labels "disk" "ssd" (by decide), hfollows.2 .labels "role" ⟨?_, by decide⟩⟩
  exact ⟨gpuMachine.spec, List.mem_singleton_self _, by decide⟩

-- A spec that drops its last label leaves it on the Node, although the call returns no error.
theorem last_label_stays :
    Calls Listable sampleSpecs "ns-c-m" bareNode [gpuMachine.spec] [gpuMachine.spec] gpuWorld ∧
      Completes (amongOthers Listable sampleSpecs) (reconcileNodeLabels retiredMachine "ns-c-m" retiredMachine.status)
        gpuWorld (callRun retiredMachine gpuWorld).1 (callRun retiredMachine gpuWorld).2 ∧
      (callRun retiredMachine gpuWorld).1.1.2 = none ∧
      (∃ value, (NodeField.labels.wanted gpuMachine.spec).get? "role" = some value) ∧
      (NodeField.labels.wanted retiredMachine.spec).get? "role" = none ∧
      (callRun retiredMachine gpuWorld).2.node.labels.get? "role" = some "gpu" :=
  ⟨gpuWorld_calls, callRun_completes callRuns_permitted.2.2.1, rfl, ⟨"gpu", by decide⟩, by decide,
    callRuns_permitted.2.2.2⟩

end Caplv.Controller
