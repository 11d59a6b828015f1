import PageDirectives.Proofs.Directive.Reading
import PageDirectives.Proofs.Dispatch.Frame

set_option autoImplicit false

/-! # Steps of an engine

What is done to an engine from outside are operations (`Engine.Op`). Each of them comes down to a
list of steps of three kinds (`Step`): an event arrives at a node, the actions of a directive
run, a directive is bound. The steps of an operation are known before the first of them is taken:
`Engine.steps` finds them from the directives, the bindings and the parents of nodes alone, and
`Engine.perform_eq` says that taking them one after the other is performing the operation.

Statements about every run of an engine are proved for one step and carried over from there.
-/

namespace PageDirectives

/-- A step of an engine. -/
inductive Step where
  /-- An event arrives at a node, and the listeners for it that wait there run. -/
  | arrive (node : NodeId) (event : String)
  /-- The actions of a directive run for the elements of `origin`. -/
  | dispatch (d : Directive) (origin : List NodeId)
  /-- A directive, which has the number `index`, is bound to its elements. -/
  | bind (index : Nat) (d : Directive) (event : String)
  deriving DecidableEq, Repr

/-- The bindings that a step adds. -/
def Step.bindings : Step → List Binding
  | bind index d event => d.bound.map fun n => ⟨n, event, index⟩
  | _ => []

/-- The step in which a new directive takes effect. -/
def Directive.firstStep (d : Directive) (index : Nat) : Step :=
  match d.trigger with
  | .event event => .bind index d event
  | .load | .predicate => .dispatch d d.bound

namespace Engine

/-- What is done to an engine from outside. -/
inductive Op (H : Type) where
  | readSource (source : String)
  | readScripts
  | fire (node : NodeId) (event : String)
  | register (name : String) (action : Action H)
  | enable (x : Extension H)
  /-- The page is changed, by anyone and in any way. -/
  | change (f : H → H)
  | takeDiagnostics
  | useGrammar (g : Grammar)
  | useScriptTypes (types : List String)
  | useRegistry (r : Registry H)

variable {H : Type}

/-! ## The steps at a node -/

/-- The steps of an event at one node: it arrives, and the directives bound there run. -/
def visitSteps (e : Engine H) (event : String) (node : NodeId) : List Step :=
  .arrive node event :: (e.boundTo node event).filterMap fun index =>
    e.directives[index]?.map fun d => .dispatch d [node]

/-- The directives that run for an event at one node. -/
def visitFirings (e : Engine H) (event : String) (node : NodeId) : List Firing :=
  (e.boundTo node event).filterMap fun index => e.directives[index]?.map fun _ => ⟨node, index⟩

/-- After its arrival, an event only runs directives. -/
theorem exists_of_mem_tail_visitSteps {e : Engine H} {event : String} {node : NodeId} {s : Step}
    (hs : s ∈ (e.visitSteps event node).tail) : ∃ d, s = .dispatch d [node] := by
  obtain ⟨index, -, hindex⟩ := List.mem_filterMap.mp hs
  obtain ⟨d, -, rfl⟩ := Option.map_eq_some_iff.mp hindex
  exact ⟨d, rfl⟩

/-- An event binds nothing. -/
theorem flatMap_bindings_visitSteps (e : Engine H) (event : String) (node : NodeId) :
    (e.visitSteps event node).flatMap Step.bindings = [] := by
  rw [List.flatMap_eq_nil_iff]
  intro s hs
  rcases List.mem_cons.mp hs with rfl | hs
  · rfl
  · obtain ⟨d, rfl⟩ := exists_of_mem_tail_visitSteps hs
    rfl

section Congruence

variable {H' : Type} {e : Engine H} {e' : Engine H'}

theorem boundTo_congr (hb : e'.bindings = e.bindings) : e'.boundTo = e.boundTo := by
  funext node event
  rw [boundTo, boundTo, hb]

/-- The steps at a node hang on the directives and the bindings alone. -/
theorem visitSteps_congr (hd : e'.directives = e.directives) (hb : e'.bindings = e.bindings) :
    e'.visitSteps = e.visitSteps := by
  funext event node
  rw [visitSteps, visitSteps, boundTo_congr hb, hd]

theorem visitFirings_congr (hd : e'.directives = e.directives)
    (hb : e'.bindings = e.bindings) : e'.visitFirings = e.visitFirings := by
  funext event node
  rw [visitFirings, visitFirings, boundTo_congr hb, hd]

end Congruence

variable [Host H]

/-! ## Operations -/

def perform (e : Engine H) : Op H → Engine H
  | .readSource source => (e.readSource source).1
  | .readScripts => e.readScripts.1
  | .fire node event => (e.fire node event).1
  | .register name action => { e with registry := e.registry.register name action }
  | .enable x => e.enable x
  | .change f => { e with host := f e.host }
  | .takeDiagnostics => e.takeDiagnostics.2
  | .useGrammar grammar => { e with grammar }
  | .useScriptTypes scriptTypes => { e with scriptTypes }
  | .useRegistry registry => { e with registry }

/-- Performs operations in order. -/
def run (e : Engine H) (ops : List (Op H)) : Engine H := ops.foldl perform e

@[simp] theorem run_nil (e : Engine H) : e.run [] = e := rfl

@[simp] theorem run_cons (e : Engine H) (op : Op H) (ops : List (Op H)) :
    e.run (op :: ops) = (e.perform op).run ops := rfl

theorem run_append (e : Engine H) (ops more : List (Op H)) :
    e.run (ops ++ more) = (e.run ops).run more :=
  List.foldl_append

/-- What every operation of some kind keeps is kept by a run of such operations. -/
theorem run_keeps {A : Type} {part : Engine H → A} {Kind : Op H → Prop}
    (h : ∀ e op, Kind op → part (e.perform op) = part e) (e : Engine H) {ops : List (Op H)}
    (hops : ∀ op ∈ ops, Kind op) : part (e.run ops) = part e := by
  induction ops generalizing e with
  | nil => rfl
  | cons op ops ih =>
      obtain ⟨hop, hops⟩ := List.forall_mem_cons.mp hops
      rw [run_cons, ih _ hops, h e op hop]

/-- The states of engines: a new one, and all that operations make of it. -/
inductive Reachable : Engine H → Prop where
  | new (host : H) : Reachable (new host)
  | perform {e : Engine H} (op : Op H) : Reachable e → Reachable (e.perform op)

theorem Reachable.run {e : Engine H} (he : e.Reachable) (ops : List (Op H)) :
    (e.run ops).Reachable := by
  induction ops generalizing e with
  | nil => exact he
  | cons op ops ih => exact ih (he.perform op)

/-! ## Taking steps -/

def take (e : Engine H) : Step → Engine H
  | .arrive node event => e.runDue node event
  | .dispatch d origin => e.dispatch d origin
  | .bind index d event => e.bind index d event

/-- Takes steps in order. -/
def takeAll (e : Engine H) (steps : List Step) : Engine H := steps.foldl take e

@[simp] theorem takeAll_nil (e : Engine H) : e.takeAll [] = e := rfl

@[simp] theorem takeAll_cons (e : Engine H) (s : Step) (steps : List Step) :
    e.takeAll (s :: steps) = (e.take s).takeAll steps := rfl

theorem takeAll_append (e : Engine H) (steps more : List Step) :
    e.takeAll (steps ++ more) = (e.takeAll steps).takeAll more :=
  List.foldl_append

/-- The diagnostics that a step adds. -/
def stepProblems (e : Engine H) : Step → List Diagnostic
  | .dispatch d origin => e.problems d origin
  | _ => []

/-- A step touches the page, the bindings, what is waiting and the diagnostics, and nothing else. -/
theorem exists_take_eq (e : Engine H) (s : Step) :
    ∃ host bindings waiting diagnostics,
      e.take s = { e with host, bindings, waiting, diagnostics } := by
  cases s with
  | arrive node event => exact ⟨_, _, _, _, rfl⟩
  | dispatch d origin => exact ⟨_, _, _, _, dispatch_eq e d origin⟩
  | bind index d event => exact ⟨_, _, _, _, rfl⟩

@[simp] theorem take_directives (e : Engine H) (s : Step) :
    (e.take s).directives = e.directives := by
  obtain ⟨_, _, _, _, htake⟩ := e.exists_take_eq s
  rw [htake]

@[simp] theorem take_grammar (e : Engine H) (s : Step) : (e.take s).grammar = e.grammar := by
  obtain ⟨_, _, _, _, htake⟩ := e.exists_take_eq s
  rw [htake]

@[simp] theorem take_registry (e : Engine H) (s : Step) : (e.take s).registry = e.registry := by
  obtain ⟨_, _, _, _, htake⟩ := e.exists_take_eq s
  rw [htake]

@[simp] theorem take_bindings (e : Engine H) (s : Step) :
    (e.take s).bindings = e.bindings ++ s.bindings := by
  cases s with
  | arrive node event => simp [take, runDue, Step.bindings]
  | dispatch d origin => simp [take, dispatch_eq, Step.bindings]
  | bind index d event => rfl

/-- What every step keeps is kept by all the steps together. -/
theorem takeAll_keeps {A : Type} {part : Engine H → A} (h : ∀ e s, part (e.take s) = part e)
    (e : Engine H) (steps : List Step) : part (e.takeAll steps) = part e := by
  induction steps generalizing e with
  | nil => rfl
  | cons s steps ih => rw [takeAll_cons, ih, h]

@[simp] theorem takeAll_directives (e : Engine H) (steps : List Step) :
    (e.takeAll steps).directives = e.directives :=
  takeAll_keeps take_directives e steps

@[simp] theorem takeAll_grammar (e : Engine H) (steps : List Step) :
    (e.takeAll steps).grammar = e.grammar :=
  takeAll_keeps take_grammar e steps

@[simp] theorem takeAll_registry (e : Engine H) (steps : List Step) :
    (e.takeAll steps).registry = e.registry :=
  takeAll_keeps take_registry e steps

@[simp] theorem takeAll_bindings (e : Engine H) (steps : List Step) :
    (e.takeAll steps).bindings = e.bindings ++ steps.flatMap Step.bindings := by
  induction steps generalizing e with
  | nil => simp
  | cons s steps ih => rw [takeAll_cons, ih, take_bindings, List.flatMap_cons, List.append_assoc]

/-! ## The steps of a reading -/

/-- What lines are read as on the page as it is. -/
def readings (e : Engine H) (lines : List String) : List Reading :=
  lines.map (Reading.ofLine e.grammar e.host)

/-- The directives among lines. -/
def newDirectives (e : Engine H) (lines : List String) : List Directive :=
  (e.readings lines).filterMap Reading.directive?

theorem mem_newDirectives_iff {e : Engine H} {lines : List String} {d : Directive} :
    d ∈ e.newDirectives lines ↔
      ∃ line ∈ lines, Reading.ofLine e.grammar e.host line = .directive d := by
  simp only [newDirectives, readings, List.mem_filterMap, List.mem_map,
    Reading.directive?_eq_some_iff]
  constructor
  · rintro ⟨r, ⟨line, hline, rfl⟩, hr⟩
    exact ⟨line, hline, hr⟩
  · rintro ⟨line, hline, hr⟩
    exact ⟨_, ⟨line, hline, rfl⟩, hr⟩

/-- The first phase of a reading: directives and diagnostics are taken in. -/
def takeIn (e : Engine H) (lines : List String) : Engine H :=
  { e with
    directives := e.directives ++ e.newDirectives lines
    diagnostics := e.diagnostics ++ (e.readings lines).filterMap Reading.problem? }

/-- The second phase of a reading: new directives, numbered from `index`, take effect. -/
def firstSteps (index : Nat) (ds : List Directive) : List Step :=
  (ds.zipIdx index).map fun (d, i) => d.firstStep i

/-- In its step, a new directive is bound if it waits for an event and runs if it does not. -/
theorem step_of_mem_firstSteps {index : Nat} {ds : List Directive} {s : Step}
    (hs : s ∈ firstSteps index ds) :
    (∃ d ∈ ds, d.isEventBound = false ∧ s = .dispatch d d.bound) ∨
      ∃ d ∈ ds, ∃ i event, d.trigger = .event event ∧ s = .bind i d event := by
  obtain ⟨⟨d, i⟩, hd, rfl⟩ := List.mem_map.mp hs
  have hmem : d ∈ ds := List.fst_mem_of_mem_zipIdx hd
  cases htrigger : d.trigger with
  | event event =>
      refine Or.inr ⟨d, hmem, i, event, htrigger, ?_⟩
      simp only [Directive.firstStep, htrigger]
  | load =>
      refine Or.inl ⟨d, hmem, ?_, ?_⟩
      · simp only [Directive.isEventBound, htrigger]
      · simp only [Directive.firstStep, htrigger]
  | predicate =>
      refine Or.inl ⟨d, hmem, ?_, ?_⟩
      · simp only [Directive.isEventBound, htrigger]
      · simp only [Directive.firstStep, htrigger]

theorem observe_eq_take (e : Engine H) (index : Nat) (d : Directive) :
    e.observe index d = e.take (d.firstStep index) := by
  unfold observe Directive.firstStep
  cases d.trigger with
  | event name => rfl
  | load => rfl
  | predicate => rfl

theorem observeAll_eq_takeAll (e : Engine H) (index : Nat) (ds : List Directive) :
    e.observeAll index ds = e.takeAll (firstSteps index ds) := by
  induction ds generalizing e index with
  | nil => rfl
  | cons d ds ih => rw [observeAll, ih, observe_eq_take]; rfl

theorem readLines_eq (e : Engine H) (lines : List String) :
    e.readLines lines = ((e.takeIn lines).takeAll
        (firstSteps e.directives.length (e.newDirectives lines)),
      (e.newDirectives lines).length) := by
  unfold readLines
  simp only [observeAll_eq_takeAll]
  rfl

/-! ## The steps of an event -/

theorem dispatchAll_eq (e : Engine H) (node : NodeId) (indices : List Nat) :
    e.dispatchAll node indices =
      (e.takeAll (indices.filterMap fun index =>
          e.directives[index]?.map fun d => .dispatch d [node]),
        indices.filterMap fun index => e.directives[index]?.map fun _ => ⟨node, index⟩) := by
  induction indices generalizing e with
  | nil => rfl
  | cons index indices ih =>
      cases hd : e.directives[index]? with
      | none => simp [dispatchAll, hd, ih]
      | some d =>
          -- the dispatch leaves the directives alone, so the later numbers mean the same
          have hsame : (e.dispatch d [node]).directives = e.directives :=
            e.take_directives (.dispatch d [node])
          simp [dispatchAll, hd, ih, hsame, take]

theorem visit_eq (e : Engine H) (event : String) (node : NodeId) :
    e.visit event node = (e.takeAll (e.visitSteps event node), e.visitFirings event node) := by
  unfold visit
  rw [dispatchAll_eq]
  rfl

/-- **The steps of an event are settled when it happens**: what runs on the way up changes none
of those that are still to come. -/
theorem visitAll_eq (e : Engine H) (event : String) (path : List NodeId) :
    e.visitAll event path =
      (e.takeAll (path.flatMap (e.visitSteps event)), path.flatMap (e.visitFirings event)) := by
  induction path generalizing e with
  | nil => rfl
  | cons node path ih =>
      -- what runs at this node leaves alone all that tells what runs further up
      have hd : (e.takeAll (e.visitSteps event node)).directives = e.directives :=
        takeAll_directives e _
      have hb : (e.takeAll (e.visitSteps event node)).bindings = e.bindings := by
        rw [takeAll_bindings, flatMap_bindings_visitSteps, List.append_nil]
      simp only [visitAll, visit_eq, ih, List.flatMap_cons, takeAll_append,
        visitSteps_congr hd hb, visitFirings_congr hd hb]

/-! ## The steps of an operation -/

/-- What an operation does before its first step. Most operations are no more than that. -/
def prepare (e : Engine H) : Op H → Engine H
  | .readSource source => e.takeIn (sourceLines [source])
  | .readScripts => e.takeIn (sourceLines (e.scriptTypes.flatMap (Host.scriptBlocks e.host)))
  | .fire _ _ => e
  | op => e.perform op

/-- The steps of an operation. -/
def steps (e : Engine H) : Op H → List Step
  | .readSource source =>
    firstSteps e.directives.length (e.newDirectives (sourceLines [source]))
  | .readScripts =>
    firstSteps e.directives.length
      (e.newDirectives (sourceLines (e.scriptTypes.flatMap (Host.scriptBlocks e.host))))
  | .fire node event => (Host.lineage e.host node).flatMap (e.visitSteps event)
  | _ => []

theorem fire_eq (e : Engine H) (node : NodeId) (event : String) :
    e.fire node event = (e.takeAll (e.steps (.fire node event)),
      (Host.lineage e.host node).flatMap (e.visitFirings event)) :=
  visitAll_eq e event (Host.lineage e.host node)

/-- **An operation is its steps**, taken in order after what it prepares. -/
theorem perform_eq (e : Engine H) (op : Op H) :
    e.perform op = (e.prepare op).takeAll (e.steps op) := by
  cases op with
  | readSource source => rw [perform, readSource, readLines_eq]; rfl
  | readScripts => rw [perform, readScripts, readLines_eq]; rfl
  | fire node event => rw [perform, fire_eq]; rfl
  | _ => rfl

end Engine

end PageDirectives
