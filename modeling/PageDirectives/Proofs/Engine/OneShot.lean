import Mathlib.Data.List.Basic
import PageDirectives.Proofs.Engine.History
import PageDirectives.Sketch.Basic

set_option autoImplicit false

/-! # One-shot listeners

The actions of a directive leave one-shot listeners behind, and an event that arrives at their
node runs them. Which listeners wait at a moment of a run is told by the moments before it
(`pending`): those that were registered and that nothing has woken since. So no listener is lost,
none runs twice, and each of them runs at the first moment that wakes it.
-/

namespace PageDirectives

/-- Whether a step wakes a listener: an event that it waits for arrives at its node. -/
def Step.wakes {H : Type} (s : Step) (l : OneShot H) : Bool :=
  match s with
  | arrive node event => l.isDue node event
  | _ => false

namespace Moment

variable {H : Type}

/-- The listeners that run, in order. -/
def ran (m : Moment H) : List (OneShot H) := m.engine.waiting.filter m.step.wakes

/-- The listeners that are registered, in order. -/
def registered (m : Moment H) : List (OneShot H) :=
  match m.step with
  | .dispatch d origin => m.engine.leftBehind d origin
  | _ => []

variable [Host H]

/-- **What a step does to the listeners**: those it wakes go, and those it registers are put
after the others. -/
theorem waiting_after (m : Moment H) :
    m.after.waiting = m.engine.waiting.filter (!m.step.wakes ·) ++ m.registered := by
  rcases m with ⟨e, s⟩
  cases s with
  | arrive node event => simp [after, Engine.take, Engine.runDue, registered, Step.wakes]
  | dispatch d origin =>
      simp [after, Engine.take, Engine.dispatch_eq, registered, Step.wakes]
  | bind index d event => simp [after, Engine.take, Engine.bind, registered, Step.wakes]

/-- The listeners that an event wakes are those whose effects the page sees, in order. -/
theorem host_after {m : Moment H} {node : NodeId} {event : String}
    (hm : m.step = .arrive node event) :
    m.after.host = m.ran.foldl (fun h l => l.effect h) m.engine.host := by
  simp only [after, ran, hm]
  rfl

end Moment

/-! ## The steps that wake a listener -/

namespace Engine

variable {H : Type}

/-- Of the steps of an event, those wake a listener in which the event arrives at its node. -/
theorem exists_wakes_iff (e : Engine H) (event : String) (path : List NodeId) (l : OneShot H) :
    (∃ s ∈ path.flatMap (e.visitSteps event), s.wakes l) ↔
      l.node ∈ path ∧ event ∈ l.events := by
  constructor
  · rintro ⟨s, hs, hwake⟩
    obtain ⟨node, hnode, hs⟩ := List.mem_flatMap.mp hs
    rcases List.mem_cons.mp hs with rfl | hs
    · obtain ⟨rfl, hevent⟩ : l.node = node ∧ event ∈ l.events := by
        simpa [Step.wakes, OneShot.isDue] using hwake
      exact ⟨hnode, hevent⟩
    · obtain ⟨d, rfl⟩ := exists_of_mem_tail_visitSteps hs
      cases hwake
  · rintro ⟨hnode, hevent⟩
    refine ⟨.arrive l.node event, List.mem_flatMap.mpr ⟨l.node, hnode, List.mem_cons_self⟩, ?_⟩
    simpa [Step.wakes, OneShot.isDue] using hevent

/-- Once a directive has run at a node, the event does not arrive there again. -/
theorem not_wakes_of_dispatched {e : Engine H} {event : String} {node : NodeId} {d : Directive}
    {origin : List NodeId} {before rest : List Step}
    (h : e.visitSteps event node = before ++ .dispatch d origin :: rest) {s : Step}
    (hs : s ∈ rest) (l : OneShot H) : ¬ s.wakes l := by
  cases before with
  | nil => cases h
  | cons _ before =>
      -- the first step is the arrival, so all of this comes after it
      have hmem : s ∈ (e.visitSteps event node).tail := by
        rw [h, List.cons_append, List.tail_cons]
        exact List.mem_append_right _ (List.mem_cons_of_mem _ hs)
      obtain ⟨d', rfl⟩ := exists_of_mem_tail_visitSteps hmem
      simp [Step.wakes]

end Engine

/-! ## What becomes of listeners -/

section Pending

variable {H : Type}

/-- The listeners that moments leave waiting: those that are registered at one of them and that
none of the later ones wakes. -/
def pending : List (Moment H) → List (OneShot H)
  | [] => []
  | m :: later => m.registered.filter (fun l => !later.any (·.step.wakes l)) ++ pending later

/-- Listeners wait in the order in which they were registered. -/
theorem pending_sublist (ms : List (Moment H)) :
    (pending ms).Sublist (ms.flatMap Moment.registered) := by
  induction ms with
  | nil => exact List.Sublist.refl []
  | cons m ms ih =>
      rw [pending, List.flatMap_cons]
      exact List.filter_sublist.append ih

variable [Host H]

/-- Moments that follow one another, from the listeners that wait before the first of them to
those that wait after the last. -/
inductive Follows : List (OneShot H) → List (Moment H) → List (OneShot H) → Prop where
  | nil (waiting : List (OneShot H)) : Follows waiting [] waiting
  | cons (m : Moment H) {ms : List (Moment H)} {waiting : List (OneShot H)} :
    Follows m.after.waiting ms waiting → Follows m.engine.waiting (m :: ms) waiting

namespace Follows

open scoped List

variable {first last : List (OneShot H)} {ms : List (Moment H)}

theorem append {middle : List (OneShot H)} {later : List (Moment H)}
    (h : Follows first ms middle) (h' : Follows middle later last) :
    Follows first (ms ++ later) last := by
  induction h with
  | nil waiting => exact h'
  | cons m _ ih => exact .cons m (ih h')

/-- At a moment inside, the listeners wait that the moments before it have led to. -/
theorem before {m : Moment H} {past later : List (Moment H)}
    (h : Follows first (past ++ m :: later) last) : Follows first past m.engine.waiting := by
  -- the moments of the past are taken off the front, one by one
  induction past generalizing first with
  | nil =>
      cases h with
      | cons _ _ => exact .nil _
  | cons k past ih =>
      cases h with
      | cons _ h => exact .cons k (ih h)

/-- **The listeners that wait at the end** are those of the beginning that nothing has woken,
and then those that the moments leave waiting. -/
theorem eq_pending (h : Follows first ms last) :
    last = first.filter (fun l => !ms.any (·.step.wakes l)) ++ pending ms := by
  induction h with
  | nil waiting => simp [pending]
  | @cons m ms waiting _ ih =>
      -- what waits after the first moment is what it leaves and what it registers
      rw [ih, m.waiting_after, List.filter_append, List.filter_filter, pending,
        List.append_assoc]
      congr 2
      funext l
      simp [Bool.and_comm]

/-- **Listeners are neither lost nor run twice**: those there were and those that were registered
are those that ran and those that wait. -/
theorem perm (h : Follows first ms last) :
    (first ++ ms.flatMap Moment.registered).Perm (ms.flatMap Moment.ran ++ last) := by
  induction h with
  | nil waiting => simp
  | @cons m ms waiting _ ih =>
      -- the first moment splits what waits into what runs and what goes on waiting
      have hsplit : (m.engine.waiting).Perm
          (m.ran ++ m.engine.waiting.filter (!m.step.wakes ·)) :=
        (List.filter_append_perm _ _).symm
      rw [List.flatMap_cons, List.flatMap_cons, List.append_assoc]
      calc m.engine.waiting ++ (m.registered ++ ms.flatMap Moment.registered)
          _ ~ m.ran ++ m.engine.waiting.filter (!m.step.wakes ·)
                ++ (m.registered ++ ms.flatMap Moment.registered) := hsplit.append_right _
          _ = m.ran ++ (m.after.waiting ++ ms.flatMap Moment.registered) := by
            rw [m.waiting_after, List.append_assoc, List.append_assoc]
          _ ~ m.ran ++ (ms.flatMap Moment.ran ++ waiting) := ih.append_left _

/-- A listener that waits runs as soon as a moment wakes it. -/
theorem exists_ran (h : Follows first ms last) {l : OneShot H} (hl : l ∈ first)
    (hwake : ∃ m ∈ ms, m.step.wakes l) : ∃ m ∈ ms, l ∈ m.ran := by
  induction h with
  | nil waiting =>
      obtain ⟨m, hm, -⟩ := hwake
      cases hm
  | @cons m ms waiting _ ih =>
      by_cases hnow : m.step.wakes l
      · exact ⟨m, List.mem_cons_self, List.mem_filter.mpr ⟨hl, hnow⟩⟩
      · obtain ⟨k, hk, hkl⟩ := hwake
        have hlater : k ∈ ms := by
          rcases List.mem_cons.mp hk with rfl | hk
          · exact absurd hkl hnow
          · exact hk
        -- not woken now, so it is still there for the moments that follow
        have hwaits : l ∈ m.after.waiting := by
          rw [m.waiting_after]
          exact List.mem_append_left _ (List.mem_filter.mpr ⟨hl, by simp [hnow]⟩)
        obtain ⟨k, hk, hran⟩ := ih hwaits ⟨k, hlater, hkl⟩
        exact ⟨k, List.mem_cons_of_mem _ hk, hran⟩

end Follows

/-- What has become of the listeners of a run that has got to the point where `waiting` are
waiting. -/
structure Settled (past : List (Moment H)) (waiting : List (OneShot H)) : Prop where
  /-- Those that wait are those that nothing has woken since they were registered. -/
  waiting_eq : waiting = pending past
  /-- They wait in the order in which they were registered. -/
  ordered : waiting.Sublist (past.flatMap Moment.registered)
  /-- Every listener that was registered has run or waits, and no more than one of both. -/
  perm : (past.flatMap Moment.registered).Perm (past.flatMap Moment.ran ++ waiting)

theorem Follows.settled {ms : List (Moment H)} {last : List (OneShot H)}
    (h : Follows [] ms last) : Settled ms last := by
  have heq : last = pending ms := h.eq_pending
  exact ⟨heq, heq ▸ pending_sublist ms, h.perm⟩

end Pending

namespace Engine

variable {H : Type} [Host H]

theorem exists_wakes_moments_iff (e : Engine H) (steps : List Step) (l : OneShot H) :
    (∃ m ∈ e.moments steps, m.step.wakes l) ↔ ∃ s ∈ steps, s.wakes l := by
  rw [← List.any_eq_true, ← List.any_eq_true, ← e.map_step_moments steps, List.any_map,
    map_step_moments]
  rfl

theorem follows_moments (e : Engine H) (steps : List Step) :
    Follows e.waiting (e.moments steps) (e.takeAll steps).waiting := by
  induction steps generalizing e with
  | nil => exact .nil _
  | cons s steps ih => exact .cons ⟨e, s⟩ (ih (e.take s))

theorem waiting_prepare (e : Engine H) (op : Op H) : (e.prepare op).waiting = e.waiting := by
  cases op <;> rfl

theorem follows_history (e : Engine H) (ops : List (Op H)) :
    Follows e.waiting (e.history ops) (e.run ops).waiting := by
  induction ops generalizing e with
  | nil => exact .nil _
  | cons op ops ih =>
      have hfirst := (e.prepare op).follows_moments (e.steps op)
      rw [e.waiting_prepare op, ← e.perform_eq op] at hfirst
      exact hfirst.append (ih (e.perform op))

/-! ## Listeners that are registered while an event bubbles -/

/-- **Within the same event**: a listener that a directive registers runs before the event has
passed if and only if its node is still to come on the path and it waits for the event. -/
theorem exists_ran_iff {e : Engine H} {event : String} {node : NodeId} {d : Directive}
    {origin : List NodeId} {before rest : List Step}
    (h : e.visitSteps event node = before ++ .dispatch d origin :: rest) (upper : List NodeId)
    (m : Moment H) {l : OneShot H} (hl : l ∈ m.registered) :
    (∃ k ∈ m.after.moments (rest ++ upper.flatMap (e.visitSteps event)), l ∈ k.ran) ↔
      l.node ∈ upper ∧ event ∈ l.events := by
  rw [← e.exists_wakes_iff event upper l]
  constructor
  · rintro ⟨k, hk, hran⟩
    have hwake : k.step.wakes l := (List.mem_filter.mp hran).2
    obtain ⟨s, hs, hwake⟩ := (m.after.exists_wakes_moments_iff _ l).mp ⟨k, hk, hwake⟩
    rcases List.mem_append.mp hs with hs | hs
    -- what is left to do at the node wakes nothing, so it happens further up
    · exact absurd hwake (not_wakes_of_dispatched h hs l)
    · exact ⟨s, hs, hwake⟩
  · rintro ⟨s, hs, hwake⟩
    have hwaits : l ∈ m.after.waiting := by
      rw [m.waiting_after]
      exact List.mem_append_right _ hl
    refine (m.after.follows_moments _).exists_ran hwaits
      ((m.after.exists_wakes_moments_iff _ l).mpr ?_)
    exact ⟨s, List.mem_append_right _ hs, hwake⟩

/-- The moment at which an event runs a directive at a node, among those of the event. -/
theorem history_fire_split {e : Engine H} {event : String} {node p : NodeId} {d : Directive}
    {lower upper : List NodeId} {before rest : List Step}
    (hpath : Host.lineage e.host node = lower ++ p :: upper)
    (h : e.visitSteps event p = before ++ .dispatch d [p] :: rest) :
    ∃ m : Moment H, m.step = .dispatch d [p] ∧ e.history [.fire node event]
      = e.moments (lower.flatMap (e.visitSteps event) ++ before)
        ++ m :: m.after.moments (rest ++ upper.flatMap (e.visitSteps event)) := by
  refine ⟨⟨e.takeAll (lower.flatMap (e.visitSteps event) ++ before), .dispatch d [p]⟩, rfl, ?_⟩
  have hsteps : (Host.lineage e.host node).flatMap (e.visitSteps event)
      = (lower.flatMap (e.visitSteps event) ++ before)
        ++ .dispatch d [p] :: (rest ++ upper.flatMap (e.visitSteps event)) := by
    rw [hpath, List.flatMap_append, List.flatMap_cons, h]
    simp only [List.append_assoc, List.cons_append]
  rw [history_fire, hsteps, moments_append]
  rfl

/-- **No one-shot listener is lost or runs twice.** At every moment of a run, and at its end, the
listeners that were registered are those that have run and those that wait, and those wait that
nothing has woken since they were registered. At a moment that wakes some of the waiting ones,
these run, in the order of their registration, and are gone. Such a moment is the arrival of an
event that happens in the run, and the event arrives at each node of its path before the
directives that are bound there run. Of the listeners that such a directive registers, the event
itself wakes those whose node is still to come. -/
theorem oneShots_of_run (host : H) (ops : List (Op H)) :
    Settled ((new host).history ops) ((new host).run ops).waiting ∧
    (∀ past m later, (new host).history ops = past ++ m :: later →
      Settled past m.engine.waiting ∧ m.ran = (pending past).filter m.step.wakes ∧
      ∀ n event, m.step = .arrive n event →
        m.after.host = m.ran.foldl (fun h l => l.effect h) m.engine.host ∧
        ∃ before node rest, ops = before ++ .fire node event :: rest ∧
          n ∈ Host.lineage ((new host).run before).host node) ∧
    ∀ node event, let e := (new host).run ops
      (new host).history (ops ++ [.fire node event]) = (new host).history ops ++
        e.moments ((Host.lineage e.host node).flatMap fun n => .arrive n event ::
          (e.boundTo n event).filterMap fun index =>
            e.directives[index]?.map fun d => .dispatch d [n]) ∧
      ∀ lower p upper, Host.lineage e.host node = lower ++ p :: upper →
        ∀ before d rest, e.visitSteps event p = before ++ .dispatch d [p] :: rest →
          ∃ m later, m.step = .dispatch d [p] ∧ e.history [.fire node event]
              = e.moments (lower.flatMap (e.visitSteps event) ++ before) ++ m :: later ∧
            ∀ l ∈ m.registered,
              (∃ k ∈ later, l ∈ k.ran) ↔ l.node ∈ upper ∧ event ∈ l.events := by
  have hrun := (new host).follows_history ops
  refine ⟨hrun.settled, fun past m later heq => ?_, fun node event => ⟨?_, ?_⟩⟩
  · have hsettled := (heq ▸ hrun).before.settled
    have hmem : m ∈ (new host).history ops := by
      rw [heq]
      exact List.mem_append_right _ List.mem_cons_self
    refine ⟨hsettled, ?_, fun n event hm => ⟨m.host_after hm, ?_⟩⟩
    · rw [← hsettled.waiting_eq]
      rfl
    · exact exists_fire_of_mem_history hmem hm
  · rw [history_append, history_fire]
    rfl
  · intro lower p upper hpath before d rest h
    obtain ⟨m, hm, hsplit⟩ := history_fire_split hpath h
    exact ⟨m, _, hm, hsplit, fun l hl => exists_ran_iff h upper m hl⟩

/-- An entry of a list that animates the list and itself when a transition of its own ends: the
listener on the list runs as the event passes, the one on the entry waits for the next. -/
theorem oneShots_of_list :
    let host := (Sketch.empty.add "ul#m").addChild? "m" "li" |>.getD .empty
    let ops : List (Op Sketch) := [.enable (.animate "motion.css"),
      .readSource "li should animate a #m and animate b on transitionend",
      .fire 1 "transitionend"]
    let ms := (new host).history ops
    ((ms.flatMap Moment.registered).map OneShot.node, (ms.flatMap Moment.ran).map OneShot.node)
        = ([0, 1], [0]) ∧
      (pending ms).map OneShot.node = [1] := by
  intro host ops ms
  obtain ⟨hend, -, -⟩ := oneShots_of_run host ops
  have hwaiting : ((new host).run ops).waiting.map OneShot.node = [1] := by decide +kernel
  refine ⟨by decide +kernel, ?_⟩
  rw [← hend.waiting_eq]
  exact hwaiting

end Engine

end PageDirectives
