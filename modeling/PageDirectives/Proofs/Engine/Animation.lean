import PageDirectives.Proofs.Engine.Calls
import PageDirectives.Proofs.Engine.Orderly
import PageDirectives.Proofs.Engine.Registration
import PageDirectives.Proofs.Host.Removal

set_option autoImplicit false

/-! # Animations that end

To animate a node with a class is to give it the class and to leave a listener behind that takes the
class away at the first end event that arrives there (`Builtin.cleanup`). A class *pends* on a node
from the call on until an end event arrives there (`Pends`). In a run in which nothing else leaves
listeners behind (`OnlyAnimates`) the listeners that wait are those of the classes that pend
(`mem_pending_iff`), so the arrival of an end event takes all of these classes from its node and
nothing else from anywhere (`AnimationsEnd`), and it leaves no listener on the node.
-/

namespace PageDirectives

variable {H : Type} [Host H]

/-- The listener that is left on a node that is animated with a class. -/
def Builtin.cleanup (n : NodeId) (c : String) : OneShot H :=
  ⟨n, endEvents, fun h => Host.removeClass h n c⟩

open Builtin (cleanup)

/-! ## Calls that animate -/

/-- The call animates a node with a class. -/
def ActionCall.Animates (i : ActionCall H) (n : NodeId) (c : String) : Prop :=
  i.action = Builtin.animate ∧
    ∃ arg, i.call.args[0]? = some arg ∧ c = stripQuotes arg ∧ n ∈ i.call.target i.host 1

/-- The call leaves no listener behind. -/
def ActionCall.IsQuiet (i : ActionCall H) : Prop := i.left.waiting = []

namespace Builtin

theorem waiting_foldl (c : String) (nodes : List NodeId) (s : Scene H) :
    (nodes.foldl (fun s n => (s.change fun h => Host.addClass h n c).once n endEvents fun h =>
        Host.removeClass h n c) s).waiting = s.waiting ++ nodes.map (cleanup · c) := by
  induction nodes generalizing s with
  | nil => exact (List.append_nil _).symm
  | cons n nodes ih => rw [List.foldl_cons, ih, List.map_cons, List.append_cons]; rfl

/-- **A call of `animate`** leaves one listener behind for each node of its target. -/
theorem mem_waiting_animate {i : ActionCall H} (hi : i.action = animate) {l : OneShot H} :
    l ∈ i.left.waiting ↔ ∃ n c, i.Animates n c ∧ l = cleanup n c := by
  obtain ⟨action, call, h⟩ := i
  obtain rfl : action = animate := hi
  simp only [ActionCall.left, ActionCall.Animates, animate, Call.withArgument, argument]
  cases call.args[0]? with
  | none => simp
  | some arg =>
      simp only [waiting_foldl, List.nil_append, List.mem_map]
      constructor
      · rintro ⟨n, hn, rfl⟩
        exact ⟨n, _, ⟨trivial, arg, rfl, rfl, hn⟩, rfl⟩
      · rintro ⟨n, c, ⟨-, arg', harg, rfl, hn⟩, rfl⟩
        obtain rfl := Option.some.inj harg
        exact ⟨n, hn, rfl⟩

end Builtin

/-- At a moment a node is animated with a class. -/
def Moment.Animates (m : Moment H) (n : NodeId) (c : String) : Prop := ∃ i ∈ m.calls, i.Animates n c

/-- No call leaves a listener behind but those of `animate`. -/
def OnlyAnimates (ms : List (Moment H)) : Prop :=
  ∀ m ∈ ms, ∀ i ∈ m.calls, i.action = Builtin.animate ∨ i.IsQuiet

theorem Moment.mem_registered_iff {m : Moment H}
    (hm : ∀ i ∈ m.calls, i.action = Builtin.animate ∨ i.IsQuiet) {l : OneShot H} :
    l ∈ m.registered ↔ ∃ n c, m.Animates n c ∧ l = cleanup n c := by
  rw [m.registered_eq, List.mem_flatMap]
  constructor
  · rintro ⟨i, hi, hl⟩
    rcases hm i hi with hanimate | hquiet
    · obtain ⟨n, c, hnc, rfl⟩ := (Builtin.mem_waiting_animate hanimate).mp hl
      exact ⟨n, c, ⟨i, hi, hnc⟩, rfl⟩
    · rw [hquiet] at hl
      cases hl
  · rintro ⟨n, c, ⟨i, hi, hnc⟩, rfl⟩
    exact ⟨i, hi, (Builtin.mem_waiting_animate hnc.1).mpr ⟨n, c, hnc, rfl⟩⟩

/-- It can be read off a call that it animates, if nothing else leaves listeners behind. -/
theorem Moment.animates_of_any {m : Moment H} {n : NodeId} {c : String}
    (hm : ∀ i ∈ m.calls, i.action = Builtin.animate ∨ i.IsQuiet)
    (h : m.calls.any fun i => !i.left.waiting.isEmpty && i.call.args[0]?.any (stripQuotes · == c) &&
      (i.call.target i.host 1).contains n) : m.Animates n c := by
  obtain ⟨i, hi, h⟩ := List.any_eq_true.mp h
  simp only [Bool.and_eq_true, Bool.not_eq_true', List.contains_iff_mem] at h
  obtain ⟨⟨hleft, harg⟩, hn⟩ := h
  obtain ⟨arg, harg, hc⟩ := (Option.any_eq_true ..).mp harg
  refine ⟨i, hi, (hm i hi).resolve_right fun hquiet => ?_, arg, harg, (eq_of_beq hc).symm, hn⟩
  rw [hquiet] at hleft
  cases hleft

/-! ## Classes that pend -/

/-- An end event arrives at a node. -/
def Step.Ends (s : Step) (n : NodeId) : Prop := ∃ event ∈ endEvents, s = .arrive n event

theorem Step.wakes_cleanup_iff {s : Step} {n : NodeId} {c : String} :
    s.wakes (cleanup n c : OneShot H) ↔ s.Ends n := by
  cases s with
  | arrive k event =>
      simp only [wakes, OneShot.isDue, cleanup, Bool.and_eq_true, beq_iff_eq, List.contains_iff_mem,
        Ends, arrive.injEq]
      constructor
      · rintro ⟨rfl, hevent⟩
        exact ⟨event, hevent, rfl, rfl⟩
      · rintro ⟨_, hevent, rfl, rfl⟩
        exact ⟨rfl, hevent⟩
  | _ => simp [wakes, Ends]

/-- When an event arrives, nothing is called. -/
theorem not_animates_of_ends {m : Moment H} {n k : NodeId} {c : String} (hm : m.step.Ends n) :
    ¬ m.Animates k c := by
  obtain ⟨event, -, hm⟩ := hm
  rintro ⟨i, hi, -⟩
  rw [Moment.calls, hm] at hi
  cases hi

/-- A node has been animated with a class, and no end event has arrived there since. -/
def Pends (past : List (Moment H)) (n : NodeId) (c : String) : Prop :=
  ∃ before m after, past = before ++ m :: after ∧ m.Animates n c ∧ ∀ k ∈ after, ¬ k.step.Ends n

variable {past later : List (Moment H)} {m : Moment H} {n : NodeId} {c : String} {l : OneShot H}

theorem not_pends_nil : ¬ Pends ([] : List (Moment H)) n c := by
  rintro ⟨before, m, after, heq, -⟩
  simp at heq

theorem pends_cons_iff : Pends (m :: later) n c ↔
    (m.Animates n c ∧ ∀ k ∈ later, ¬ k.step.Ends n) ∨ Pends later n c := by
  constructor
  · rintro ⟨before, k, after, heq, hanimates, hafter⟩
    cases before with
    | nil =>
        obtain ⟨rfl, rfl⟩ := List.cons.inj heq
        exact Or.inl ⟨hanimates, hafter⟩
    | cons _ before =>
        obtain ⟨rfl, rfl⟩ := List.cons.inj heq
        exact Or.inr ⟨before, k, after, rfl, hanimates, hafter⟩
  · rintro (⟨hanimates, hlater⟩ | ⟨before, k, after, rfl, hanimates, hafter⟩)
    · exact ⟨[], m, later, rfl, hanimates, hlater⟩
    · exact ⟨m :: before, k, after, rfl, hanimates, hafter⟩

/-- A class goes on pending as long as no end event arrives. -/
theorem Pends.append (h : Pends past n c) (hlater : ∀ k ∈ later, ¬ k.step.Ends n) :
    Pends (past ++ later) n c := by
  obtain ⟨before, m, after, rfl, hanimates, hafter⟩ := h
  refine ⟨before, m, after ++ later, by simp, hanimates, ?_⟩
  exact List.forall_mem_append.mpr ⟨hafter, hlater⟩

/-- After an end event a class pends only if the node has been animated with it again. -/
theorem Pends.exists_animates (h : Pends (past ++ m :: later) n c) (hm : m.step.Ends n) :
    ∃ k ∈ later, k.Animates n c := by
  obtain ⟨before, k, after, heq, hanimates, hafter⟩ := h
  have hne : k ≠ m := by
    rintro rfl
    exact not_animates_of_ends hm hanimates
  rcases List.append_eq_append_iff.mp heq with ⟨front, -, heq⟩ | ⟨front, -, heq⟩
  · rcases List.cons_eq_append_iff.mp heq with ⟨-, heq⟩ | ⟨front', -, rfl⟩
    · exact absurd (List.cons.inj heq).1 hne
    · exact ⟨k, List.mem_append_right _ List.mem_cons_self, hanimates⟩
  · rcases List.cons_eq_append_iff.mp heq with ⟨-, heq⟩ | ⟨front', -, rfl⟩
    · exact absurd (List.cons.inj heq).1.symm hne
    · exact absurd hm (hafter m (List.mem_append_right _ List.mem_cons_self))

/-- **The listeners that wait** are those of the classes that pend. -/
theorem mem_pending_iff (hpast : OnlyAnimates past) :
    l ∈ pending past ↔ ∃ n c, Pends past n c ∧ l = cleanup n c := by
  induction past with
  | nil => simp [pending, not_pends_nil]
  | cons m later ih =>
      obtain ⟨hm, hlater⟩ := List.forall_mem_cons.mp hpast
      rw [pending, List.mem_append, List.mem_filter, ih hlater, Moment.mem_registered_iff hm]
      have hunwoken {n : NodeId} {c : String} :
          (!later.any (·.step.wakes (cleanup n c : OneShot H))) = true ↔
            ∀ k ∈ later, ¬ k.step.Ends n := by
        simp only [Bool.not_eq_true', List.any_eq_false, Step.wakes_cleanup_iff]
      constructor
      · rintro (⟨⟨n, c, hanimates, rfl⟩, hwoken⟩ | ⟨n, c, hpends, rfl⟩)
        · exact ⟨n, c, pends_cons_iff.mpr (Or.inl ⟨hanimates, hunwoken.mp hwoken⟩), rfl⟩
        · exact ⟨n, c, pends_cons_iff.mpr (Or.inr hpends), rfl⟩
      · rintro ⟨n, c, hpends, rfl⟩
        rcases pends_cons_iff.mp hpends with ⟨hanimates, hends⟩ | hpends
        · exact Or.inl ⟨⟨n, c, hanimates, rfl⟩, hunwoken.mpr hends⟩
        · exact Or.inr ⟨n, c, hpends, rfl⟩

/-! ## The end of animations -/

/-- What becomes of the page and of the listeners when an end event arrives at a node. -/
structure AnimationsEnd (past : List (Moment H)) (m : Moment H) (n : NodeId) : Prop where
  /-- The classes that pend on the node are gone. -/
  gone : ∀ c, Pends past n c → Host.hasClass m.after.host n c = false
  /-- All other classes, of the node and of others, are as they were. -/
  kept : ∀ k c, ¬ (k = n ∧ Pends past n c) →
    Host.hasClass m.after.host k c = Host.hasClass m.engine.host k c
  /-- No listener waits on the node any more, and all others do, in order. -/
  waiting : m.after.waiting = m.engine.waiting.filter (·.node != n)
  /-- Where nothing pends, nothing happens to the page. -/
  idle : (∀ c, ¬ Pends past n c) → m.after.host = m.engine.host

namespace Host.RemovesClasses

variable {Sound : H → Prop} {h : H} {ls : List (OneShot H)} {k : NodeId}

theorem hasClass_foldl_of_ne (laws : RemovesClasses Sound) (hh : Sound h)
    (hls : ∀ l ∈ ls, ∃ n c', l = cleanup n c' ∧ ¬ (k = n ∧ c = c')) :
    hasClass (ls.foldl (fun h l => l.effect h) h) k c = hasClass h k c := by
  induction ls generalizing h with
  | nil => rfl
  | cons l ls ih =>
      obtain ⟨⟨n, c', rfl, hne⟩, hrest⟩ := List.forall_mem_cons.mp hls
      exact (ih (laws.sound hh n c') hrest).trans (laws.other hh hne)

/-- A class that is not there does not come back. -/
theorem hasClass_foldl_of_false (laws : RemovesClasses Sound) (hh : Sound h)
    (hls : ∀ l ∈ ls, ∃ n c', l = cleanup n c') (hfalse : hasClass h k c = false) :
    hasClass (ls.foldl (fun h l => l.effect h) h) k c = false := by
  induction ls generalizing h with
  | nil => exact hfalse
  | cons l ls ih =>
      obtain ⟨⟨n, c', rfl⟩, hrest⟩ := List.forall_mem_cons.mp hls
      refine ih (laws.sound hh n c') hrest ?_
      by_cases hsame : k = n ∧ c = c'
      · obtain ⟨rfl, rfl⟩ := hsame
        exact laws.self hh k c
      · exact (laws.other hh hsame).trans hfalse

theorem hasClass_foldl_of_mem (laws : RemovesClasses Sound) (hh : Sound h)
    (hls : ∀ l ∈ ls, ∃ n c', l = cleanup n c') (hmem : cleanup n c ∈ ls) :
    hasClass (ls.foldl (fun h l => l.effect h) h) n c = false := by
  induction ls generalizing h with
  | nil => cases hmem
  | cons l ls ih =>
      obtain ⟨⟨k, c', hl⟩, hrest⟩ := List.forall_mem_cons.mp hls
      rcases List.mem_cons.mp hmem with rfl | hmem
      · show hasClass (ls.foldl _ (removeClass h n c)) n c = false
        exact laws.hasClass_foldl_of_false (laws.sound hh n c) hrest (laws.self hh n c)
      · rw [hl]
        exact ih (laws.sound hh k c') hrest hmem

end Host.RemovesClasses

/-- **The arrival of an end event** at a node takes away the classes that pend there, and nothing
else. -/
theorem animationsEnd {Sound : H → Prop} (laws : Host.RemovesClasses Sound)
    (hsettled : Settled past m.engine.waiting) (hpast : OnlyAnimates past)
    (hsound : Sound m.engine.host) (hm : m.step.Ends n) : AnimationsEnd past m n := by
  have hwaits {l : OneShot H} : l ∈ m.engine.waiting ↔ ∃ n c, Pends past n c ∧ l = cleanup n c := by
    rw [hsettled.waiting_eq]
    exact mem_pending_iff hpast
  obtain ⟨event, hevent, harrive⟩ := hm
  have hends {k : NodeId} : m.step.Ends k ↔ k = n := by
    rw [harrive]
    constructor
    · rintro ⟨_, -, heq⟩
      exact (Step.arrive.inj heq).1.symm
    · rintro rfl
      exact ⟨event, hevent, rfl⟩
  -- of the listeners that wait, those run whose node is the one where the event arrives
  have hwakes {l : OneShot H} (hl : l ∈ m.engine.waiting) : m.step.wakes l ↔ l.node = n := by
    obtain ⟨k, c, -, rfl⟩ := hwaits.mp hl
    rw [Step.wakes_cleanup_iff, hends]
    rfl
  have hran {l : OneShot H} (hl : l ∈ m.ran) : ∃ c, Pends past n c ∧ l = cleanup n c := by
    obtain ⟨hl, hwoken⟩ := List.mem_filter.mp hl
    have hnode := (hwakes hl).mp hwoken
    obtain ⟨k, c, hpends, rfl⟩ := hwaits.mp hl
    obtain rfl : k = n := hnode
    exact ⟨c, hpends, rfl⟩
  have hcleanups : ∀ l ∈ m.ran, ∃ n c, l = cleanup n c := fun l hl =>
    (hran hl).elim fun c hc => ⟨n, c, hc.2⟩
  have hhost := m.host_after harrive
  constructor
  case gone =>
    intro c hc
    have hl : cleanup n c ∈ m.engine.waiting := hwaits.mpr ⟨n, c, hc, rfl⟩
    rw [hhost]
    exact laws.hasClass_foldl_of_mem hsound hcleanups
      (List.mem_filter.mpr ⟨hl, (hwakes hl).mpr rfl⟩)
  case kept =>
    intro k c hne
    rw [hhost]
    refine laws.hasClass_foldl_of_ne hsound fun l hl => ?_
    obtain ⟨c', hpends, rfl⟩ := hran hl
    exact ⟨n, c', rfl, fun ⟨hk, hc⟩ => hne ⟨hk, hc ▸ hpends⟩⟩
  case waiting =>
    have hquiet : m.registered = [] := by rw [Moment.registered, harrive]
    rw [m.waiting_after, hquiet, List.append_nil]
    refine List.filter_congr fun l hl => ?_
    rw [Bool.eq_iff_iff, Bool.not_eq_true', Bool.eq_false_iff, Ne, hwakes hl, bne_iff_ne]
  case idle =>
    intro hnone
    have hnil : m.ran = [] := List.eq_nil_iff_forall_not_mem.mpr fun l hl =>
      (hran hl).elim fun c hc => hnone c hc.1
    rw [hhost, hnil]
    rfl

/-! ## Runs in which nothing else leaves listeners behind -/

/-- An action that leaves no listeners behind. -/
def Action.IsQuiet (action : Action H) : Prop := ∀ call h, (action call { host := h }).2.waiting = []

namespace Builtin

omit [Host H] in
theorem waiting_withArgument {call : Call} {position : Nat} {name : String} {s : Scene H}
    {next : String → Except ActionError Unit × Scene H} (hs : s.waiting = [])
    (hnext : ∀ arg, (next arg).2.waiting = []) :
    (call.withArgument position name s next).2.waiting = [] := by
  unfold Call.withArgument
  split
  · exact hs
  · exact hnext _

theorem waiting_fill (content : String) (nodes : List NodeId) (s : Scene H) :
    (fill content nodes s).2.waiting = s.waiting := by
  induction nodes generalizing s with
  | nil => rfl
  | cons node nodes ih =>
      rw [fill]
      split
      · rfl
      · exact ih _

theorem isQuiet_eachWithClass (f : H → NodeId → String → H) : Action.IsQuiet (eachWithClass f) :=
  fun _ _ => waiting_withArgument rfl fun _ => rfl

theorem isQuiet_load : Action.IsQuiet (load : Action H) := by
  intro call h
  refine waiting_withArgument rfl fun url => waiting_withArgument rfl fun _ => ?_
  simp only
  split
  · rfl
  · exact waiting_fill _ _ _

theorem isQuiet_of_mem_all {entry : String × Action H} (h : entry ∈ all) :
    Action.IsQuiet entry.2 := by
  simp only [all, List.mem_cons, List.not_mem_nil, or_false] at h
  rcases h with rfl | rfl | rfl | rfl | rfl | rfl | rfl | rfl
  · exact fun _ _ => rfl
  · exact fun _ _ => rfl
  · exact fun _ _ => rfl
  · exact isQuiet_eachWithClass _
  · exact isQuiet_eachWithClass _
  · exact isQuiet_eachWithClass _
  · exact fun _ _ => waiting_withArgument rfl fun _ => rfl
  · exact isQuiet_load

end Builtin

/-- No registered action leaves listeners behind but `animate`. -/
def Registry.OnlyAnimates (r : Registry H) : Prop :=
  ∀ name action, r.find? name = some action → action = Builtin.animate ∨ Action.IsQuiet action

theorem Registry.onlyAnimates_builtin : (builtin : Registry H).OnlyAnimates :=
  forall_registerAll (fun _ _ hfound => by cases hfound) fun _ hentry =>
    Or.inr (Builtin.isQuiet_of_mem_all hentry)

namespace Engine

/-- An operation by which no action comes into the registry that leaves listeners behind, but
`animate`. -/
def Op.OnlyAnimates : Op H → Prop
  | .register _ action => action = Builtin.animate ∨ Action.IsQuiet action
  | .enable x => ∀ entry ∈ x.actions, entry.2 = Builtin.animate ∨ Action.IsQuiet entry.2
  | .useRegistry r => r.OnlyAnimates
  | _ => True

theorem prepare_onlyAnimates {e : Engine H} (he : e.registry.OnlyAnimates) {op : Op H}
    (hop : op.OnlyAnimates) : (e.prepare op).registry.OnlyAnimates := by
  cases op with
  | register name action => exact Registry.forall_register he hop
  | enable x => exact Registry.forall_registerAll he hop
  | useRegistry r => exact hop
  | _ => exact he

theorem onlyAnimates_history {e : Engine H} (he : e.registry.OnlyAnimates) {ops : List (Op H)}
    (hops : ∀ op ∈ ops, op.OnlyAnimates) : OnlyAnimates (e.history ops) := by
  induction ops generalizing e with
  | nil => exact List.forall_mem_nil _
  | cons op ops ih =>
      obtain ⟨hop, hops⟩ := List.forall_mem_cons.mp hops
      have hprepared := prepare_onlyAnimates he hop
      have hafter : (e.perform op).registry.OnlyAnimates := by
        rwa [perform_eq, takeAll_registry]
      refine List.forall_mem_append.mpr ⟨fun m hm i hi => ?_, ih hafter hops⟩
      rw [← registry_of_mem_moments hm] at hprepared
      obtain ⟨name, hfound⟩ := Moment.find?_of_mem_calls hi
      exact (hprepared name i.action hfound).imp_right fun hquiet => hquiet i.call i.host

/-! ## Whole runs -/

/-- What becomes of animations in a run. -/
structure EndsAnimations (host : H) (ops : List (Op H)) : Prop where
  /-- At every moment the listeners wait that the pending classes have left. -/
  waiting : ∀ (past : List (Moment H)) (m : Moment H) (later : List (Moment H)),
    (new host).history ops = past ++ m :: later →
      ∀ l, l ∈ m.engine.waiting ↔ ∃ n c, Pends past n c ∧ l = cleanup n c
  /-- An end event that arrives at a node ends what pends there. -/
  arrival : ∀ (past : List (Moment H)) (m : Moment H) (later : List (Moment H)) (n : NodeId),
    (new host).history ops = past ++ m :: later → m.step.Ends n → AnimationsEnd past m n
  /-- Further end events do nothing until the node is animated again. -/
  again : ∀ (past between later : List (Moment H)) (m m' : Moment H) (n : NodeId),
    (new host).history ops = past ++ m :: (between ++ m' :: later) →
    m.step.Ends n → m'.step.Ends n → (∀ k ∈ between, ∀ c, ¬ k.Animates n c) →
      m'.after.host = m'.engine.host
  /-- An end event arrives at each node of its path after all that happens below, which leaves
  pending what pends, and before the directives run that are bound there. -/
  fire : ∀ (before rest : List (Op H)) (node : NodeId) (event : String) (lower : List NodeId)
    (n : NodeId) (upper : List NodeId), ops = before ++ .fire node event :: rest →
    event ∈ endEvents →
    Host.lineage ((new host).run before).host node = lower ++ n :: upper →
      let e := (new host).run before
      let past := (new host).history before
      ∃ below m above later,
        (new host).history ops = (past ++ below) ++ m :: (above ++ later) ∧
        below.map Moment.step = lower.flatMap (e.visitSteps event) ∧
        m.step = .arrive n event ∧
        above.map Moment.step
          = (e.visitSteps event n).tail ++ upper.flatMap (e.visitSteps event) ∧
        ∀ c, Pends past n c → Pends (past ++ below) n c

/-- Before an event arrives at a node of its path it arrives at other nodes only, as no node is passed
twice. -/
theorem not_ends_of_mem_below [LawfulHost H] {e : Engine H} {node n : NodeId} {event : String}
    {lower upper : List NodeId} (hpath : Host.lineage e.host node = lower ++ n :: upper)
    {k : Moment H} (hk : k ∈ e.moments (lower.flatMap (e.visitSteps event))) : ¬ k.step.Ends n := by
  rintro ⟨event', -, harrive⟩
  have hnodup : (lower ++ n :: upper).Nodup := hpath ▸ Host.nodup_lineage e.host node
  have hstep : k.step ∈ lower.flatMap (e.visitSteps event) := by
    rw [← e.map_step_moments (lower.flatMap (e.visitSteps event))]
    exact List.mem_map_of_mem hk
  obtain ⟨k', hk', hstep⟩ := List.mem_flatMap.mp hstep
  rw [harrive] at hstep
  rcases List.mem_cons.mp hstep with heq | hstep
  · obtain ⟨rfl, -⟩ := Step.arrive.inj heq
    exact (List.nodup_middle.mp hnodup).notMem (List.mem_append_left _ hk')
  · obtain ⟨d, heq⟩ := exists_of_mem_tail_visitSteps hstep
    cases heq

/-- **An event arrives at a node of its path** after all that happens below and before the directives
run that are bound there. -/
theorem exists_arrival_of_fire {e : Engine H} {node n : NodeId} {event : String}
    {lower upper : List NodeId} (hpath : Host.lineage e.host node = lower ++ n :: upper)
    (rest : List (Op H)) : ∃ m above later,
      e.history (.fire node event :: rest)
        = e.moments (lower.flatMap (e.visitSteps event)) ++ m :: (above ++ later) ∧
      m.step = .arrive n event ∧
      above.map Moment.step = (e.visitSteps event n).tail ++ upper.flatMap (e.visitSteps event) := by
  let m : Moment H := ⟨e.takeAll (lower.flatMap (e.visitSteps event)), .arrive n event⟩
  let steps := (e.visitSteps event n).tail ++ upper.flatMap (e.visitSteps event)
  have hfire : e.history [.fire node event]
      = e.moments (lower.flatMap (e.visitSteps event)) ++ m :: m.after.moments steps := by
    rw [history_fire, hpath, List.flatMap_append, List.flatMap_cons, moments_append]
    rfl
  have hsplit : e.history (.fire node event :: rest)
      = e.history [.fire node event] ++ (e.perform (.fire node event)).history rest :=
    e.history_append [.fire node event] rest
  refine ⟨m, m.after.moments steps, (e.perform (.fire node event)).history rest, ?_, rfl,
    map_step_moments _ _⟩
  rw [hsplit, hfire, List.append_assoc, List.cons_append]

/-- **Animations end in every run** in which nothing else leaves listeners behind. -/
theorem endsAnimations [LawfulHost H] {Sound : H → Prop} (laws : Host.RemovesClasses Sound)
    {host : H} {ops : List (Op H)}
    (hsound : ∀ m ∈ (new host).history ops, Sound m.engine.host)
    (honly : OnlyAnimates ((new host).history ops)) : EndsAnimations host ops := by
  have hsettled {past : List (Moment H)} {m : Moment H} {later : List (Moment H)}
      (heq : (new host).history ops = past ++ m :: later) : Settled past m.engine.waiting :=
    (heq ▸ (new host).follows_history ops).before.settled
  have hpast {past : List (Moment H)} {m : Moment H} {later : List (Moment H)}
      (heq : (new host).history ops = past ++ m :: later) : OnlyAnimates past :=
    fun k hk => honly k (heq ▸ List.mem_append_left _ hk)
  have harrival : ∀ past m later n, (new host).history ops = past ++ m :: later →
      m.step.Ends n → AnimationsEnd past m n := by
    intro past m later n heq hm
    have hmem : m ∈ (new host).history ops := heq ▸ List.mem_append_right _ List.mem_cons_self
    exact animationsEnd laws (hsettled heq) (hpast heq) (hsound m hmem) hm
  refine ⟨fun past m later heq l => ?_, harrival, ?_, ?_⟩
  · rw [(hsettled heq).waiting_eq]
    exact mem_pending_iff (hpast heq)
  · intro past between later m m' n heq hm hm' hbetween
    rw [← List.cons_append, ← List.append_assoc] at heq
    refine (harrival _ m' later n heq hm').idle fun c hc => ?_
    obtain ⟨k, hk, hanimates⟩ := hc.exists_animates hm
    exact hbetween k hk c hanimates
  · intro before rest node event lower n upper hops hevent hpath e past
    obtain ⟨m, above, later, hhistory, hm, habove⟩ := exists_arrival_of_fire hpath rest
    refine ⟨_, m, above, later, ?_, map_step_moments _ _, hm, habove,
      fun c hc => hc.append fun k hk => not_ends_of_mem_below hpath hk⟩
    rw [hops, history_append, hhistory, List.append_assoc]

end Engine

/-- The page is one that was read and that operations on its document have been done to. -/
def Page.IsRead (p : Page) : Prop := ∃ markup, (parse markup).Becomes p

namespace Engine

/-- **Animations end**, in every run over a sketch or a page in which nothing leaves listeners behind
but `animate`. The listeners that wait at a moment are those of the classes that pend, from the call
of `animate` on until an end event arrives at the node. When one arrives, in whichever way it came
about, the node has none of the classes afterwards, however often and with whatever classes it was
animated, and no listener waits on it. The other classes are as they were, of this node and of all
others, and the other listeners wait as they did. An event arrives at a node of its path before the
directives run that are bound there, and after what happens further below, in which nothing ceases to
pend on the node. Until the node is animated again, further end events do nothing when they arrive.

A run is such if the actions that are registered leave no listeners behind, and its pages have been
read if all that is done to them are operations on their documents. -/
theorem animations_of_run :
    (∀ (host : Sketch) (ops : List (Op Sketch)), OnlyAnimates ((new host).history ops) →
      EndsAnimations host ops) ∧
    (∀ (host : Page) (ops : List (Op Page)),
      (∀ m ∈ (new host).history ops, m.engine.host.IsRead) →
        OnlyAnimates ((new host).history ops) → EndsAnimations host ops) ∧
    (∀ (markup : String) (host : Page) (ops : List (Op Page)), (Page.parse markup).Becomes host →
      (∀ op ∈ ops, op.IsOrderly) → ∀ m ∈ (new host).history ops, m.engine.host.IsRead) ∧
    ∀ (H : Type) [Host H] (host : H) (ops : List (Op H)), (∀ op ∈ ops, op.OnlyAnimates) →
      OnlyAnimates ((new host).history ops) := by
  refine ⟨fun host ops honly => ?_, fun host ops hread honly => ?_, ?_, fun H _ host ops hops => ?_⟩
  · exact endsAnimations Sketch.removesClasses (fun _ _ => trivial) honly
  · refine endsAnimations Page.removesClasses (fun m hm => ?_) honly
    obtain ⟨markup, hbecomes⟩ := hread m hm
    exact hbecomes.isRegular
  · intro markup host ops hbecomes hops m hm
    exact ⟨markup, hbecomes.trans ((isOrderly_new host).becomes_history hops m hm)⟩
  · exact onlyAnimates_history (e := new host) Registry.onlyAnimates_builtin hops

/-- A box that is animated twice by one click. The first end event ends both animations, and one that
comes later leaves the class that somebody else has added. -/
theorem animations_of_box :
    let host := (Sketch.empty.add "button#go").add "div#box"
    let before : List (Op Sketch) := [.enable (.animate "motion.css"),
      .readSource "#go should animate 'pulse' #box and animate glow #box on click",
      .fire 0 "click"]
    let ops := before ++ [.fire 1 "transitionend", .change fun h => Host.addClass h 1 "pulse",
      .fire 1 "animationend"]
    (∃ past m later, (new host).history ops = past ++ m :: later ∧
      m.step = .arrive 1 "transitionend" ∧ Pends past 1 "pulse" ∧ Pends past 1 "glow" ∧
      Host.hasClass m.after.host 1 "pulse" = false ∧
      Host.hasClass m.after.host 1 "glow" = false) ∧
    Host.hasClass ((new host).run ops).host 1 "pulse" ∧
    EndsAnimations (Page.parse "<p id='box'></p>") [.enable (.animate "motion.css"),
      .readSource "#box should animate pulse on click", .fire 4 "click",
      .fire 4 "animationend"] := by
  intro host before ops
  obtain ⟨hsketch, hpage, hread, honly⟩ := animations_of_run
  have hops : ∀ op ∈ ops, op.OnlyAnimates := by
    simp [ops, before, Op.OnlyAnimates]
  have hsound := honly Sketch host ops hops
  have hends := hsketch host ops hsound
  -- the last thing that has happened is that both animations have begun
  let past := (new host).history before
  let begun (c : String) (m : Moment Sketch) : Bool := m.calls.any fun i =>
    !i.left.waiting.isEmpty && i.call.args[0]?.any (stripQuotes · == c) &&
      (i.call.target i.host 1).contains 1
  obtain ⟨hlast, hpath, hadded⟩ : (past.getLast?.any fun m => begun "pulse" m && begun "glow" m) ∧
      Host.lineage ((new host).run before).host 1 = [] ++ 1 :: [] ∧
      Host.hasClass ((new host).run ops).host 1 "pulse" := by decide +kernel
  obtain ⟨k, hk, hbegun⟩ := (Option.any_eq_true ..).mp hlast
  obtain ⟨hpulse, hglow⟩ := Bool.and_eq_true_iff.mp hbegun
  obtain ⟨front, hpast⟩ := List.getLast?_eq_some_iff.mp hk
  have hcalls : ∀ i ∈ k.calls, i.action = Builtin.animate ∨ i.IsQuiet := by
    refine hsound k ?_
    rw [history_append]
    exact List.mem_append_left _ (List.mem_of_getLast? hk)
  have hpends {c : String} (hc : begun c k) : Pends past 1 c :=
    ⟨front, k, [], hpast, Moment.animates_of_any hcalls hc, List.forall_mem_nil _⟩
  obtain ⟨below, m, above, later, hhistory, -, hm, -, hkept⟩ :=
    hends.fire before _ 1 "transitionend" [] 1 [] rfl (by decide) hpath
  have hend := hends.arrival _ m _ 1 hhistory ⟨"transitionend", by decide, hm⟩
  refine ⟨⟨past ++ below, m, above ++ later, hhistory, hm, hkept _ (hpends hpulse),
    hkept _ (hpends hglow), hend.gone _ (hkept _ (hpends hpulse)),
    hend.gone _ (hkept _ (hpends hglow))⟩, hadded, ?_⟩
  have horderly : ∀ op ∈ ([.enable (.animate "motion.css"),
      .readSource "#box should animate pulse on click", .fire 4 "click",
      .fire 4 "animationend"] : List (Op Page)), op.IsOrderly ∧ op.OnlyAnimates := by
    simp [Op.IsOrderly, Op.OnlyAnimates, Builtin.isOrderly_animate]
  exact hpage _ _ (hread _ _ _ (.refl _) fun op hop => (horderly op hop).1)
    (honly Page _ _ fun op hop => (horderly op hop).2)

end Engine

end PageDirectives
