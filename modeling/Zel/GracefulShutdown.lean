import Zel.Server

/-!
# Graceful shutdown

What a `shutdown` that returns `Ok(())` has established.  It waits until the task tracker reads
zero; the tracker counts stream tasks, so the two questions are which work is not a counted stream
task when the counter is read, and what can still become one afterwards.

## What is here

* `refines_taskTracker` — whatever the server does to its tracker is a run of the tracker.
* `Inv` — a stream task that has not ended holds a live guard, a handler that has incremented owns
  a pending task, and a `shutdown` that is past its store finds the flag set.
* `Quiet` — the flag is set, no handler is past its check of the flag and no stream task is left.
  Once reached it is never left, and a counter that reads zero establishes it unless a handler
  stands between its check of the flag and its increment.
* `no_spawn_after_success` — **nothing starts after success**, under exactly that proviso.
* `success_means_idle` — **success means that no callback runs**, if the tasks that run the
  callbacks of subscriptions, notifications and raw streams have finished as well: nothing counts
  those.
-/

set_option autoImplicit false

namespace Zel

namespace Server

variable {services : ServiceMap} {remoteId : Nat → String}

/-! ## The tracker of a server -/

/-- The server moves its tracker by the tracker's own steps, and guards die only with their
tasks. -/
theorem Moves.taskTracker {s t : Server} {l : Label} (h : Moves services remoteId s l t) :
    t.taskTracker = s.taskTracker ∨ ∃ l', s.taskTracker.step l' = some t.taskTracker := by
  cases h with
  | increment _ ht => exact Or.inr ⟨_, ht⟩
  | dropGuard _ ht => exact Or.inr ⟨_, ht⟩
  | notifyGuard ht => exact Or.inr ⟨_, ht⟩
  | wait _ ht => exact Or.inr ⟨_, ht⟩
  | load _ ht => exact Or.inr ⟨_, ht⟩
  | create _ ht => exact Or.inr ⟨_, ht⟩
  | wake _ ht => exact Or.inr ⟨_, ht⟩
  | timeout _ ht => exact Or.inr ⟨_, ht⟩
  | _ => exact Or.inl rfl

/-- **The server refines the tracker.** -/
theorem refines_taskTracker :
    (machine services remoteId).Refines TaskTracker.machine Server.taskTracker where
  init := rfl
  step _ _ _ h := (moves_of_step h).taskTracker

/-- The counter is the number of live guards in every state of a server. -/
theorem activeTasks_eq {s : Server} (hs : (machine services remoteId).Reachable s) :
    s.taskTracker.activeTasks = s.taskTracker.liveGuards :=
  TaskTracker.activeTasks_eq (refines_taskTracker.reachable hs)

/-- A `shutdown` has returned `Ok(())`. -/
def Succeeded (s : Server) : Prop := ∃ c ∈ s.shutdowns, c.phase = .returned (.ok ())

/-- Call `k` of `shutdown` returns `Ok(())` in its next step. -/
def Succeeding (s : Server) (k : Nat) : Prop :=
  ∃ w : Nat, s.waiterOf k = some w ∧ s.taskTracker.waiters[w]? = some (.returned (.ok ()))

theorem waiterOf_eq_some {s : Server} {k w : Nat} :
    s.waiterOf k = some w ↔ ∃ d, s.shutdowns[k]? = some ⟨d, .waiting w⟩ := by
  unfold waiterOf
  constructor
  · intro h
    split at h
    · rename_i d w' hk
      cases h
      exact ⟨d, hk⟩
    · cases h
  · rintro ⟨d, hk⟩
    rw [hk]

/-! ## The invariant -/

/-- What holds in every state of a server. -/
structure Inv (s : Server) : Prop where
  counter : s.taskTracker.activeTasks = s.taskTracker.liveGuards
  aligned : s.taskTracker.guards.length = s.tasks.length
  /-- A running stream task is counted. -/
  live : ∀ (i : Nat) (t : StreamTask), s.tasks[i]? = some t → t.phase ≠ .ended →
    s.taskTracker.guards[i]? = some .live
  /-- A handler that has incremented is about to spawn its own task. -/
  counted : ∀ h i : Nat, s.handlers[h]? = some (.counted i) →
    ∃ request, s.tasks[i]? = some ⟨h, request, .pending⟩
  flag : ∀ c ∈ s.shutdowns, c.phase ≠ .called → s.isShuttingDown = true
  completed : s.Succeeded → s.taskTracker.Completed

theorem inv_new : Inv new := by
  constructor <;> simp [new, TaskTracker.new, TaskTracker.liveGuards, Succeeded]

/-- A handler moves, and does not take a task. -/
theorem Inv.setHandler {s : Server} (hs : Inv s) {h : Nat} {p : HandlerPhase}
    (hp : ∀ i, p ≠ .counted i) : Inv (s.setHandler h p) where
  counter := hs.counter
  aligned := hs.aligned
  live := hs.live
  counted h' i hh := by
    rcases List.getElem?_set_cases hh with ⟨-, he⟩ | ⟨-, hh⟩
    · exact absurd he.symm (hp i)
    · exact hs.counted h' i hh
  flag := hs.flag
  completed := hs.completed

/-- The tracker moves, without a new guard and without the end of one. -/
theorem Inv.tracker {s : Server} (hs : Inv s) {l : TaskTracker.Label} {t : TaskTracker}
    (ht : s.taskTracker.step l = some t) (hi : l ≠ .increment) (hf : ∀ g, l ≠ .fetchSub g) :
    Inv { s with taskTracker := t } :=
  have hm := TaskTracker.moves_of_step ht
  { counter := hm.activeTasks_eq hs.counter
    aligned := (hm.guards_length hi).trans hs.aligned
    live := fun i t hit hne ↦ hm.live (hs.live i t hit hne) (hf i)
    counted := hs.counted
    flag := hs.flag
    completed := fun hsucc ↦ hm.completed (hs.completed hsucc) }

/-- A task moves, and does not end. -/
theorem Inv.setTask {s : Server} (hs : Inv s) {i h : Nat} {request : Request} {p q : TaskPhase}
    (hi : s.tasks[i]? = some ⟨h, request, p⟩) (hp : p ≠ .ended)
    (hfree : ∀ h' : Nat, s.handlers[h']? ≠ some (.counted i)) (callbacks : List CallbackTask) :
    Inv { s with tasks := s.tasks.set i ⟨h, request, q⟩, callbacks := callbacks } where
  counter := hs.counter
  aligned := hs.aligned.trans List.length_set.symm
  live j t hj hne := by
    rcases List.getElem?_set_cases hj with ⟨rfl, -⟩ | ⟨-, hj⟩
    · exact hs.live j _ hi hp
    · exact hs.live j t hj hne
  counted h' j hh := by
    obtain ⟨request', hj⟩ := hs.counted h' j hh
    have hne : i ≠ j := fun he ↦ hfree h' (he ▸ hh)
    exact ⟨request', (List.getElem?_set_ne hne).trans hj⟩
  flag := hs.flag
  completed := hs.completed

/-- A `shutdown` moves on, when the flag is set. -/
theorem Inv.setShutdown {s : Server} (hs : Inv s) {k : Nat} {c : ShutdownCall}
    {p : ShutdownPhase} (hflag : s.isShuttingDown = true)
    (hok : p = .returned (.ok ()) → s.taskTracker.Completed) : Inv (s.setShutdown k c p) where
  counter := hs.counter
  aligned := hs.aligned
  live := hs.live
  counted := hs.counted
  flag _ _ _ := hflag
  completed := by
    rintro ⟨c', hc', hp⟩
    rcases List.mem_or_eq_of_mem_set hc' with hc' | rfl
    · exact hs.completed ⟨c', hc', hp⟩
    · exact hok hp

/-- A task that runs is nobody's to spawn. -/
theorem Inv.not_counted {s : Server} (hs : Inv s) {i h : Nat} {request : Request} {p : TaskPhase}
    (hi : s.tasks[i]? = some ⟨h, request, p⟩) (hp : p ≠ .pending) (h' : Nat) :
    s.handlers[h']? ≠ some (.counted i) := by
  intro hh
  obtain ⟨request', hi'⟩ := hs.counted h' i hh
  rw [hi, Option.some_inj] at hi'
  cases hi'
  exact hp rfl

/-- A call that is past its store finds the flag set. -/
theorem Inv.flag_of {s : Server} (hs : Inv s) {k : Nat} {d : Duration} {p : ShutdownPhase}
    (hk : s.shutdowns[k]? = some ⟨d, p⟩) (hp : p ≠ .called) : s.isShuttingDown = true :=
  hs.flag _ (List.mem_of_getElem? hk) hp

/-- **Every step keeps the invariant.** -/
theorem Moves.inv {s t : Server} {l : Label} (h : Moves services remoteId s l t) (hs : Inv s) :
    Inv t := by
  cases h with
  | accept =>
    refine ⟨hs.counter, hs.aligned, hs.live, fun h i hh ↦ ?_, hs.flag, hs.completed⟩
    rcases List.getElem?_concat_cases hh with ⟨-, hp⟩ | hh
    · cases hp
    · exact hs.counted h i hh
  | hookDone => exact hs.setHandler (by simp)
  | select => exact hs.setHandler (by simp)
  | signalled => exact hs.setHandler (by simp)
  | stream => exact hs.setHandler (by simp)
  | @loadFlag h stream =>
    refine hs.setHandler fun i ↦ ?_
    cases stream <;> cases s.isShuttingDown <;> simp
  | @increment h request t hh ht =>
    have hm := TaskTracker.moves_of_step ht
    cases ht
    refine ⟨hm.activeTasks_eq hs.counter, ?_, fun i t hi hne ↦ ?_, fun h' i hh' ↦ ?_, hs.flag,
      fun hsucc ↦ hm.completed (hs.completed hsucc)⟩
    · simp [hs.aligned]
    · rcases List.getElem?_concat_cases hi with ⟨rfl, -⟩ | hi
      · show (s.taskTracker.guards ++ [GuardPhase.live])[s.tasks.length]? = _
        rw [← hs.aligned, List.getElem?_concat_length]
      · exact hm.live (hs.live i t hi hne) (by simp)
    · rcases List.getElem?_set_cases hh' with ⟨rfl, he⟩ | ⟨-, hh'⟩
      · cases he
        exact ⟨request, List.getElem?_concat_length⟩
      · obtain ⟨request', hi⟩ := hs.counted h' i hh'
        exact ⟨request', List.getElem?_concat_of_some hi⟩
  | @spawn h i t hh hi =>
    obtain ⟨request, hi'⟩ := hs.counted h i hh
    rw [hi, Option.some_inj] at hi'
    subst hi'
    have hleave : Inv (s.setHandler h .looping) := hs.setHandler (by simp)
    refine hleave.setTask (q := .running .reading) hi (by simp) (fun h' hh' ↦ ?_) s.callbacks
    rcases List.getElem?_set_cases hh' with ⟨-, he⟩ | ⟨hne, hh'⟩
    · cases he
    · obtain ⟨request', hi'⟩ := hs.counted h' i hh'
      rw [hi, Option.some_inj] at hi'
      cases hi'
      exact hne rfl
  | task hi => exact hs.setTask hi (by simp) (hs.not_counted hi (by simp)) _
  | @dropGuard i h request t hi ht =>
    have hm := TaskTracker.moves_of_step ht
    refine ⟨hm.activeTasks_eq hs.counter, ?_, fun j t' hj hne ↦ ?_, fun h' j hh ↦ ?_, hs.flag,
      fun hsucc ↦ hm.completed (hs.completed hsucc)⟩
    · rw [hm.guards_length (by simp), hs.aligned, List.length_set]
    · rcases List.getElem?_set_cases hj with ⟨-, rfl⟩ | ⟨hji, hj⟩
      · exact absurd rfl hne
      · exact hm.live (hs.live j t' hj hne) (by simpa using Ne.symm hji)
    · obtain ⟨request', hj⟩ := hs.counted h' j hh
      have hne : i ≠ j := fun he ↦ hs.not_counted hi (by simp) h' (he ▸ hh)
      exact ⟨request', (List.getElem?_set_ne hne).trans hj⟩
  | notifyGuard ht => exact hs.tracker ht (by simp) (by simp)
  | callback => exact ⟨hs.counter, hs.aligned, hs.live, hs.counted, hs.flag, hs.completed⟩
  | shutdown =>
    refine ⟨hs.counter, hs.aligned, hs.live, hs.counted, fun c hc hne ↦ ?_, fun hsucc ↦ ?_⟩
    · rcases List.mem_append.mp hc with hc | hc
      · exact hs.flag c hc hne
      · rw [List.mem_singleton.mp hc] at hne
        exact absurd rfl hne
    · obtain ⟨c, hc, hp⟩ := hsucc
      rcases List.mem_append.mp hc with hc | hc
      · exact hs.completed ⟨c, hc, hp⟩
      · rw [List.mem_singleton.mp hc] at hp
        cases hp
  | storeFlag hk =>
    have hset : Inv { s with isShuttingDown := true } :=
      ⟨hs.counter, hs.aligned, hs.live, hs.counted, fun _ _ _ ↦ rfl, hs.completed⟩
    exact hset.setShutdown rfl (by simp)
  | notify hk =>
    have hsig : Inv { s with shutdownSignal := s.shutdownSignal.notifyWaiters } :=
      ⟨hs.counter, hs.aligned, hs.live, hs.counted, hs.flag, hs.completed⟩
    exact hsig.setShutdown (hs.flag_of hk (by simp)) (by simp)
  | wait hk ht =>
    exact (hs.tracker ht (by simp) (by simp)).setShutdown (c := ⟨_, .signalled⟩)
      (hs.flag_of hk (by simp)) (by simp)
  | load _ ht => exact hs.tracker ht (by simp) (by simp)
  | create _ ht => exact hs.tracker ht (by simp) (by simp)
  | wake _ ht => exact hs.tracker ht (by simp) (by simp)
  | timeout _ ht => exact hs.tracker ht (by simp) (by simp)
  | @ret k w d r hk hw =>
    refine hs.setShutdown (hs.flag_of hk (by simp)) fun hok ↦ ?_
    cases r with
    | ok u => exact ⟨w, hw⟩
    | error u => cases hok

/-! ## Quiet servers -/

/-- The handler has found the flag unset and has not spawned yet. -/
def HandlerPhase.pastCheck : HandlerPhase → Bool
  | .checked _ | .counted _ => true
  | _ => false

/-- Nothing is left that could become a stream task. -/
structure Quiet (s : Server) : Prop where
  flag : s.isShuttingDown = true
  handlers : ∀ p ∈ s.handlers, p.pastCheck = false
  tasks : ∀ t ∈ s.tasks, t.phase = .ended

theorem Quiet.setHandler {s : Server} (hs : Quiet s) {h : Nat} {p : HandlerPhase}
    (hp : p.pastCheck = false) : Quiet (s.setHandler h p) := by
  refine ⟨hs.flag, fun q hq ↦ ?_, hs.tasks⟩
  rcases List.mem_or_eq_of_mem_set hq with hq | rfl
  · exact hs.handlers q hq
  · exact hp

/-- No handler of a quiet server spawns, and no task of it runs. -/
theorem Quiet.pastCheck {s : Server} (hs : Quiet s) {h : Nat} {p : HandlerPhase}
    (hh : s.handlers[h]? = some p) : p.pastCheck = false :=
  hs.handlers p (List.mem_of_getElem? hh)

theorem Quiet.ended {s : Server} (hs : Quiet s) {i : Nat} {t : StreamTask}
    (hi : s.tasks[i]? = some t) : t.phase = .ended :=
  hs.tasks t (List.mem_of_getElem? hi)

/-- **A quiet server stays quiet**, and its callbacks are the ones it has. -/
theorem Moves.quiet {s t : Server} {l : Label} (h : Moves services remoteId s l t)
    (hs : Quiet s) : Quiet t := by
  cases h with
  | accept =>
    refine ⟨hs.flag, fun p hp ↦ ?_, hs.tasks⟩
    rcases List.mem_append.mp hp with hp | hp
    · exact hs.handlers p hp
    · rw [List.mem_singleton.mp hp]
      rfl
  | hookDone => exact hs.setHandler rfl
  | select => exact hs.setHandler rfl
  | signalled => exact hs.setHandler rfl
  | stream => exact hs.setHandler rfl
  | loadFlag => exact hs.setHandler (by rw [if_pos hs.flag]; rfl)
  | increment hh => cases hs.pastCheck hh
  | spawn hh => cases hs.pastCheck hh
  | task hi => cases hs.ended hi
  | dropGuard hi => cases hs.ended hi
  | storeFlag => exact ⟨rfl, hs.handlers, hs.tasks⟩
  | _ => exact ⟨hs.flag, hs.handlers, hs.tasks⟩

/-- **A counter that reads zero.**  The server is quiet if the flag is set and no handler stands
between its check of the flag and its increment. -/
theorem Inv.quiet {s : Server} (hs : Inv s) (h0 : s.taskTracker.activeTasks = 0)
    (hflag : s.isShuttingDown = true)
    (hno : ∀ (h : Nat) (request : Request), s.handlers[h]? ≠ some (.checked request)) :
    Quiet s := by
  have hdead : ∀ (i : Nat) (t : StreamTask), s.tasks[i]? = some t → t.phase = .ended := by
    intro i t hi
    by_contra hne
    exact TaskTracker.ne_live_of_activeTasks_eq_zero hs.counter h0 i (hs.live i t hi hne)
  refine ⟨hflag, fun p hp ↦ ?_, fun t ht ↦ ?_⟩
  · obtain ⟨h, hh⟩ := List.mem_iff_getElem?.mp hp
    cases p with
    | checked request => exact absurd hh (hno h request)
    | counted i =>
      obtain ⟨request, hi⟩ := hs.counted h i hh
      cases hdead i _ hi
    | _ => rfl
  · obtain ⟨i, hi⟩ := List.mem_iff_getElem?.mp ht
    exact hdead i t hi

/-! ## What a success has established -/

/-- A wait returns `Ok(())` in a load that reads zero, made by a call that has set the flag. -/
theorem Moves.completed_cases {s t : Server} {l : Label} (h : Moves services remoteId s l t)
    (hs : Inv s) (ht : t.taskTracker.Completed) :
    s.taskTracker.Completed ∨
      s.taskTracker.activeTasks = 0 ∧ s.isShuttingDown = true ∧ ∃ k, l = .load k := by
  have other : ∀ (l' : TaskTracker.Label) (u : TaskTracker), s.taskTracker.step l' = some u →
      u.Completed → (∀ w, l' ≠ .load w) → s.taskTracker.Completed := by
    intro l' u hu hc hl'
    rcases (TaskTracker.moves_of_step hu).completed_cases hc with hc | ⟨-, w, hw⟩
    · exact hc
    · exact absurd hw (hl' w)
  cases h with
  | increment _ hu => exact Or.inl (other _ _ hu ht (by simp))
  | dropGuard _ hu => exact Or.inl (other _ _ hu ht (by simp))
  | notifyGuard hu => exact Or.inl (other _ _ hu ht (by simp))
  | wait _ hu => exact Or.inl (other _ _ hu ht (by simp))
  | create _ hu => exact Or.inl (other _ _ hu ht (by simp))
  | wake _ hu => exact Or.inl (other _ _ hu ht (by simp))
  | timeout _ hu => exact Or.inl (other _ _ hu ht (by simp))
  | @load k w u hw hu =>
    rcases (TaskTracker.moves_of_step hu).completed_cases ht with hc | ⟨h0, -⟩
    · exact Or.inl hc
    · obtain ⟨d, hk⟩ := waiterOf_eq_some.mp hw
      exact Or.inr ⟨h0, hs.flag_of hk (by simp), k, rfl⟩
  | _ => exact Or.inl ht

/-- The invariant of a run in which every load that reads zero finds `P`: a wait that has returned
`Ok(())` has left `P` behind. -/
structure Settled (P : Server → Prop) (s : Server) : Prop where
  inv : Inv s
  settled : s.taskTracker.Completed → P s

theorem settled_new (P : Server → Prop) : Settled P new where
  inv := inv_new
  settled := by
    rintro ⟨w, hw⟩
    simp [new, TaskTracker.new] at hw

theorem Moves.settled {P : Server → Prop} {s t : Server} {l : Label}
    (h : Moves services remoteId s l t) (hkeep : P s → P t)
    (hzero : (∃ k, l = .load k) → s.taskTracker.activeTasks = 0 → s.isShuttingDown = true → P s)
    (hs : Settled P s) : Settled P t := by
  refine ⟨h.inv hs.inv, fun ht ↦ ?_⟩
  rcases h.completed_cases hs.inv ht with hc | ⟨h0, hflag, hl⟩
  · exact hkeep (hs.settled hc)
  · exact hkeep (hzero hl h0 hflag)

/-- A call whose load reads zero returns `Ok(())` in its next step, whatever else has happened. -/
theorem Moves.load_zero {s t : Server} {k : Nat} (h : Moves services remoteId s (.load k) t)
    (h0 : s.taskTracker.activeTasks = 0) :
    t.Succeeding k ∧ ∃ u, t = { s with taskTracker := u } := by
  cases h with
  | @load k w u hw hu =>
    refine ⟨⟨w, hw, ?_⟩, u, rfl⟩
    cases TaskTracker.moves_of_step hu with
    | load hp hq =>
      rw [h0] at hq
      exact TaskTracker.afterLoad_zero hq ▸ List.getElem?_set_of_some hp

/-- The return of such a call. -/
theorem Succeeding.step_ret (services : ServiceMap) (remoteId : Nat → String) {s : Server}
    {k : Nat} (h : s.Succeeding k) :
    ∃ c, s.shutdowns[k]? = some c ∧
      s.step services remoteId (.ret k) = some (s.setShutdown k c (.returned (.ok ()))) := by
  obtain ⟨w, hw, hok⟩ := h
  obtain ⟨d, hk⟩ := waiterOf_eq_some.mp hw
  exact ⟨⟨d, .waiting w⟩, hk, by simp only [step, hk, hok]; rfl⟩

theorem succeeded_setShutdown {s : Server} {k : Nat} {c : ShutdownCall}
    (hk : s.shutdowns[k]? = some c) : (s.setShutdown k c (.returned (.ok ()))).Succeeded :=
  ⟨_, List.mem_of_getElem? (List.getElem?_set_of_some hk), rfl⟩

/-! ## Nothing starts after success -/

/-- A stream task is spawned only while no `shutdown` has returned `Ok(())`. -/
def NoLateSpawn (s : Server) : Label → Prop
  | .spawn _ => ¬ s.Succeeded
  | _ => True

/-- A load of the counter that reads zero finds no handler between its load of the flag and its
`increment`. -/
def ReadsInTime (s : Server) : Label → Prop
  | .load _ => s.taskTracker.activeTasks = 0 →
      ∀ (h : Nat) (request : Request), s.handlers[h]? ≠ some (.checked request)
  | _ => True

theorem Moves.quiet_settled {s t : Server} {l : Label} (h : Moves services remoteId s l t)
    (hs : Settled Quiet s) (hc : ReadsInTime s l) : Settled Quiet t := by
  refine h.settled h.quiet (fun hl h0 hflag ↦ ?_) hs
  obtain ⟨k, rfl⟩ := hl
  exact hs.inv.quiet h0 hflag (hc h0)

/-- A handler that is past its check when the counter reads zero can still spawn its task after the
call has returned. -/
theorem late_spawn {ls : List Label} {s t : Server} {k h : Nat} {request : Request}
    (hls : (machine services remoteId).run ls = some s)
    (hk : s.step services remoteId (.load k) = some t) (h0 : s.taskTracker.activeTasks = 0)
    (hh : s.handlers[h]? = some (.checked request)) :
    ¬ (machine services remoteId).Meets NoLateSpawn new
      (ls ++ [.load k, .ret k, .increment h, .spawn h]) := by
  obtain ⟨hsucc, u, rfl⟩ := (moves_of_step hk).load_zero h0
  obtain ⟨c, hc, hret⟩ := hsucc.step_ret services remoteId
  set v := Server.setShutdown { s with taskTracker := u } k c (.returned (.ok ())) with hv
  have hvh : v.handlers[h]? = some (.checked request) := hh
  obtain ⟨x, hx⟩ : ∃ x, v.step services remoteId (.increment h) = some x := by
    simp [step, hvh, trackerStep, TaskTracker.step]
  have hxm := moves_of_step hx
  have hxs : x.Succeeded := by
    cases hxm with
    | increment => exact succeeded_setShutdown hc
  obtain ⟨y, hy⟩ : ∃ y, x.step services remoteId (.spawn h) = some y := by
    cases hxm with
    | increment => simp [step, List.getElem?_set_of_some hvh]
  have hrun : (machine services remoteId).run (ls ++ [.load k, .ret k, .increment h]) = some x :=
    Machine.runFrom_append_of hls (by
      simp only [Machine.runFrom_cons, machine, hk, hret, hx, Option.bind_some,
        Machine.runFrom_nil])
  have hbad := Machine.not_meets_concat (C := NoLateSpawn) (l := .spawn h) hrun hy
    (not_not.mpr hxs)
  rwa [List.append_assoc] at hbad

/-- **Nothing starts after success**, if every load of the counter that reads zero finds no handler
between its load of the flag and its `increment`; and a load that does find one can be followed by
the return of `Ok(())` and then by a spawn. -/
theorem no_spawn_after_success (services : ServiceMap) (remoteId : Nat → String)
    (ls : List Label) :
    ((machine services remoteId).Meets ReadsInTime new ls →
      (machine services remoteId).Meets NoLateSpawn new ls) ∧
    ∀ s t k, (machine services remoteId).run ls = some s →
      s.step services remoteId (.load k) = some t → ¬ ReadsInTime s (.load k) →
      ∃ ms, ¬ (machine services remoteId).Meets NoLateSpawn new (ls ++ .load k :: ms) := by
  constructor
  · refine Machine.meets_of_meets (I := Settled Quiet)
      (fun _ _ _ hs hc ht ↦ (moves_of_step ht).quiet_settled hs hc)
      (fun s l t hs _ ht ↦ ?_) (settled_new Quiet)
    cases l with
    | spawn h =>
      intro hsucc
      have hm : Moves services remoteId s (.spawn h) t := moves_of_step ht
      cases hm with
      | spawn hh => cases (hs.settled (hs.inv.completed hsucc)).pastCheck hh
    | _ => trivial
  · intro s t k hls hk hc
    simp only [ReadsInTime, not_forall, not_not] at hc
    obtain ⟨h0, h, request, hh⟩ := hc
    exact ⟨[.ret k, .increment h, .spawn h], late_spawn hls hk h0 hh⟩

/-- One connection accepts a stream and passes the check; a `shutdown` then runs up to its load of
the counter. -/
def checkedRun : List Label :=
  [.accept, .hookDone 0, .select 0, .stream 0 (some ping), .loadFlag 0,
    .shutdown 5, .storeFlag 0, .notify 0, .wait 0]

/-- **A task can be spawned after `shutdown` has returned `Ok(())`.** -/
theorem spawn_after_success :
    ¬ (machine (oneResource (.rpc 0)) fun _ ↦ "peer").Meets NoLateSpawn new
      (checkedRun ++ [.load 0, .ret 0, .increment 0, .spawn 0]) :=
  late_spawn rfl rfl rfl rfl

/-! ## Success means idle -/

/-- No resource callback runs. -/
structure Idle (s : Server) : Prop where
  tasks : ∀ t ∈ s.tasks, ∀ cb, t.phase ≠ .running (.running cb)
  callbacks : ∀ c ∈ s.callbacks, c.phase ≠ .running

/-- A `shutdown` returns `Ok(())` only while no resource callback runs. -/
def WaitsForCallbacks (s : Server) : Label → Prop
  | .ret k => s.Succeeding k → s.Idle
  | _ => True

/-- The callbacks of subscriptions, notifications and raw streams are over, those included whose
task has not called them yet. -/
def CallbacksFinished (s : Server) : Prop := ∀ c ∈ s.callbacks, c.phase = .finished

/-- A load of the counter that reads zero is in time, and the tasks that nothing counts are over. -/
def ReadsDrained (s : Server) : Label → Prop
  | .load k => ReadsInTime s (.load k) ∧ (s.taskTracker.activeTasks = 0 → s.CallbacksFinished)
  | _ => True

/-- A quiet server whose callbacks are over. -/
structure Drained (s : Server) : Prop extends Quiet s where
  callbacks : s.CallbacksFinished

theorem Drained.idle {s : Server} (hs : Drained s) : Idle s where
  tasks t ht cb hrun := by
    rw [hs.tasks t ht] at hrun
    cases hrun
  callbacks c hc hrun := by
    rw [hs.callbacks c hc] at hrun
    cases hrun

/-- Only stream tasks spawn callbacks, and one that is over stays so. -/
theorem Moves.drained {s t : Server} {l : Label} (h : Moves services remoteId s l t)
    (hs : Drained s) : Drained t := by
  refine ⟨h.quiet hs.toQuiet, ?_⟩
  cases h with
  | task hi => cases hs.ended hi
  | @callback j c ev p hj hp =>
    rw [hs.callbacks c (List.mem_of_getElem? hj)] at hp
    cases hp
  | _ => exact hs.callbacks

theorem Moves.drained_settled {s t : Server} {l : Label} (h : Moves services remoteId s l t)
    (hs : Settled Drained s) (hc : ReadsDrained s l) : Settled Drained t := by
  refine h.settled h.drained (fun hl h0 hflag ↦ ?_) hs
  obtain ⟨k, rfl⟩ := hl
  exact ⟨hs.inv.quiet h0 hflag (hc.1 h0), hc.2 h0⟩

/-- A callback task that is not over when the counter reads zero can still run its callback when
the call returns. -/
theorem early_success {ls : List Label} {s t : Server} {k : Nat}
    (hls : (machine services remoteId).run ls = some s)
    (hk : s.step services remoteId (.load k) = some t) (h0 : s.taskTracker.activeTasks = 0)
    (hc : ¬ s.CallbacksFinished) :
    ∃ ms, ¬ (machine services remoteId).Meets WaitsForCallbacks new (ls ++ .load k :: ms) := by
  obtain ⟨hsucc, u, rfl⟩ := (moves_of_step hk).load_zero h0
  simp only [CallbacksFinished, not_forall] at hc
  obtain ⟨c, hmem, hne⟩ := hc
  have hload : (machine services remoteId).run (ls ++ [.load k]) =
      some { s with taskTracker := u } :=
    Machine.runFrom_append_of hls (by rw [Machine.runFrom_singleton]; exact hk)
  rcases hp : c.phase with _ | _ | _
  · -- the task has yet to call its callback: it does so first
    obtain ⟨j, hj⟩ := List.mem_iff_getElem?.mp hmem
    set v : Server := { s with
      taskTracker := u
      callbacks := s.callbacks.set j { c with phase := .running } } with hv
    have hstart : Server.step services remoteId { s with taskTracker := u }
        (.callback j .start) = some v := by
      simp [step, hj, hp, CallbackPhase.step, hv]
    have hrun : (machine services remoteId).run (ls ++ [.load k] ++ [.callback j .start]) =
        some v :=
      Machine.runFrom_append_of hload (by rw [Machine.runFrom_singleton]; exact hstart)
    have hvsucc : v.Succeeding k := hsucc
    obtain ⟨c', -, hret⟩ := hvsucc.step_ret services remoteId
    refine ⟨[.callback j .start, .ret k], ?_⟩
    have hbad := Machine.not_meets_concat (C := WaitsForCallbacks) (l := .ret k) hrun hret
      fun hidle ↦ (hidle hvsucc).callbacks _
        (List.mem_of_getElem? (List.getElem?_set_of_some hj)) rfl
    rwa [List.append_assoc, List.append_assoc] at hbad
  · obtain ⟨c', -, hret⟩ := hsucc.step_ret services remoteId
    refine ⟨[.ret k], ?_⟩
    have hbad := Machine.not_meets_concat (C := WaitsForCallbacks) (l := .ret k) hload hret
      fun hidle ↦ (hidle hsucc).callbacks c hmem hp
    rwa [List.append_assoc] at hbad
  · exact absurd hp hne

/-- **Success means that no callback runs**, if every load of the counter that reads zero is in
time and finds the callback tasks of subscriptions, notifications and raw streams over; and one that
does not find them over can be followed by the return of `Ok(())` while a callback runs. -/
theorem success_means_idle (services : ServiceMap) (remoteId : Nat → String) (ls : List Label) :
    ((machine services remoteId).Meets ReadsDrained new ls →
      (machine services remoteId).Meets WaitsForCallbacks new ls) ∧
    ∀ s t k, (machine services remoteId).run ls = some s →
      s.step services remoteId (.load k) = some t → s.taskTracker.activeTasks = 0 →
      ¬ s.CallbacksFinished →
      ∃ ms, ¬ (machine services remoteId).Meets WaitsForCallbacks new (ls ++ .load k :: ms) := by
  constructor
  · refine Machine.meets_of_meets (I := Settled Drained)
      (fun _ _ _ hs hc ht ↦ (moves_of_step ht).drained_settled hs hc)
      (fun s l t hs _ ht ↦ ?_) (settled_new Drained)
    cases l with
    | ret k =>
      rintro ⟨w, -, hok⟩
      exact (hs.settled ⟨w, hok⟩).idle
    | _ => trivial
  · intro s t k hls hk h0 hc
    exact early_success hls hk h0 hc

/-- A subscription is established and its callback starts; the stream task ends, and a `shutdown`
finds the counter at zero. -/
def detachedRun : List Label :=
  [.accept, .hookDone 0, .select 0, .stream 0 (some ping), .loadFlag 0, .increment 0, .spawn 0,
    .task 0 .read, .task 0 (.opened true), .task 0 (.labelled (.ok ())), .task 0 (.sent true),
    .task 0 .spawn, .callback 0 .start, .dropGuard 0, .notifyGuard 0,
    .shutdown 5, .storeFlag 0, .notify 0, .wait 0, .load 0]

/-- **A `shutdown` can return `Ok(())` while a subscription's callback runs.** -/
theorem success_while_callback_runs :
    ¬ (machine (oneResource (.subscriptionProducer 0)) fun _ ↦ "peer").Meets WaitsForCallbacks new
      (detachedRun ++ [.ret 0]) :=
  Machine.not_meets_concat (C := WaitsForCallbacks) (l := .ret 0) rfl rfl
    fun h ↦ (h ⟨0, rfl, rfl⟩).callbacks _ (List.mem_singleton_self _) rfl

end Server

end Zel
