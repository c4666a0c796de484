import Zel.GracefulShutdown
import Zel.Lib.Listeners

/-!
# The accept loops at shutdown

`shutdown` stores the flag and calls `notify_waiters` once.  A `connection_handler` hears of it in
its `select!`, through a future that it creates on entering; the flag it reads only after
`accept_bi` has yielded a stream, and `ProtocolHandler::accept` reads neither.  So a handler that
enters its `select!` after the signal, because its hook was still running, because it was between
two iterations, or because its connection was accepted later, sleeps there until the peer opens
another stream, and a connection accepted later still has its hook run.

## What is here

* `acceptLoops` — the accept loops as listeners of the shutdown signal.
* `LoopsWoken` — once the flag is set and the signal given, no handler sleeps in its `select!`;
  `NoLateHook` — no hook runs for a connection that was accepted later.
* `accept_loops_stop_iff` — **when shutdown stops the accept loops**: if and only if every
  `select!` is entered before the signal and, where there is a hook, so is every connection
  accepted.
-/

set_option autoImplicit false

namespace Zel

namespace Server

variable (services : ServiceMap) (remoteId : Nat → String)

/-! ## The loops as listeners -/

/-- The accept loops, suspended in their `select!`. -/
def acceptLoops : Listeners (machine services remoteId) where
  signal := Server.shutdownSignal
  asleep s f := ∃ h : Nat, s.handlers[h]? = some (.selecting f)
  creates _ l := ∃ h : Nat, l = .select h
  signal_step s l t h := by
    cases moves_of_step h with
    | notify => exact Or.inr rfl
    | _ => exact Or.inl rfl
  asleep_step s l t h f hf := by
    obtain ⟨h', hh'⟩ := hf
    cases moves_of_step h with
    | accept =>
      rcases List.getElem?_concat_cases hh' with ⟨-, hp⟩ | hh'
      · cases hp
      · exact Or.inl ⟨h', hh'⟩
    | select =>
      rcases List.getElem?_set_cases hh' with ⟨-, hp⟩ | ⟨-, hh'⟩
      · cases hp
        exact Or.inr ⟨⟨_, rfl⟩, rfl⟩
      · exact Or.inl ⟨h', hh'⟩
    | loadFlag =>
      rcases List.getElem?_set_cases hh' with ⟨-, hp⟩ | ⟨-, hh'⟩
      · rename_i stream _
        cases stream <;> cases hflag : s.isShuttingDown <;> simp [hflag] at hp
      · exact Or.inl ⟨h', hh'⟩
    | hookDone | signalled | stream | increment | spawn =>
      rcases List.getElem?_set_cases hh' with ⟨-, hp⟩ | ⟨-, hh'⟩
      · cases hp
      · exact Or.inl ⟨h', hh'⟩
    | _ => exact Or.inl ⟨h', hh'⟩
  creates_step s l t h hl := by
    obtain ⟨h', rfl⟩ := hl
    have hm : Moves services remoteId s (.select h') t := moves_of_step h
    cases hm with
    | select hh => exact ⟨rfl, h', List.getElem?_set_of_some hh⟩

/-! ## What shutdown is to achieve -/

/-- `shutdown` has stored the flag and called `notify_waiters`. -/
def Signalled (s : Server) : Prop := s.isShuttingDown = true ∧ 0 < s.shutdownSignal.calls

/-- After the signal every handler that is in its `select!` has been woken. -/
def LoopsWoken (s : Server) : Prop :=
  s.Signalled → ∀ (h : Nat) (f : Notified), s.handlers[h]? = some (.selecting f) →
    f.Ready s.shutdownSignal

/-- No hook runs for a connection that was accepted after the signal. -/
def NoLateHook (hasHook : Bool) (ls : List Label) : Prop :=
  ∀ ls₁ ls₂ ls₃ s t, ls = ls₁ ++ ls₂ ++ ls₃ → (machine services remoteId).run ls₁ = some s →
    s.Signalled → (machine services remoteId).runFrom s ls₂ = some t →
    ∀ h, s.handlers.length ≤ h → ¬ (hasHook = true ∧ t.handlers[h]? = some .hook)

/-- A `select!` is entered, and where there is a hook a connection is accepted, only before the
signal. -/
def StopsInTime (hasHook : Bool) (s : Server) : Label → Prop
  | .select _ => s.shutdownSignal.calls = 0
  | .accept => hasHook = true → s.shutdownSignal.calls = 0
  | _ => True

variable {services remoteId}

/-! ## The flag and the signal -/

/-- The signal is given by calls that have stored the flag. -/
structure FlagFirst (s : Server) : Prop where
  inv : Inv s
  flag : 0 < s.shutdownSignal.calls → s.isShuttingDown = true

theorem flagFirst_new : FlagFirst new := ⟨inv_new, fun h ↦ absurd h (Nat.lt_irrefl 0)⟩

theorem FlagFirst.step {s t : Server} {l : Label} (hs : FlagFirst s)
    (h : s.step services remoteId l = some t) : FlagFirst t := by
  have hm := moves_of_step h
  refine ⟨hm.inv hs.inv, ?_⟩
  cases hm with
  | notify hk => exact fun _ ↦ hs.inv.flag_of hk (by simp)
  | storeFlag => exact fun _ ↦ rfl
  | _ => exact hs.flag

theorem FlagFirst.signalled_iff {s : Server} (hs : FlagFirst s) :
    s.Signalled ↔ 0 < s.shutdownSignal.calls :=
  ⟨fun h ↦ h.2, fun h ↦ ⟨hs.flag h, h⟩⟩

theorem FlagFirst.heard_iff {s : Server} (hs : FlagFirst s) :
    (acceptLoops services remoteId).Heard s ↔ s.LoopsWoken := by
  constructor
  · intro h hsig hd f hf
    exact h (hs.signalled_iff.mp hsig) f ⟨hd, hf⟩
  · rintro h hcalls f ⟨hd, hf⟩
    exact h (hs.signalled_iff.mpr hcalls) hd f hf

theorem flagFirst_of_run {ls : List Label} {s : Server}
    (h : (machine services remoteId).run ls = some s) : FlagFirst s :=
  Machine.Reachable.invariant flagFirst_new (fun _ _ _ hs ht ↦ hs.step ht) ⟨ls, h⟩

/-! ## The two halves -/

/-- The signal is never taken back. -/
theorem Moves.calls_pos {s t : Server} {l : Label} (h : Moves services remoteId s l t)
    (hs : 0 < s.shutdownSignal.calls) : 0 < t.shutdownSignal.calls := by
  cases h with
  | notify => exact Nat.succ_pos _
  | _ => exact hs

/-- Connections come in by `accept` only. -/
theorem Moves.handlers_length {s t : Server} {l : Label} (h : Moves services remoteId s l t)
    (hl : l ≠ .accept) : t.handlers.length = s.handlers.length := by
  cases h with
  | accept => exact absurd rfl hl
  | hookDone | select | signalled | stream | loadFlag | increment | spawn => exact List.length_set
  | _ => rfl

/-- With a hook, a connection is accepted only before the signal. -/
def AcceptsInTime (hasHook : Bool) (s : Server) (l : Label) : Prop :=
  l = .accept → hasHook = true → s.shutdownSignal.calls = 0

theorem stopsInTime_iff {hasHook : Bool} {s : Server} {l : Label} :
    StopsInTime hasHook s l ↔
      (acceptLoops services remoteId).CreatesInTime s l ∧ AcceptsInTime hasHook s l := by
  cases l <;> simp [StopsInTime, Listeners.CreatesInTime, AcceptsInTime, acceptLoops]

theorem noLateHook_iff {hasHook : Bool} {ls : List Label} :
    NoLateHook services remoteId hasHook ls ↔
      (machine services remoteId).Meets (AcceptsInTime hasHook) new ls := by
  constructor
  · intro hno
    rw [Machine.meets_iff_forall_step]
    rintro ls₁ l ls₂ s t rfl hls ht rfl hhook
    by_contra hcalls
    have hsig : s.Signalled :=
      (flagFirst_of_run hls).signalled_iff.mpr (Nat.pos_of_ne_zero hcalls)
    refine hno ls₁ [.accept] ls₂ s t (by simp) hls hsig
      (by rw [Machine.runFrom_singleton]; exact ht) s.handlers.length (Nat.le_refl _) ⟨hhook, ?_⟩
    have hm : Moves services remoteId s .accept t := moves_of_step ht
    cases hm with
    | accept => exact List.getElem?_concat_length
  · rintro h ls₁ ls₂ ls₃ s t rfl hls hsig ht h' hlate ⟨hhook, hh⟩
    -- from the signal on no connection comes in, so nobody has this number
    have hrest := Machine.along_of_meets
      (I := fun u : Server ↦ 0 < u.shutdownSignal.calls ∧ u.handlers.length = s.handlers.length)
      (C := AcceptsInTime hasHook) (fun u l v hu hl hv ↦ ?_) ⟨hsig.2, rfl⟩
      (h.append_left.append_right hls)
    · have hlen := (hrest.last ht).2
      have hlt := (List.getElem?_eq_some_iff.mp hh).1
      omega
    · have hm := moves_of_step hv
      refine ⟨hm.calls_pos hu.1, (hm.handlers_length ?_).trans hu.2⟩
      rintro rfl
      exact absurd (hl rfl hhook) (Nat.ne_of_gt hu.1)

/-! ## When the accept loops stop -/

/-- **When shutdown stops the accept loops.**  In a run no handler sleeps in its `select!` after
the signal, and no hook runs for a connection accepted after it, if and only if every `select!` of
the run is entered before the signal and, where there is a hook, every connection accepted before
it. -/
theorem accept_loops_stop_iff (services : ServiceMap) (remoteId : Nat → String) (hasHook : Bool)
    (ls : List Label) :
    ((machine services remoteId).Along LoopsWoken new ls ∧
        NoLateHook services remoteId hasHook ls) ↔
      (machine services remoteId).Meets (StopsInTime hasHook) new ls := by
  have hwoken : (machine services remoteId).Along LoopsWoken new ls ↔
      (machine services remoteId).Meets (acceptLoops services remoteId).CreatesInTime new ls := by
    rw [← (acceptLoops services remoteId).heard_iff (by simp [acceptLoops, new])]
    exact Machine.along_congr (I := FlagFirst) (fun _ _ _ hs ht ↦ hs.step ht)
      (fun _ hs ↦ hs.heard_iff.symm) flagFirst_new ls
  rw [hwoken, noLateHook_iff, ← Machine.meets_and]
  exact Machine.meets_congr fun s l ↦ stopsInTime_iff.symm

/-- A `shutdown` gives its signal while the only connection is still in its hook; the handler then
enters its `select!`. -/
def lateSelectRun : List Label :=
  [.accept, .shutdown 5, .storeFlag 0, .notify 0, .hookDone 0, .select 0]

/-- A connection is accepted after the signal. -/
def lateAcceptRun : List Label := [.shutdown 5, .storeFlag 0, .notify 0, .accept]

/-- **A handler can sleep through a shutdown, and a hook can run after it.** -/
theorem handler_sleeps_through_shutdown :
    ¬ (machine (oneResource (.rpc 0)) fun _ ↦ "peer").Along LoopsWoken new lateSelectRun ∧
      ¬ NoLateHook (oneResource (.rpc 0)) (fun _ ↦ "peer") true lateAcceptRun := by
  constructor
  · intro h
    exact absurd (h.last (rfl : _ = some _) ⟨rfl, Nat.one_pos⟩ 0 ⟨1⟩ rfl) (by decide)
  · intro h
    exact h [.shutdown 5, .storeFlag 0, .notify 0] [.accept] [] _ _ rfl rfl ⟨rfl, Nat.one_pos⟩ rfl
      0 (Nat.le_refl 0) ⟨rfl, rfl⟩

end Server

end Zel
