import Zel.CoordinatedShutdown

/-!
# Waiting for the subscribers

`IrohBundle::shutdown` gives each subscriber its turn, sends it a replier if its listener is still
there, and waits for what comes back before it shuts the router down.  A subscriber can leave in
four ways: before its turn, with the replier still in the channel, with the replier in hand, and by
completing it.  In the first case there is nothing to wait for, and in the other three the receiver
that was kept of the replier resolves.

## What is here

* `sendsTo`, `repliersSent` — the repliers that a subscriber was sent in a run.
* `Replies` — the joint invariant of the two channels of all subscribers: the futures in
  `shutdown_replies` are those of the subscribers that were sent a replier.
* `shutdown_waits_for_subscribers` — **one replier each, and no router shutdown before the replies
  or the timeout.**
-/

set_option autoImplicit false

namespace Zel

namespace IrohBundle

variable {services : ServiceMap} {remoteId : Nat → String}

/-! ## What was sent -/

/-- The step is the turn of subscriber `i`, and `sub.send(replier)` succeeds in it. -/
def sendsTo (i : Nat) (s : IrohBundle) : Label → Bool
  | .next =>
    match s.phase with
    | .notifying _ j => j == i && (s.shutdownSubscribers[j]?.bind SubscriberPhase.send).isSome
    | _ => false
  | _ => false

theorem sendsTo_next {s : IrohBundle} {d : Duration} {i j : Nat} (hp : s.phase = .notifying d j) :
    sendsTo i s .next = (j == i && (s.shutdownSubscribers[j]?.bind SubscriberPhase.send).isSome) :=
  by simp only [sendsTo, hp]

/-- The number of repliers that subscriber `i` is sent in a run. -/
def repliersSent (services : ServiceMap) (remoteId : Nat → String) (i : Nat) (ls : List Label) :
    Nat :=
  (machine services remoteId).countSteps (fun s l _ ↦ sendsTo i s l) builder ls

/-- Subscriber `i` was sent a replier. -/
def sentTo (s : IrohBundle) (i : Nat) : Bool := s.shutdownSubscribers[i]?.any SubscriberPhase.sent

namespace SubscriberPhase

theorem sent_of_step {p q : SubscriberPhase} {ev : ListenerEvent} (h : p.step ev = some q) :
    q.sent = p.sent := by
  cases p <;> cases ev <;> cases h <;> rfl

theorem sent_abandon (p : SubscriberPhase) : p.abandon.sent = p.sent := by cases p <;> rfl

theorem abandon_of_sent {p : SubscriberPhase} (h : p.sent = true) : p.abandon = p := by
  cases p <;> first | rfl | cases h

theorem sent_of_answered {p : SubscriberPhase} (h : p.answered = true) : p.sent = true := by
  cases p <;> first | rfl | cases h

/-- A subscriber that has answered is done with. -/
theorem not_answered_of_step {p q : SubscriberPhase} {ev : ListenerEvent}
    (h : p.step ev = some q) : p.answered = false := by
  cases p <;> cases ev <;> cases h <;> rfl

/-- Before its turn a listener can only leave. -/
theorem gone_of_step {p q : SubscriberPhase} {ev : ListenerEvent} (h : p.step ev = some q)
    (hp : p = .listening ∨ p = .gone) : q = .gone := by
  rcases hp with rfl | rfl <;> cases ev <;> cases h
  rfl

end SubscriberPhase

theorem sentTo_of_some {s : IrohBundle} {i : Nat} {p : SubscriberPhase}
    (h : s.shutdownSubscribers[i]? = some p) : s.sentTo i = p.sent := by
  rw [sentTo, h, Option.any_some]

/-- The phase of one subscriber is set. -/
theorem sentTo_set {s t : IrohBundle} {i j : Nat} {p q : SubscriberPhase}
    (hi : s.shutdownSubscribers[i]? = some p)
    (hsubs : t.shutdownSubscribers = s.shutdownSubscribers.set i q) :
    t.sentTo j = if i = j then q.sent else s.sentTo j := by
  by_cases hij : i = j
  · subst hij
    rw [if_pos rfl, sentTo_of_some (hsubs ▸ List.getElem?_set_of_some hi)]
  · rw [if_neg hij, sentTo, sentTo, hsubs, List.getElem?_set_ne hij]

/-- A new subscriber was sent nothing. -/
theorem any_sent_concat (subs : List SubscriberPhase) (i : Nat) :
    (subs ++ [SubscriberPhase.listening])[i]?.any SubscriberPhase.sent =
      subs[i]?.any SubscriberPhase.sent := by
  cases hi : subs[i]? with
  | some p => rw [List.getElem?_concat_of_some hi]
  | none =>
    cases hc : (subs ++ [SubscriberPhase.listening])[i]? with
    | none => rfl
    | some q =>
      rcases List.getElem?_concat_cases hc with ⟨-, rfl⟩ | hold
      · rfl
      · rw [hi] at hold
        cases hold

/-- **A replier is sent once**, and by its turn only. -/
theorem Moves.sentTo_add {s t : IrohBundle} {l : Label} (h : Moves services remoteId s l t)
    (i : Nat) : (t.sentTo i).toNat = (s.sentTo i).toNat + (sendsTo i s l).toNat := by
  cases h with
  | subscribeShutdown hp =>
    rw [sentTo, any_sent_concat]
    rfl
  | @listener j ev p q hj hq =>
    rw [sentTo_set (q := q) hj rfl, SubscriberPhase.sent_of_step hq]
    split
    · rename_i hij
      subst hij
      rw [sentTo_of_some hj]
      rfl
    · rfl
  | rpcFailed =>
    rw [sentTo, dropWith, List.getElem?_map, Option.any_map]
    simp only [SubscriberPhase.sent_abandon]
    rfl
  | @sent d j p q hp hj hq =>
    have hsends : sendsTo i s .next = (j == i) := by
      rw [sendsTo_next hp, hj, Option.bind_some, hq, Option.isSome_some, Bool.and_true]
    obtain ⟨rfl, rfl⟩ := SubscriberPhase.send_eq_some hq
    rw [sentTo_set (q := .notified) hj rfl, hsends]
    by_cases hij : j = i
    · subst hij
      rw [if_pos rfl, sentTo_of_some hj, beq_self_eq_true]
      rfl
    · rw [if_neg hij, beq_false_of_ne hij]
      rfl
  | @refused d j p hp hj hq =>
    rw [sendsTo_next hp, hj, Option.bind_some, hq, Option.isSome_none, Bool.and_false]
    rfl
  | @join d j hp hj =>
    rw [sendsTo_next hp, hj, Option.bind_none, Option.isSome_none, Bool.and_false]
    rfl
  | _ => rfl

theorem Moves.sentTo_mono {s t : IrohBundle} {l : Label} {i : Nat}
    (h : Moves services remoteId s l t) (hs : s.sentTo i = true) : t.sentTo i = true := by
  have hadd := h.sentTo_add i
  rw [hs, Bool.toNat_true] at hadd
  by_contra hne
  rw [Bool.not_eq_true] at hne
  rw [hne, Bool.toNat_false] at hadd
  omega

/-- A run has sent a subscriber one replier or none. -/
theorem repliersSent_eq {ls : List Label} {s : IrohBundle}
    (h : (machine services remoteId).run ls = some s) (i : Nat) :
    repliersSent services remoteId i ls = (s.sentTo i).toNat := by
  have hcount := Machine.potential_of_run (M := machine services remoteId) (I := fun _ ↦ True)
    (p := fun s l _ ↦ sendsTo i s l) (f := fun s ↦ (s.sentTo i).toNat)
    (fun _ _ _ _ _ ↦ trivial) (fun _ _ _ _ hm ↦ (moves_of_step hm).sentTo_add i) trivial h
  rw [hcount, repliersSent]
  exact (Nat.zero_add _).symm

/-! ## The two channels of all subscribers -/

/-- What holds in every state of a bundle. -/
structure Replies (s : IrohBundle) : Prop where
  /-- Before its turn a subscriber listens or has left. -/
  untouched : ∀ (j : Nat) (p : SubscriberPhase), s.shutdownSubscribers[j]? = some p →
    s.phase.turns s.shutdownSubscribers.length ≤ j → p = .listening ∨ p = .gone
  /-- A future waits for a replier that was sent, and is ready when the replier is answered. -/
  sent : ∀ r ∈ s.shutdownReplies, ∃ p, s.shutdownSubscribers[r.subscriber]? = some p ∧
    p.sent = true ∧ (r.resolved = true → p.answered = true)
  /-- Every replier that was sent is waited for. -/
  awaited : ∀ (j : Nat) (p : SubscriberPhase), s.shutdownSubscribers[j]? = some p →
    p.sent = true → ∃ r ∈ s.shutdownReplies, r.subscriber = j

theorem replies_builder : Replies builder := by
  constructor <;> simp [builder]

/-- The call moves on, and takes no turn back. -/
theorem Replies.setPhase {s t : IrohBundle} (hs : Replies s)
    (hsubs : t.shutdownSubscribers = s.shutdownSubscribers)
    (hreplies : t.shutdownReplies = s.shutdownReplies)
    (hturns : ∀ j < s.shutdownSubscribers.length,
      t.phase.turns s.shutdownSubscribers.length ≤ j →
        s.phase.turns s.shutdownSubscribers.length ≤ j) : Replies t where
  untouched j p hj hle := by
    rw [hsubs] at hj hle
    exact hs.untouched j p hj (hturns j (List.getElem?_eq_some_iff.mp hj).1 hle)
  sent r hr := by
    rw [hreplies] at hr
    rw [hsubs]
    exact hs.sent r hr
  awaited j p hj hp := by
    rw [hreplies]
    exact hs.awaited j p (hsubs ▸ hj) hp

theorem Moves.replies {s t : IrohBundle} {l : Label} (h : Moves services remoteId s l t)
    (hs : Replies s) : Replies t := by
  cases h with
  | server => exact hs.setPhase rfl rfl fun _ _ hle ↦ hle
  | subscribeShutdown hp =>
    refine ⟨fun j p hj hle ↦ ?_, fun r hr ↦ ?_, fun j p hj hsent ↦ ?_⟩
    · rcases List.getElem?_concat_cases hj with ⟨-, rfl⟩ | hj
      · exact Or.inl rfl
      · exact hs.untouched j p hj (by rw [hp]; exact Nat.zero_le j)
    · obtain ⟨p, hj, hp'⟩ := hs.sent r hr
      exact ⟨p, List.getElem?_concat_of_some hj, hp'⟩
    · rcases List.getElem?_concat_cases hj with ⟨-, rfl⟩ | hj
      · cases hsent
      · exact hs.awaited j p hj hsent
  | finish hp | shutdown hp | shutdownWithHandle hp | rpcOk hp =>
    exact hs.setPhase rfl rfl fun j _ _ ↦ by rw [hp]; exact Nat.zero_le j
  | @listener i ev p q hi hq =>
    refine ⟨fun j p' hj hle ↦ ?_, fun r hr ↦ ?_, fun j p' hj hsent ↦ ?_⟩
    · have hle' : s.phase.turns s.shutdownSubscribers.length ≤ j := by
        simpa [setSubscriber] using hle
      rcases List.getElem?_set_cases hj with ⟨rfl, rfl⟩ | ⟨-, hj⟩
      · exact Or.inr (SubscriberPhase.gone_of_step hq (hs.untouched j p hi hle'))
      · exact hs.untouched j p' hj hle'
    · obtain ⟨p', hj, hsent, hres⟩ := hs.sent r hr
      by_cases hij : i = r.subscriber
      · subst hij
        rw [hi, Option.some_inj] at hj
        subst hj
        refine ⟨q, List.getElem?_set_of_some hi, (SubscriberPhase.sent_of_step hq).trans hsent,
          fun hr' ↦ ?_⟩
        have hanswered := hres hr'
        rw [SubscriberPhase.not_answered_of_step hq] at hanswered
        cases hanswered
      · exact ⟨p', (List.getElem?_set_ne hij).trans hj, hsent, hres⟩
    · rcases List.getElem?_set_cases hj with ⟨rfl, rfl⟩ | ⟨-, hj⟩
      · exact hs.awaited j p hi ((SubscriberPhase.sent_of_step hq).symm.trans hsent)
      · exact hs.awaited j p' hj hsent
  | rpcFailed =>
    refine ⟨fun j p hj hle ↦ ?_, fun r hr ↦ ?_, fun j p hj hsent ↦ ?_⟩
    · exact absurd (List.getElem?_eq_some_iff.mp hj).1 (Nat.not_lt.mpr hle)
    · obtain ⟨p, hj, hsent, hres⟩ := hs.sent r hr
      refine ⟨p, ?_, hsent, hres⟩
      rw [dropWith, List.getElem?_map, hj, Option.map_some, SubscriberPhase.abandon_of_sent hsent]
    · rw [dropWith, List.getElem?_map, Option.map_eq_some_iff] at hj
      obtain ⟨p', hj, rfl⟩ := hj
      exact hs.awaited j p' hj ((SubscriberPhase.sent_abandon p').symm.trans hsent)
  | @sent d i p q hp hi hq =>
    obtain ⟨rfl, rfl⟩ := SubscriberPhase.send_eq_some hq
    refine ⟨fun j p hj hle ↦ ?_, fun r hr ↦ ?_, fun j p hj hsent ↦ ?_⟩
    · have hle' : i + 1 ≤ j := hle
      rcases List.getElem?_set_cases hj with ⟨rfl, -⟩ | ⟨-, hj⟩
      · exact absurd hle' (Nat.not_succ_le_self j)
      · exact hs.untouched j p hj (by rw [hp]; exact Nat.le_of_succ_le hle')
    · rcases List.mem_append.mp hr with hr | hr
      · obtain ⟨p, hj, hsent, hres⟩ := hs.sent r hr
        -- the subscriber whose turn it is has no future yet
        have hne : .listening ≠ p := by
          rintro rfl
          cases hsent
        exact ⟨p, List.getElem?_set_other hj hi hne, hsent, hres⟩
      · rw [List.mem_singleton.mp hr]
        exact ⟨.notified, List.getElem?_set_of_some hi, rfl, fun h ↦ by cases h⟩
    · rcases List.getElem?_set_cases hj with ⟨rfl, -⟩ | ⟨-, hj⟩
      · exact ⟨⟨j, false⟩, List.mem_append_right _ (List.mem_singleton_self _), rfl⟩
      · obtain ⟨r, hr, hrj⟩ := hs.awaited j p hj hsent
        exact ⟨r, List.mem_append_left _ hr, hrj⟩
  | @refused d i p hp hi hq =>
    refine hs.setPhase rfl rfl fun j _ hle ↦ ?_
    rw [hp]
    exact Nat.le_of_succ_le hle
  | join | joined | timeout | routerReturned =>
    exact hs.setPhase rfl rfl fun j hj hle ↦ absurd hj (Nat.not_lt.mpr hle)
  | @reply d i j p hp hi hj ha =>
    refine ⟨hs.untouched, fun r hr ↦ ?_, fun j' p' hj' hsent ↦ ?_⟩
    · rcases List.mem_or_eq_of_mem_set hr with hr | rfl
      · exact hs.sent r hr
      · exact ⟨p, hj, SubscriberPhase.sent_of_answered ha, fun _ ↦ ha⟩
    · obtain ⟨r, hr, rfl⟩ := hs.awaited j' p' hj' hsent
      obtain ⟨k, hk⟩ := List.mem_iff_getElem?.mp hr
      by_cases hik : i = k
      · subst hik
        rw [hi, Option.some_inj] at hk
        subst hk
        exact ⟨_, List.mem_of_getElem? (List.getElem?_set_of_some hi), rfl⟩
      · exact ⟨r, List.mem_of_getElem? ((List.getElem?_set_ne hik).trans hk), rfl⟩

theorem replies_of_reachable {s : IrohBundle} (hs : (machine services remoteId).Reachable s) :
    Replies s :=
  hs.invariant (M := machine services remoteId) replies_builder
    fun _ _ _ hi h ↦ (moves_of_step h).replies hi

/-! ## The turns -/

/-- The loop of `shutdown` has passed subscriber `i`.  A `shutdown_with_handle` that fails in its
first phase does not come to the loop. -/
def TurnOver (s : IrohBundle) (i : Nat) : Prop :=
  i < s.shutdownSubscribers.length ∧ i < s.phase.turns s.shutdownSubscribers.length ∧
    ∀ e, s.phase ≠ .returned (.error (.rpc e))

/-- While the loop goes on, it has passed the subscribers in front of the next one. -/
theorem turnOver_of_lt {s : IrohBundle} {d : Duration} {i j : Nat} (hp : s.phase = .notifying d j)
    (hlen : i < s.shutdownSubscribers.length) (hij : i < j) : s.TurnOver i := by
  refine ⟨hlen, by rw [hp]; exact hij, fun e he ↦ ?_⟩
  rw [hp] at he
  cases he

/-- Only its own turn takes the loop past a subscriber. -/
theorem Moves.turn {s t : IrohBundle} {l : Label} {i : Nat} (h : Moves services remoteId s l t)
    (hs : ¬ s.TurnOver i) (ht : t.TurnOver i) :
    l = .next ∧ i < s.shutdownSubscribers.length ∧ ∃ d, s.phase = .notifying d i := by
  obtain ⟨hlen, hturn, hphase⟩ := ht
  cases h with
  | server | reply => exact absurd ⟨hlen, hturn, hphase⟩ hs
  | subscribeShutdown hp =>
    simp only [hp, BundlePhase.turns] at hturn
    exact absurd hturn (Nat.not_lt_zero i)
  | finish | shutdown | shutdownWithHandle | rpcOk => exact absurd hturn (Nat.not_lt_zero i)
  | listener =>
    rw [setSubscriber, List.length_set] at hlen hturn
    exact absurd ⟨hlen, hturn, hphase⟩ hs
  | rpcFailed => exact absurd rfl (hphase _)
  | @sent d j p q hp hj hq =>
    rw [notifySubscriber, setSubscriber, List.length_set] at hlen
    rcases Nat.lt_succ_iff_lt_or_eq.mp hturn with hij | rfl
    · exact absurd (turnOver_of_lt hp hlen hij) hs
    · exact ⟨rfl, hlen, d, hp⟩
  | @refused d j p hp hj hq =>
    rcases Nat.lt_succ_iff_lt_or_eq.mp hturn with hij | rfl
    · exact absurd (turnOver_of_lt hp hlen hij) hs
    · exact ⟨rfl, hlen, d, hp⟩
  | @join d j hp hj =>
    have hij : i < j := Nat.lt_of_lt_of_le hlen (List.getElem?_eq_none_iff.mp hj)
    exact absurd (turnOver_of_lt hp hlen hij) hs
  | joined hp | timeout hp | routerReturned hp =>
    refine absurd ⟨hlen, by rw [hp]; exact hlen, fun e he ↦ ?_⟩ hs
    rw [hp] at he
    cases he

/-- A listener that has left stays away. -/
theorem Moves.gone {s t : IrohBundle} {l : Label} {i : Nat} (h : Moves services remoteId s l t)
    (hi : s.shutdownSubscribers[i]? = some .gone) : t.shutdownSubscribers[i]? = some .gone := by
  cases h with
  | subscribeShutdown => exact List.getElem?_concat_of_some hi
  | @listener j ev p q hj hq =>
    refine List.getElem?_set_other hi hj ?_
    rintro rfl
    cases ev <;> cases hq
  | rpcFailed => rw [dropWith, List.getElem?_map, hi, Option.map_some]; rfl
  | @sent d j p q hp hj hq =>
    refine List.getElem?_set_other hi hj ?_
    rintro rfl
    cases hq
  | _ => exact hi

/-- **Each subscriber has one turn**, and is sent a replier if its listener is there. -/
theorem turn_of_turnOver {ls : List Label} {s : IrohBundle} {i : Nat}
    (h : (machine services remoteId).run ls = some s) (hi : s.TurnOver i) :
    ∃ ls₁ ls₂ u d, ls = ls₁ ++ .next :: ls₂ ∧ (machine services remoteId).run ls₁ = some u ∧
      u.phase = .notifying d i ∧
      (u.shutdownSubscribers[i]? = some .listening ∧ repliersSent services remoteId i ls = 1 ∨
        u.shutdownSubscribers[i]? = some .gone ∧ repliersSent services remoteId i ls = 0) := by
  have hnone : ¬ builder.TurnOver i := fun h0 ↦ Nat.not_lt_zero i h0.1
  obtain ⟨ls₁, l, ls₂, u, v, rfl, hu, hv, hbefore, hafter⟩ :=
    Machine.exists_step_of_change (P := fun s ↦ s.TurnOver i) h hnone hi
  have hm : Moves services remoteId u l v := moves_of_step hv
  obtain ⟨rfl, hlen, d, hphase⟩ := hm.turn hbefore hafter
  have hrest : (machine services remoteId).runFrom v ls₂ = some s := by
    rwa [Machine.run, Machine.runFrom_append, hu, Option.bind_some, Machine.runFrom_cons, hv,
      Option.bind_some] at h
  refine ⟨ls₁, ls₂, u, d, rfl, hu, hphase, ?_⟩
  obtain ⟨p, hp⟩ : ∃ p, u.shutdownSubscribers[i]? = some p := ⟨_, List.getElem?_eq_getElem hlen⟩
  have huntouched := (replies_of_reachable ⟨ls₁, hu⟩).untouched i p hp
    (by rw [hphase]; exact Nat.le_refl i)
  rcases huntouched with rfl | rfl
  · refine Or.inl ⟨hp, ?_⟩
    have hsent : v.sentTo i = true := by
      have hadd := hm.sentTo_add i
      have hsends : sendsTo i u .next = true := by
        rw [sendsTo_next hphase, hp, beq_self_eq_true, Bool.true_and]
        rfl
      rw [sentTo_of_some hp, hsends] at hadd
      exact Bool.toNat_eq_one.mp hadd
    have hkept : s.sentTo i = true :=
      (Machine.along_of_invariant (M := machine services remoteId)
        (fun _ _ _ hsent hm ↦ (moves_of_step hm).sentTo_mono hsent) hsent ls₂).last hrest
    rw [repliersSent_eq h, hkept]
    rfl
  · refine Or.inr ⟨hp, ?_⟩
    have hgone : s.shutdownSubscribers[i]? = some .gone :=
      (Machine.along_of_invariant (M := machine services remoteId)
        (I := fun s ↦ s.shutdownSubscribers[i]? = some .gone)
        (fun _ _ _ hgone hm ↦ (moves_of_step hm).gone hgone) (hm.gone hp) ls₂).last hrest
    rw [repliersSent_eq h, sentTo_of_some hgone]
    rfl

/-! ## The wait -/

/-- Every replier that was sent was completed or dropped, or its listener was dropped. -/
def AllAnswered (s : IrohBundle) : Prop :=
  ∀ p ∈ s.shutdownSubscribers, p.sent = true → p = .completed ∨ p = .released ∨ p = .discarded

theorem SubscriberPhase.answered_iff {p : SubscriberPhase} :
    p.answered = true ↔ p = .completed ∨ p = .released ∨ p = .discarded := by
  cases p <;> simp [answered]

/-- When all futures are ready, all repliers are answered. -/
theorem Replies.allAnswered {s : IrohBundle} (hs : Replies s)
    (hall : s.shutdownReplies.all Reply.resolved = true) : s.AllAnswered := by
  intro p hp hsent
  obtain ⟨j, hj⟩ := List.mem_iff_getElem?.mp hp
  obtain ⟨r, hr, rfl⟩ := hs.awaited j p hj hsent
  obtain ⟨p', hj', -, hres⟩ := hs.sent r hr
  rw [hj, Option.some_inj] at hj'
  subst hj'
  exact SubscriberPhase.answered_iff.mp (hres (List.all_eq_true.mp hall r hr))

/-- The router's shutdown begins with the end of the wait. -/
theorem Moves.closing {s t : IrohBundle} {l : Label} (h : Moves services remoteId s l t)
    (hs : Replies s) (hrouter : s.router ≠ .closing) (ht : t.router = .closing) :
    l = .timeout ∨ s.AllAnswered := by
  cases h with
  | joined hp hr => exact Or.inr (hs.allAnswered hr)
  | timeout => exact Or.inl rfl
  | finish | rpcFailed | routerReturned => cases ht
  | _ => exact absurd ht hrouter

/-- The step is one of `join_all` being polled. -/
def Label.polls : Label → Bool
  | .reply _ | .joined => true
  | _ => false

variable (services remoteId) in
theorem step_joined {s : IrohBundle} {d : Duration} (hp : s.phase = .joining d)
    (hr : s.shutdownReplies.all Reply.resolved = true) :
    s.step services remoteId .joined = some { s with router := .closing, phase := .closing } := by
  simp only [step, hp, if_pos hr]

variable (services remoteId) in
theorem step_reply {s : IrohBundle} {d : Duration} {i j : Nat} {p : SubscriberPhase}
    (hp : s.phase = .joining d) (hi : s.shutdownReplies[i]? = some ⟨j, false⟩)
    (hj : s.shutdownSubscribers[j]? = some p) (ha : p.answered = true) :
    s.step services remoteId (.reply i) =
      some { s with shutdownReplies := s.shutdownReplies.set i ⟨j, true⟩ } := by
  simp only [step, hp, hi, hj, if_pos ha]

/-- When all repliers are answered, polling the futures ends the wait: by induction on the number of
those that are still pending. -/
theorem Replies.polled {d : Duration} {n : Nat} {s : IrohBundle} (hs : Replies s)
    (hp : s.phase = .joining d) (hall : s.AllAnswered)
    (hn : s.shutdownReplies.countP (fun r ↦ !r.resolved) = n) :
    ∃ ls t, (∀ l ∈ ls, Label.polls l = true) ∧
      (machine services remoteId).runFrom s ls = some t ∧ t.phase = .closing := by
  induction n generalizing s with
  | zero =>
    have hready : s.shutdownReplies.all Reply.resolved = true := by
      rw [List.all_eq_true]
      intro r hr
      simpa using List.countP_eq_zero.mp hn r hr
    refine ⟨[.joined], { s with router := .closing, phase := .closing }, by simp [Label.polls],
      ?_, rfl⟩
    rw [Machine.runFrom_singleton]
    exact step_joined services remoteId hp hready
  | succ n ih =>
    obtain ⟨⟨j, resolved⟩, hr, hpending⟩ :=
      List.countP_pos_iff.mp (Nat.lt_of_lt_of_eq (Nat.succ_pos n) hn.symm)
    obtain rfl : resolved = false := by simpa using hpending
    obtain ⟨i, hi⟩ := List.mem_iff_getElem?.mp hr
    obtain ⟨p, hj, hsent, -⟩ := hs.sent _ hr
    have ha : p.answered = true :=
      SubscriberPhase.answered_iff.mpr (hall p (List.mem_of_getElem? hj) hsent)
    have hstep := step_reply services remoteId hp hi hj ha
    have hcount := List.countP_set_of_pos_neg (a := Reply.mk j true)
      (p := fun r ↦ !r.resolved) hi rfl rfl
    obtain ⟨ls, t, hpolls, hrun, ht⟩ := ih (Moves.replies (moves_of_step hstep) hs) hp hall
      (Nat.succ_inj.mp (hcount.trans hn))
    refine ⟨.reply i :: ls, t, ?_, Machine.runFrom_cons_eq_some.mpr ⟨_, hstep, hrun⟩, ht⟩
    rintro l (_ | ⟨_, hl⟩)
    · rfl
    · exact hpolls l hl

/-! ## How a shutdown waits -/

/-- How `shutdown` treats its subscribers, in the state `s` that the run `ls` ends in. -/
structure WaitsForSubscribers (services : ServiceMap) (remoteId : Nat → String) (ls : List Label)
    (s : IrohBundle) : Prop where
  /-- Each subscriber has its turn, and was then sent one replier if its listener was there, and
  none if it had been dropped. -/
  notified : ∀ i, s.TurnOver i → ∃ ls₁ ls₂ u d, ls = ls₁ ++ .next :: ls₂ ∧
    (machine services remoteId).run ls₁ = some u ∧ u.phase = .notifying d i ∧
    (u.shutdownSubscribers[i]? = some .listening ∧ repliersSent services remoteId i ls = 1 ∨
      u.shutdownSubscribers[i]? = some .gone ∧ repliersSent services remoteId i ls = 0)
  /-- The shutdown of the router begins with a timeout, or when every replier was answered. -/
  closes : ∀ l t, s.step services remoteId l = some t → s.router ≠ .closing →
    t.router = .closing → l = .timeout ∨ s.AllAnswered
  /-- When every replier was answered, the wait ends without the timeout. -/
  unhindered : ∀ d, s.phase = .joining d → s.AllAnswered →
    ∃ ls' t, (∀ l ∈ ls', Label.polls l = true) ∧
      (machine services remoteId).runFrom s ls' = some t ∧ t.phase = .closing

/-- **A shutdown waits for its subscribers.**  In every run, for any number of subscribers that come
and go as they like, each gets one replier if it listens at its turn, the router is shut down only
after a timeout or when all repliers are completed or dropped, and what is dropped is not waited
for. -/
theorem shutdown_waits_for_subscribers (services : ServiceMap) (remoteId : Nat → String)
    (ls : List Label) (s : IrohBundle) (h : (machine services remoteId).run ls = some s) :
    WaitsForSubscribers services remoteId ls s := by
  have hs : Replies s := replies_of_reachable ⟨ls, h⟩
  refine ⟨fun i hi ↦ turn_of_turnOver h hi, fun l t hl hrouter ht ↦ ?_, fun d hp hall ↦ ?_⟩
  · exact (moves_of_step hl).closing hs hrouter ht
  · exact hs.polled hp hall rfl

/-- Four subscribers: the first leaves before its turn, the others leave with the replier in the
channel, drop it, and complete it.  Nothing has to time out. -/
def leavingRun : List Label :=
  [.subscribeShutdown, .subscribeShutdown, .subscribeShutdown, .subscribeShutdown, .finish,
    .listener 0 .dropListener, .shutdown 10, .next, .next, .next, .listener 1 .dropListener,
    .listener 2 .recv, .next, .listener 3 .recv, .listener 2 .dropReplier, .next,
    .listener 3 .complete, .reply 2, .reply 0, .reply 1, .joined]

theorem shutdown_waits_leavingRun :
    ∃ s, (machine (oneResource (.rpc 0)) fun _ ↦ "peer").run leavingRun = some s ∧
      s.shutdownSubscribers = [.gone, .discarded, .released, .completed] ∧ s.router = .closing ∧
      WaitsForSubscribers (oneResource (.rpc 0)) (fun _ ↦ "peer") leavingRun s :=
  ⟨_, rfl, rfl, rfl, shutdown_waits_for_subscribers _ _ leavingRun _ rfl⟩

end IrohBundle

end Zel
