import ThalassaCcm.Cloud.Rely
import ThalassaCcm.Engine.Runs

/-!
# Interleavings: each operation against the others

A statement over every interleaving is proved one operation at a time. Each operation
for a Service `svc` is read under `Safe`, with what it may do (its guarantee `G svc`) and
what it must put up with (`Rely`): the cloud's progress, and the calls of the operations
that `Other` says run beside it, each one its own guarantee allows. Then a system whose
cloud is in an invariant `Inv` that every guaranteed call keeps, and whose operations in
flight are all safe (`SysOk`), stays so under every label (`SysOk.apply`), so along every
interleaving that `Other` admits (`sysOk_runLabels`).

Two choices of `Other` are used. Every operation may run beside every other one, which is
what the controller allows: its queue serializes each Service's reconciles, but the
resync worker calls `UpdateLoadBalancer` outside it. Or operations for one Service never
overlap (`serialRun`), which is what the spec assumes; then only operations for other
Services interfere (`admissible_of_serialRun`).
-/

set_option autoImplicit false

namespace ThalassaCcm
namespace Engine

open Cloud Prog

section

variable (Inv : State → Prop) (G : Service → State → Call → Prop)
  (Other : Service → Service → Prop)

/-- What an operation for `svc` sees between its calls: the cloud's progress, and the
    calls of operations for Services that `Other` relates to `svc`, each allowed by its
    own guarantee; all from a cloud in the invariant. -/
def Rely (svc : Service) (s s' : State) : Prop :=
  Inv s ∧ ((∃ e, s' = s.applyEnv e) ∨
    ∃ svc' c f, Other svc svc' ∧ G svc' s c ∧ s' = (s.respond c f).1)

/-- An operation in flight is safe: its rest is, from knowledge that holds now and that
    the others keep. -/
def ThreadOk (th : Thread) (s : State) : Prop :=
  ∃ P, Stable (Rely Inv G Other th.svc) P ∧ P s ∧
    Safe (Rely Inv G Other th.svc) (G th.svc) (fun _ _ => True) (fun _ _ => True) P th.prog

/-- The cloud is in the invariant and every operation in flight is safe. -/
def SysOk (sys : Sys) : Prop :=
  Inv sys.cloud ∧ ∀ (i : Nat) th, sys.threads[i]? = some th → ThreadOk Inv G Other th sys.cloud

/-- A step of an operation in flight is admitted when every other operation in flight
    runs beside it. -/
def Sys.Admissible (sys : Sys) : Label → Prop
  | .step i _ => ∀ th, sys.threads[i]? = some th → th.pending.isSome →
      ∀ j th', j ≠ i → sys.threads[j]? = some th' → th'.pending.isSome → Other th'.svc th.svc
  | _ => True

/-- Every label of the list is admitted where it is taken. -/
def Admissible : Sys → List Label → Prop
  | _, [] => True
  | sys, l :: ls => Sys.Admissible Other sys l ∧ Admissible (sys.apply l) ls

end

section Composition

variable {Inv : State → Prop} {G : Service → State → Call → Prop}
  {Other : Service → Service → Prop}

/-- An operation that has returned is safe. -/
theorem ThreadOk.of_pending_eq_none {th : Thread} (h : th.pending = none) (s : State) :
    ThreadOk Inv G Other th s := by
  refine ⟨fun _ => True, Stable.const _ _, trivial, ?_⟩
  rcases th with ⟨svc, _ | _ | _⟩
  · exact .ret fun _ _ => trivial
  · exact .fail fun _ _ => trivial
  · cases h

theorem ThreadOk.stable {th : Thread} {s s' : State} (h : ThreadOk Inv G Other th s)
    (hr : Rely Inv G Other th.svc s s') : ThreadOk Inv G Other th s' :=
  let ⟨P, hP, hs, hp⟩ := h
  ⟨P, hP, hP s s' hr hs, hp⟩

variable (hInvEnv : ∀ s e, Inv s → Inv (s.applyEnv e))

include hInvEnv in
theorem inv_evolve {s : State} (h : Inv s) (es : List EnvEvent) : Inv (s.evolve es) :=
  EnvStable.evolve hInvEnv h es

include hInvEnv in
/-- The cloud's progress is interference every operation puts up with. -/
theorem ThreadOk.evolve {th : Thread} {s : State} (hs : Inv s) (h : ThreadOk Inv G Other th s)
    (es : List EnvEvent) : ThreadOk Inv G Other th (s.evolve es) := by
  induction es generalizing s with
  | nil => exact h
  | cons e es ih =>
    exact ih (hInvEnv s e hs) (h.stable ⟨hs, .inl ⟨e, rfl⟩⟩)

include hInvEnv in
/-- **The guarantee of a pending call.** Whatever progress the cloud makes first, the call
    an operation in flight makes next is one its guarantee allows. -/
theorem SysOk.guarantee {sys : Sys} (h : SysOk Inv G Other sys) {i : Nat} {th : Thread}
    (hi : sys.threads[i]? = some th) {c : Call} (hc : th.pending = some c)
    (es : List EnvEvent) : G th.svc (sys.cloud.evolve es) c := by
  obtain ⟨P, -, hs, hp⟩ := (h.2 i th hi).evolve hInvEnv h.1 es
  rcases th with ⟨svc, _ | _ | ⟨c', k⟩⟩ <;> simp only [Thread.pending, reduceCtorEq,
    Option.some.injEq] at hc
  subst hc
  exact hp.call_inv.1 _ hs

/-- A step of an operation in flight: its pending call, after the tick's progress. -/
theorem Sys.apply_step_cloud {sys : Sys} {i : Nat} {th : Thread}
    (hi : sys.threads[i]? = some th) {c : Call} (hc : th.pending = some c) (t : Tick) :
    (sys.apply (.step i t)).cloud = ((sys.cloud.evolve t.env).respond c t.fault).1 := by
  rcases th with ⟨svc, _ | _ | ⟨c', k⟩⟩ <;> simp only [Thread.pending, reduceCtorEq,
    Option.some.injEq] at hc
  subst hc
  simp only [Sys.apply, hi, stepProg]
  rfl

/-- The system after operation `i` is replaced, from the parts that say it is safe. -/
theorem sysOk_set {s : State} {threads : List Thread} {i : Nat} {th : Thread} (hs : Inv s)
    (hth : ThreadOk Inv G Other th s)
    (hothers : ∀ j th', j ≠ i → threads[j]? = some th' → ThreadOk Inv G Other th' s) :
    SysOk Inv G Other ⟨s, threads.set i th⟩ := by
  refine ⟨hs, fun j th' hj => ?_⟩
  rw [List.getElem?_set] at hj
  split at hj
  · split at hj
    · cases hj; exact hth
    · cases hj
  · exact hothers j th' (Ne.symm ‹_›) hj

variable (hInvCall : ∀ svc s c f, Inv s → G svc s c → Inv (s.respond c f).1)
  (hStart : ∀ (op : Op) s, Inv s → ThreadOk Inv G Other ⟨op.svc, op.prog⟩ s)

include hInvEnv hInvCall in
/-- One call of operation `i`: it keeps the invariant, the operation stays safe, and the
    others put up with the call. -/
theorem SysOk.step {sys : Sys} (h : SysOk Inv G Other sys) (i : Nat) (t : Tick)
    (ha : Sys.Admissible Other sys (.step i t)) : SysOk Inv G Other (sys.apply (.step i t)) := by
  simp only [Sys.apply]
  split
  · exact h
  next th hi =>
  rcases th with ⟨svc, _ | _ | ⟨c, k⟩⟩
  · exact sysOk_set h.1 (h.2 i _ hi) fun j th' _ hj => h.2 j th' hj
  · exact sysOk_set h.1 (h.2 i _ hi) fun j th' _ hj => h.2 j th' hj
  have hs₀ := inv_evolve hInvEnv h.1 t.env
  obtain ⟨P, -, hP, hp⟩ := (h.2 i _ hi).evolve hInvEnv h.1 t.env
  obtain ⟨hG, P', hP', hk⟩ := hp.call_inv
  have hG₀ := hG _ hP
  refine sysOk_set (hInvCall svc _ c t.fault hs₀ hG₀)
    ⟨P' _ t.fault, (hP' _ t.fault hP).1, (hP' _ t.fault hP).2, hk _ t.fault hP⟩ fun j th' hj hj' => ?_
  cases hpend : th'.pending with
  | none => exact ThreadOk.of_pending_eq_none hpend _
  | some c' =>
    have hO := ha _ hi rfl j th' hj hj' (by simp [hpend])
    exact ((h.2 j th' hj').evolve hInvEnv h.1 t.env).stable
      ⟨hs₀, .inr ⟨svc, c, t.fault, hO, hG₀, rfl⟩⟩

include hInvEnv hInvCall hStart in
/-- One label: a start, a call, or the cloud's progress. -/
theorem SysOk.apply {sys : Sys} (h : SysOk Inv G Other sys) (l : Label)
    (ha : Sys.Admissible Other sys l) : SysOk Inv G Other (sys.apply l) := by
  cases l with
  | start op =>
    refine ⟨h.1, fun j th hj => ?_⟩
    simp only [Sys.apply, List.getElem?_append] at hj
    split at hj
    · exact h.2 j th hj
    · generalize j - sys.threads.length = n at hj
      rcases n with _ | n <;> simp only [List.getElem?_cons_zero,
        List.getElem?_cons_succ, List.getElem?_nil, Option.some.injEq, reduceCtorEq] at hj
      subst hj
      exact hStart op _ h.1
  | step i t => exact h.step hInvEnv hInvCall i t ha
  | env e =>
    exact ⟨hInvEnv _ e h.1, fun j th hj =>
      (h.2 j th hj).stable ⟨h.1, .inl ⟨e, rfl⟩⟩⟩

include hInvEnv hInvCall hStart in
/-- **Every admitted interleaving** from a system in the invariant keeps it, with every
    operation in flight safe. -/
theorem sysOk_runLabels {sys : Sys} (h : SysOk Inv G Other sys) (ls : List Label)
    (ha : Admissible Other sys ls) : SysOk Inv G Other (runLabels sys ls) := by
  induction ls generalizing sys with
  | nil => exact h
  | cons l ls ih => exact ih (h.apply hInvEnv hInvCall hStart l ha.1) ha.2

end Composition

/-! ## Which interleavings are admitted -/

/-- When every operation runs beside every other one, every interleaving is admitted. -/
theorem admissible_of_forall {Other : Service → Service → Prop} (hO : ∀ a b, Other a b)
    (sys : Sys) (ls : List Label) : Admissible Other sys ls := by
  induction ls generalizing sys with
  | nil => trivial
  | cons l ls ih =>
    refine ⟨?_, ih _⟩
    cases l <;> first | trivial | exact fun _ _ _ _ _ _ _ _ => hO _ _

/-- The operations in flight are for Services with pairwise different UIDs. -/
def Sys.DistinctInFlight (sys : Sys) : Prop :=
  ∀ (i j : Nat) th th', i ≠ j → sys.threads[i]? = some th → sys.threads[j]? = some th' →
    th.pending.isSome → th'.pending.isSome → th.svc.uid ≠ th'.svc.uid

/-- An operation that has returned stays returned. -/
theorem pending_stepProg (s : State) (t : Tick) (th : Thread)
    (h : (⟨th.svc, (stepProg s t th.prog).2⟩ : Thread).pending.isSome) : th.pending.isSome := by
  rcases th with ⟨svc, _ | _ | _⟩ <;> first | rfl | exact h

theorem getElem?_append_singleton {β : Type} {l : List β} {a b : β} {i : Nat}
    (h : (l ++ [a])[i]? = some b) : l[i]? = some b ∨ (i = l.length ∧ b = a) := by
  rw [List.getElem?_append] at h
  split at h
  · exact .inl h
  · right
    generalize hn : i - l.length = n at h
    rcases n with _ | n <;> simp only [List.getElem?_cons_zero, List.getElem?_cons_succ,
      List.getElem?_nil, Option.some.injEq, reduceCtorEq] at h
    exact ⟨by omega, h.symm⟩

theorem Sys.DistinctInFlight.apply {sys : Sys} (h : sys.DistinctInFlight) (l : Label)
    (hl : (match l with
      | .start op => sys.threads.all fun th => th.pending.isNone || th.svc.uid != op.svc.uid
      | _ => true) = true) : (sys.apply l).DistinctInFlight := by
  cases l with
  | start op =>
    have hnew : ∀ (k : Nat) th, sys.threads[k]? = some th → th.pending.isSome →
        th.svc.uid ≠ op.svc.uid := fun k th hk hp => by
      have := List.all_eq_true.mp hl th (List.getElem?_mem hk)
      cases hpe : th.pending <;> simp_all
    intro i j th th' hij hi hj hp hp'
    rcases getElem?_append_singleton hi with hi | ⟨rfl, rfl⟩ <;>
      rcases getElem?_append_singleton hj with hj | ⟨rfl, rfl⟩
    · exact h i j th th' hij hi hj hp hp'
    · exact hnew i th hi hp
    · exact (hnew j th' hj hp').symm
    · exact absurd rfl hij
  | step i t =>
    simp only [Sys.apply]
    split
    · exact h
    next th hi =>
    have hold : ∀ (k : Nat) x, (sys.threads.set i ⟨th.svc, (stepProg sys.cloud t th.prog).2⟩)[k]? =
        some x → x.pending.isSome → ∃ y, sys.threads[k]? = some y ∧ y.svc = x.svc ∧
          y.pending.isSome := fun k x hk hp => by
      rw [List.getElem?_set] at hk
      split at hk
      · split at hk
        · cases hk; subst_vars; exact ⟨th, hi, rfl, pending_stepProg _ _ th hp⟩
        · cases hk
      · exact ⟨x, hk, rfl, hp⟩
    intro a b x x' hab ha hb hp hp'
    obtain ⟨y, hy, hys, hyp⟩ := hold a x ha hp
    obtain ⟨y', hy', hys', hyp'⟩ := hold b x' hb hp'
    rw [← hys, ← hys']
    exact h a b y y' hab hy hy' hyp hyp'
  | env e => exact h

/-- Under `serialRun`, only operations for Services with other UIDs run beside an
    operation. -/
theorem admissible_of_serialRun {sys : Sys} (h : sys.DistinctInFlight) (ls : List Label)
    (hs : serialRun sys ls = true) :
    Admissible (fun svc svc' => svc.uid ≠ svc'.uid) sys ls := by
  induction ls generalizing sys with
  | nil => trivial
  | cons l ls ih =>
    simp only [serialRun, Bool.and_eq_true] at hs
    refine ⟨?_, ih (h.apply l hs.1) hs.2⟩
    cases l with
    | step i t =>
      exact fun th hi hth j th' hj hj' hth' => h j i th' th hj hj' hi hth' hth
    | start op => trivial
    | env e => trivial

end Engine
end ThalassaCcm
