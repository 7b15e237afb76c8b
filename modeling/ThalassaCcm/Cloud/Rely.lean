import ThalassaCcm.Cloud.Wp

/-!
# Programs among other programs

`Wp` reads a program run alone, with the cloud making progress between its calls. The
controller's operations also run at once: the service controller reconciles different
Services in parallel, and the resync worker calls `UpdateLoadBalancer` outside the
controller's queue. Between two calls of one operation the cloud then changes by its own
progress and by the calls of the others.

`Safe R G Q E P p` is the rely-guarantee reading of `p`. Started where `P` holds, and run
while the cloud changes between its calls only by steps that `R` allows, `p` makes only
calls that `G` allows, and ends in `Q` or `E`. What a program knows after a call is a
predicate that holds of the answer's cloud and that `R` keeps (`Stable`): an operation's
knowledge is what survives the others. The rules follow those of `Wp`: one per
constructor of `Prog`, `Safe.bind`, and one per helper of `Cloud/Prog.lean`.
-/

set_option autoImplicit false

namespace ThalassaCcm
namespace Cloud

open Prog

/-- A property that every step `R` allows keeps. -/
def Stable (R : State → State → Prop) (P : State → Prop) : Prop :=
  ∀ s s', R s s' → P s → P s'

theorem Stable.and {R : State → State → Prop} {P P' : State → Prop} (h : Stable R P)
    (h' : Stable R P') : Stable R fun s => P s ∧ P' s :=
  fun s s' hr hs => ⟨h s s' hr hs.1, h' s s' hr hs.2⟩

theorem Stable.const (R : State → State → Prop) (p : Prop) : Stable R fun _ => p :=
  fun _ _ _ h => h

theorem Stable.forall_mem {R : State → State → Prop} {β : Type} (l : List β)
    {K : β → State → Prop} (h : ∀ b, Stable R (K b)) : Stable R fun s => ∀ b ∈ l, K b s :=
  fun s s' hr hs b hb => h b s s' hr (hs b hb)

theorem Stable.imp {R : State → State → Prop} (p : Prop) {K : State → Prop} (h : Stable R K) :
    Stable R fun s => p → K s :=
  fun s s' hr hs hp => h s s' hr (hs hp)

theorem Stable.forall_eq_some {R : State → State → Prop} {β : Type} (o : Option β)
    {K : β → State → Prop} (h : ∀ b, Stable R (K b)) : Stable R fun s => ∀ b, o = some b → K b s :=
  fun s s' hr hs b hb => h b s s' hr (hs b hb)

/-- `p`, started where `P` holds and run among steps that `R` allows, makes only calls
    that `G` allows and ends in `Q` or `E`. After a call, the program knows `P'` of the
    cloud it made the call in and of the fault: a predicate of the answer's cloud that `R`
    keeps. -/
inductive Safe {α : Type} (R : State → State → Prop) (G : State → Call → Prop)
    (Q : α → State → Prop) (E : Failure → State → Prop) : (State → Prop) → Prog α → Prop
  | ret {P : State → Prop} {a : α} : (∀ s, P s → Q a s) → Safe R G Q E P (.ret a)
  | fail {P : State → Prop} {f : Failure} : (∀ s, P s → E f s) → Safe R G Q E P (.fail f)
  | call {P : State → Prop} {c : Call} {k : Except String (Resp c) → Prog α}
      (P' : State → Fault → State → Prop) :
      (∀ s, P s → G s c) →
      (∀ s f, P s → Stable R (P' s f) ∧ P' s f (s.respond c f).1) →
      (∀ s f, P s → Safe R G Q E (P' s f) (k (s.respond c f).2)) →
      Safe R G Q E P (.call c k)

namespace Safe

variable {α β : Type} {R : State → State → Prop} {G : State → Call → Prop}
  {Q : α → State → Prop} {E : Failure → State → Prop} {P : State → Prop} {p : Prog α}

/-! ## 1. Structural rules -/

/-- A stronger precondition. -/
theorem pre {P' : State → Prop} (h : Safe R G Q E P p) (hP : ∀ s, P' s → P s) :
    Safe R G Q E P' p := by
  cases h with
  | ret hq => exact .ret fun s hs => hq s (hP s hs)
  | fail he => exact .fail fun s hs => he s (hP s hs)
  | call P'' hG hs hk =>
    exact .call P'' (fun s h => hG s (hP s h)) (fun s f h => hs s f (hP s h))
      fun s f h => hk s f (hP s h)

/-- Weaker postconditions. -/
theorem post {Q' : α → State → Prop} {E' : Failure → State → Prop}
    (hQ : ∀ a s, Q a s → Q' a s) (hE : ∀ f s, E f s → E' f s) (h : Safe R G Q E P p) :
    Safe R G Q' E' P p := by
  induction h with
  | ret hq => exact .ret fun s hs => hQ _ s (hq s hs)
  | fail he => exact .fail fun s hs => hE _ s (he s hs)
  | call P' hG hs _ ih => exact .call P' hG hs ih

/-- A weaker guarantee. -/
theorem guar {G' : State → Call → Prop} (hG : ∀ s c, G s c → G' s c) (h : Safe R G Q E P p) :
    Safe R G' Q E P p := by
  induction h with
  | ret hq => exact .ret hq
  | fail he => exact .fail he
  | call P' hg hs _ ih => exact .call P' (fun s h => hG s _ (hg s h)) hs ih

/-- Less interference. -/
theorem rely {R' : State → State → Prop} (hR : ∀ s s', R' s s' → R s s')
    (h : Safe R G Q E P p) : Safe R' G Q E P p := by
  induction h with
  | ret hq => exact .ret hq
  | fail he => exact .fail he
  | call P' hG hs _ ih =>
    exact .call P' hG (fun s f h => ⟨fun a b hr => (hs s f h).1 a b (hR a b hr), (hs s f h).2⟩)
      ih

theorem call_inv {c : Call} {k : Except String (Resp c) → Prog α}
    (h : Safe R G Q E P (.call c k)) :
    (∀ s, P s → G s c) ∧ ∃ P' : State → Fault → State → Prop,
      (∀ s f, P s → Stable R (P' s f) ∧ P' s f (s.respond c f).1) ∧
      ∀ s f, P s → Safe R G Q E (P' s f) (k (s.respond c f).2) := by
  cases h with
  | call P' hG hs hk => exact ⟨hG, P', hs, hk⟩

/-- Two readings of one program, with their guarantees and knowledge side by side. -/
theorem and {G' : State → Call → Prop} {Q' : α → State → Prop} {E' : Failure → State → Prop}
    {P' : State → Prop} (h : Safe R G Q E P p) (h' : Safe R G' Q' E' P' p) :
    Safe R (fun s c => G s c ∧ G' s c) (fun a s => Q a s ∧ Q' a s) (fun f s => E f s ∧ E' f s)
      (fun s => P s ∧ P' s) p := by
  induction p generalizing P P' with
  | ret a =>
    cases h with | ret hq => cases h' with | ret hq' => exact .ret fun s hs => ⟨hq s hs.1, hq' s hs.2⟩
  | fail f =>
    cases h with | fail he => cases h' with | fail he' => exact .fail fun s hs => ⟨he s hs.1, he' s hs.2⟩
  | call c k ih =>
    obtain ⟨hG, K, hK, hk⟩ := h.call_inv
    obtain ⟨hG', K', hK', hk'⟩ := h'.call_inv
    exact .call (fun s f s' => K s f s' ∧ K' s f s') (fun s hs => ⟨hG s hs.1, hG' s hs.2⟩)
      (fun s f hs => ⟨(hK s f hs.1).1.and (hK' s f hs.2).1, (hK s f hs.1).2, (hK' s f hs.2).2⟩)
      fun s f hs => ih _ (hk s f hs.1) (hk' s f hs.2)

/-! ## 2. Sequencing -/

theorem bind {f : α → Prog β} {Q' : β → State → Prop} (hp : Safe R G Q E P p)
    (hf : ∀ a, Safe R G Q' E (Q a) (f a)) : Safe R G Q' E P (p.bind f) := by
  induction hp with
  | ret hq => exact (hf _).pre hq
  | fail he => exact .fail he
  | call P' hG hs _ ih => exact .call P' hG hs ih

theorem ite {c : Prop} [Decidable c] {p q : Prog α} (hp : c → Safe R G Q E P p)
    (hq : ¬c → Safe R G Q E P q) : Safe R G Q E P (if c then p else q) := by
  by_cases h : c
  · rw [if_pos h]; exact hp h
  · rw [if_neg h]; exact hq h

/-- A program whose every call `Qc` allows keeps an invariant that interference and those
    calls keep, and makes its calls in it. -/
theorem of_allCalls {Qc : Call → Prop} {K : State → Prop} (hp : AllCalls Qc p)
    (hK : Stable R K) (hown : ∀ s c f, Qc c → K s → K (s.respond c f).1)
    (hG : ∀ s c, Qc c → K s → G s c) : Safe R G (fun _ => K) (fun _ => K) K p := by
  induction hp with
  | ret a => exact .ret fun _ h => h
  | fail f => exact .fail fun _ h => h
  | call hc _ ih =>
    exact .call (fun _ _ => K) (fun s h => hG s _ hc h) (fun s f h => ⟨hK, hown s _ f hc h⟩)
      fun _ _ _ => ih _

/-- **Frame.** Knowledge that interference keeps, and the program's own calls keep, stays
    along the program. -/
theorem frame {Qc : Call → Prop} {K : State → Prop} (hp : AllCalls Qc p)
    (hK : Stable R K) (hown : ∀ s c f, Qc c → K s → K (s.respond c f).1)
    (h : Safe R G Q E P p) :
    Safe R G (fun a s => Q a s ∧ K s) (fun f s => E f s ∧ K s) (fun s => P s ∧ K s) p :=
  (h.and (of_allCalls hp hK hown fun _ _ _ _ => trivial)).guar fun _ _ h => h.1

/-- **Frame, by the guarantee.** Knowledge that interference keeps, and every call the
    guarantee allows keeps, stays along the program. -/
theorem frame_of_guar {K : State → Prop} (hK : Stable R K)
    (hown : ∀ s c f, G s c → K s → K (s.respond c f).1) (h : Safe R G Q E P p) :
    Safe R G (fun a s => Q a s ∧ K s) (fun f s => E f s ∧ K s) (fun s => P s ∧ K s) p := by
  induction h with
  | ret hq => exact .ret fun s hs => ⟨hq s hs.1, hs.2⟩
  | fail he => exact .fail fun s hs => ⟨he s hs.1, hs.2⟩
  | @call P c k P' hG hs _ ih =>
    exact .call (fun s f s' => P' s f s' ∧ K s') (fun s h => hG s h.1)
      (fun s f h => ⟨(hs s f h.1).1.and hK, (hs s f h.1).2, hown s c f (hG s h.1) h.2⟩)
      fun s f h => ih s f h.1

/-! ## 3. The helpers of `Cloud/Prog.lean` -/

theorem throw {e : String} (h : ∀ s, P s → E (.error e) s) :
    Safe R G Q E P (Prog.throw e : Prog α) :=
  .fail h

/-- A call whose error propagates: the answer's cloud is in the postcondition of the
    answer, which interference keeps. -/
theorem api (c : Call) {Q : Resp c → State → Prop} (hG : ∀ s, P s → G s c)
    (hQ : ∀ s f v, P s → (s.respond c f).2 = .ok v →
      Stable R (Q v) ∧ Q v (s.respond c f).1)
    (hE : ∀ s f e, P s → (s.respond c f).2 = .error e →
      Stable R (E (.error e)) ∧ E (.error e) (s.respond c f).1) :
    Safe R G Q E P (Prog.api c) := by
  refine .call (fun s f => match (s.respond c f).2 with
    | .ok v => Q v
    | .error e => E (.error e)) hG (fun s f hs => ?_) fun s f _ => ?_
  · dsimp only
    cases hr : (s.respond c f).2 with
    | error e => exact hE s f e hs hr
    | ok v => exact hQ s f v hs hr
  · dsimp only
    cases (s.respond c f).2 with
    | error e => exact .fail fun _ h => h
    | ok v => exact .ret fun _ h => h

/-- A call whose error propagates, under an invariant that interference and the call
    keep. -/
theorem api_inv {c : Call} {K : State → Prop} (hK : Stable R K)
    (hown : ∀ s f, K s → K (s.respond c f).1) (hG : ∀ s, K s → G s c) :
    Safe R G (fun _ => K) (fun _ => K) K (Prog.api c) :=
  api c hG (fun s f _ hs _ => ⟨hK, hown s f hs⟩) fun s f _ hs _ => ⟨hK, hown s f hs⟩

/-- A call whose error the program reads. -/
theorem attempt {c : Call} {Q : Except String (Resp c) → State → Prop}
    (hG : ∀ s, P s → G s c)
    (hQ : ∀ s f, P s → Stable R (Q (s.respond c f).2) ∧ Q (s.respond c f).2 (s.respond c f).1) :
    Safe R G Q E P (Prog.attempt c) :=
  .call (fun s f => Q (s.respond c f).2) hG hQ fun _ _ _ => .ret fun _ h => h

theorem result {Q : Except String α → State → Prop}
    (h : Safe R G (fun a => Q (.ok a)) (fun f s => match f with
      | .error e => Q (.error e) s
      | .panic m => E (.panic m) s) P p) :
    Safe R G Q E P p.result := by
  induction h with
  | ret hq => exact .ret hq
  | @fail _ f he =>
    cases f with
    | error e => exact .ret he
    | panic m => exact .fail he
  | call P' hG hs _ ih => exact .call P' hG hs ih

theorem wrap {pfx : String} (h : Safe R G Q (fun f s => match f with
      | .error e => E (.error (pfx ++ e)) s
      | .panic m => E (.panic m) s) P p) :
    Safe R G Q E P (Prog.wrap pfx p) := by
  have hr : Safe R G (fun r s => match r with
      | .ok a => Q a s
      | .error e => E (.error (pfx ++ e)) s) E P p.result :=
    result (h.post (fun _ _ h => h) fun f _ h => by cases f <;> exact h)
  refine bind hr fun r => ?_
  cases r
  · exact .fail fun _ h => h
  · exact .ret fun _ h => h

/-- `wrap` under a failure postcondition that does not read the failure. -/
theorem wrap_inv {pfx : String} {K : State → Prop} (h : Safe R G Q (fun _ => K) P p) :
    Safe R G Q (fun _ => K) P (Prog.wrap pfx p) :=
  wrap (h.post (fun _ _ h => h) fun f _ h => by cases f <;> exact h)

end Safe

end Cloud
end ThalassaCcm
