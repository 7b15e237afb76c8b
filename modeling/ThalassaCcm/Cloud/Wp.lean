import ThalassaCcm.Cloud.Fresh

/-!
# Weakest preconditions of cloud programs

`Wp F G p Q E s` says that every run of `p` from the cloud `s` makes only calls that `G`
allows in the cloud they are made in, and ends in `Q` of its value and final cloud when
it returns, and in `E` of its failure and final cloud when it fails. "Every run" ranges
over every schedule whose faults `F` allows: `fun _ => True` for runs in which any call
may fail before or after taking effect, and `(· = .ok)` for runs in which no call fails.
The cloud may make progress before every call in either case.

`G` is what a statement about single calls reads ("no target group is deleted while a
listener names it", "a load balancer is created only when none has the Service's name");
a statement about results takes `G := fun _ _ => True`.

The primitive rules follow the constructors of `Prog` (`Wp.ret`, `Wp.fail`, `Wp.call`)
and its bind (`Wp.bind`); the derived rules are one per helper of `Cloud/Prog.lean`,
so that a proof about a reconcile function goes through its `do` block step by step,
citing the spec lemma of each function it calls. `Wp.of_allCalls` turns a per-call fact
into an invariant of whole runs.
-/

set_option autoImplicit false

namespace ThalassaCcm
namespace Cloud

open Prog

/-- The cloud after its own progress. -/
def State.evolve (s : State) (es : List EnvEvent) : State := es.foldl State.applyEnv s

@[simp] theorem State.evolve_nil (s : State) : s.evolve [] = s := rfl

/-- A property the cloud's progress keeps. -/
def EnvStable (P : State → Prop) : Prop := ∀ s e, P s → P (s.applyEnv e)

theorem EnvStable.evolve {P : State → Prop} (hP : EnvStable P) {s : State} (h : P s)
    (es : List EnvEvent) : P (s.evolve es) := by
  induction es generalizing s with
  | nil => exact h
  | cons e es ih => exact ih (hP s e h)

theorem State.Fresh.envStable : EnvStable State.Fresh := fun _ e h => h.applyEnv e

/-- What the cloud's progress leaves alone. -/
@[simp] theorem State.evolve_targetGroups (s : State) (es : List EnvEvent) :
    (s.evolve es).targetGroups = s.targetGroups :=
  (show EnvStable fun t => t.targetGroups = s.targetGroups from fun _ e h => by simp [h]).evolve
    rfl es
@[simp] theorem State.evolve_listeners (s : State) (es : List EnvEvent) :
    (s.evolve es).listeners = s.listeners :=
  (show EnvStable fun t => t.listeners = s.listeners from fun _ e h => by simp [h]).evolve rfl es
@[simp] theorem State.evolve_nextId (s : State) (es : List EnvEvent) :
    (s.evolve es).nextId = s.nextId :=
  (show EnvStable fun t => t.nextId = s.nextId from fun _ e h => by simp [h]).evolve rfl es

/-- How a run ended, read by a postcondition for returns and one for failures. -/
def Outcome.Sat {α : Type} (o : Outcome α) (Q : α → State → Prop)
    (E : Failure → State → Prop) : Prop :=
  match o.value with
  | .ok a => Q a o.state
  | .error f => E f o.state

/-- Every run of `p` from `s` whose faults `F` allows makes only calls `G` allows, and
    ends in `Q` or `E`. -/
def Wp {α : Type} (F : Fault → Prop) (G : State → Call → Prop) (p : Prog α)
    (Q : α → State → Prop) (E : Failure → State → Prop) (s : State) : Prop :=
  ∀ ts, (∀ t ∈ ts, F t.fault) → (∀ x ∈ issued p ts s, G x.1 x.2) ∧ (exec p ts s).Sat Q E

/-- A run consumes a prefix of its schedule. -/
theorem exec_ticks_suffix {α : Type} (p : Prog α) (ts : List Tick) (s : State) :
    (exec p ts s).ticks <:+ ts := by
  induction p generalizing ts s with
  | ret a => exact List.suffix_refl ts
  | fail f => exact List.suffix_refl ts
  | call c k ih => exact (ih _ _ _).trans (List.tail_suffix ts)

/-- Along a run of a program whose calls `Q` allows, from a cloud in an invariant that the
    cloud's progress and those calls keep, every call is made in the invariant. -/
theorem AllCalls.issued_inv {α : Type} {Q : Call → Prop} {P : State → Prop} {p : Prog α}
    (hp : AllCalls Q p) (henv : EnvStable P) (hcall : ∀ s c f, Q c → P s → P (s.respond c f).1)
    (ts : List Tick) {s : State} (hs : P s) : ∀ x ∈ issued p ts s, Q x.2 ∧ P x.1 := by
  induction hp generalizing ts s with
  | ret a => simp
  | fail e => simp
  | @call c k hc _ ih =>
    have hs' : P (s.evolve (ts.headD {}).env) := henv.evolve hs _
    intro x hx
    rw [issued_call, List.mem_cons] at hx
    rcases hx with rfl | hx
    · exact ⟨hc, hs'⟩
    · exact ih _ _ (hcall _ c _ hc hs') x hx

namespace Wp

variable {α β : Type} {F : Fault → Prop} {G : State → Call → Prop} {Q : α → State → Prop}
  {E : Failure → State → Prop} {s : State}

/-! ## 1. Primitive rules -/

theorem ret {a : α} (h : Q a s) : Wp F G (.ret a) Q E s := fun _ _ => ⟨by simp, h⟩

theorem fail {f : Failure} (h : E f s) : Wp F G (.fail f : Prog α) Q E s :=
  fun _ _ => ⟨by simp, h⟩

/-- A call: after any progress of the cloud, the call is one `G` allows, and under any
    allowed fault the continuation runs on the answer. -/
theorem call {c : Call} {k : Except String (Resp c) → Prog α} (hF : F .ok)
    (h : ∀ es f, F f → G (s.evolve es) c ∧
      Wp F G (k ((s.evolve es).respond c f).2) Q E ((s.evolve es).respond c f).1) :
    Wp F G (.call c k) Q E s := by
  intro ts hts
  have hf : F (ts.headD {}).fault := by
    cases ts with
    | nil => exact hF
    | cons t ts => exact hts t (.head _)
  obtain ⟨hG, hk⟩ := h (ts.headD {}).env _ hf
  obtain ⟨hG', hQ⟩ := hk ts.tail fun t ht => hts t (List.mem_of_mem_tail ht)
  refine ⟨fun x hx => ?_, hQ⟩
  rw [issued_call, List.mem_cons] at hx
  rcases hx with rfl | hx
  · exact hG
  · exact hG' x hx

theorem bind {p : Prog α} {f : α → Prog β} {Q : β → State → Prop}
    (h : Wp F G p (fun a s' => Wp F G (f a) Q E s') E s) : Wp F G (p.bind f) Q E s := by
  intro ts hts
  obtain ⟨hG, hp⟩ := h ts hts
  have hsuf := exec_ticks_suffix p ts s
  rw [issued_bind, exec_bind]
  revert hp hsuf
  rcases exec p ts s with ⟨s', ts', v⟩
  cases v with
  | ok a =>
    intro hp hsuf
    obtain ⟨hG', hQ⟩ := hp ts' fun t ht => hts t (hsuf.subset ht)
    exact ⟨fun x hx => (List.mem_append.mp hx).elim (hG x) (hG' x), hQ⟩
  | error e => exact fun hp _ => ⟨fun x hx => hG x (by simpa using hx), hp⟩

theorem mono {p : Prog α} {Q' : α → State → Prop} {E' : Failure → State → Prop}
    (hQ : ∀ a s', Q a s' → Q' a s') (hE : ∀ f s', E f s' → E' f s') (h : Wp F G p Q E s) :
    Wp F G p Q' E' s := by
  intro ts hts
  obtain ⟨hG, hp⟩ := h ts hts
  refine ⟨hG, ?_⟩
  revert hp
  unfold Outcome.Sat
  cases (exec p ts s).value with
  | ok a => exact hQ a _
  | error f => exact hE f _

/-- `bind`, with the first program's postcondition given. -/
theorem bind_of {p : Prog α} {f : α → Prog β} {Q' : α → State → Prop} {Q : β → State → Prop}
    (hp : Wp F G p Q' E s) (hf : ∀ a s', Q' a s' → Wp F G (f a) Q E s') :
    Wp F G (p.bind f) Q E s :=
  bind (hp.mono hf fun _ _ h => h)

/-- A weaker guarantee. -/
theorem guar {p : Prog α} {G' : State → Call → Prop} (hG : ∀ s c, G s c → G' s c)
    (h : Wp F G p Q E s) : Wp F G' p Q E s :=
  fun ts hts => ⟨fun x hx => hG _ _ ((h ts hts).1 x hx), (h ts hts).2⟩

theorem and {p : Prog α} {G' : State → Call → Prop} {Q' : α → State → Prop}
    {E' : Failure → State → Prop} (h : Wp F G p Q E s) (h' : Wp F G' p Q' E' s) :
    Wp F (fun s c => G s c ∧ G' s c) p (fun a s' => Q a s' ∧ Q' a s')
      (fun f s' => E f s' ∧ E' f s') s := by
  intro ts hts
  obtain ⟨hG, h1⟩ := h ts hts
  obtain ⟨hG', h2⟩ := h' ts hts
  refine ⟨fun x hx => ⟨hG x hx, hG' x hx⟩, ?_⟩
  revert h1 h2
  unfold Outcome.Sat
  cases (exec p ts s).value <;> exact fun h1 h2 => ⟨h1, h2⟩

/-- What holds of every call, value, failure and cloud holds of every run. -/
theorem of_forall {p : Prog α} (hG : ∀ s c, G s c) (hQ : ∀ a s', Q a s')
    (hE : ∀ f s', E f s') : Wp F G p Q E s := fun ts _ =>
  ⟨fun _ _ => hG _ _, by unfold Outcome.Sat; split <;> first | exact hQ _ _ | exact hE _ _⟩

theorem ite {c : Prop} [Decidable c] {p q : Prog α} (hp : c → Wp F G p Q E s)
    (hq : ¬c → Wp F G q Q E s) : Wp F G (if c then p else q) Q E s := by
  by_cases h : c
  · rw [if_pos h]; exact hp h
  · rw [if_neg h]; exact hq h

/-- The call, and the continuation on what it can answer. -/
theorem call_inv {c : Call} {k : Except String (Resp c) → Prog α}
    (h : Wp F G (.call c k) Q E s) (es : List EnvEvent) (f : Fault) (hf : F f) :
    G (s.evolve es) c ∧
      Wp F G (k ((s.evolve es).respond c f).2) Q E ((s.evolve es).respond c f).1 := by
  have hcons : ∀ ts : List Tick, (∀ t ∈ ts, F t.fault) → ∀ t ∈ ⟨es, f⟩ :: ts, F t.fault :=
    fun ts hts t ht => by
      cases ht with
      | head => exact hf
      | tail _ ht => exact hts t ht
  refine ⟨(h [⟨es, f⟩] (hcons [] nofun)).1 (s.evolve es, c) ?_, fun ts hts => ?_⟩
  · rw [issued_call]; exact .head _
  obtain ⟨hG, hQ⟩ := h (⟨es, f⟩ :: ts) (hcons ts hts)
  exact ⟨fun x hx => hG x (by rw [issued_call]; exact .tail _ hx), hQ⟩

/-- The final cloud of a run, when both postconditions are one invariant. -/
theorem state {p : Prog α} {P : State → Prop} (h : Wp F G p (fun _ => P) (fun _ => P) s)
    (ts : List Tick) (hts : ∀ t ∈ ts, F t.fault) : P (exec p ts s).state := by
  have := (h ts hts).2
  unfold Outcome.Sat at this
  split at this <;> exact this

/-! ## 2. The helpers of `Cloud/Prog.lean` -/

theorem throw {e : String} (h : E (.error e) s) : Wp F G (Prog.throw e : Prog α) Q E s :=
  Wp.fail h

/-- A call whose error propagates. -/
theorem api {c : Call} {Q : Resp c → State → Prop} (hF : F .ok)
    (h : ∀ es f, F f → G (s.evolve es) c ∧ match (s.evolve es).respond c f with
      | (s', .ok v) => Q v s'
      | (s', .error e) => E (.error e) s') :
    Wp F G (Prog.api c) Q E s := by
  refine call hF fun es f hf => ⟨(h es f hf).1, ?_⟩
  have := (h es f hf).2
  revert this
  rcases (s.evolve es).respond c f with ⟨s', e | v⟩
  · exact fun h => Wp.fail h
  · exact fun h => Wp.ret h

/-- The same call under a guarantee that holds where it is made, after any progress of the
    cloud. -/
theorem api_guar {c : Call} {Q : Resp c → State → Prop} {G' : State → Call → Prop}
    (hF : F .ok) (hG : ∀ es, G' (s.evolve es) c) (h : Wp F G (Prog.api c) Q E s) :
    Wp F G' (Prog.api c) Q E s :=
  call hF fun es f hf => ⟨hG es, by
    have hk := (h.call_inv es f hf).2
    revert hk
    cases ((s.evolve es).respond c f).2 with
    | ok v => exact fun hk => Wp.ret (hk [] nofun).2
    | error e => exact fun hk => Wp.fail (hk [] nofun).2⟩

/-- A call whose error the program reads. -/
theorem attempt {c : Call} {Q : Except String (Resp c) → State → Prop} (hF : F .ok)
    (h : ∀ es f, F f → G (s.evolve es) c ∧
      Q ((s.evolve es).respond c f).2 ((s.evolve es).respond c f).1) :
    Wp F G (Prog.attempt c) Q E s :=
  call hF fun es f hf => ⟨(h es f hf).1, ret (h es f hf).2⟩

theorem result {p : Prog α} {Q : Except String α → State → Prop} (hF : F .ok)
    (h : Wp F G p (fun a => Q (.ok a)) (fun f s' => match f with
      | .error e => Q (.error e) s'
      | .panic m => E (.panic m) s') s) :
    Wp F G p.result Q E s := by
  induction p generalizing s with
  | ret a => exact Wp.ret (h [] nofun).2
  | fail f =>
    cases f with
    | error e => exact Wp.ret (h [] nofun).2
    | panic m => exact Wp.fail (h [] nofun).2
  | call c k ih =>
    exact call hF fun es f hf => ⟨(h.call_inv es f hf).1, ih _ (h.call_inv es f hf).2⟩

theorem wrap {p : Prog α} {pfx : String} (hF : F .ok)
    (h : Wp F G p Q (fun f s' => match f with
      | .error e => E (.error (pfx ++ e)) s'
      | .panic m => E (.panic m) s') s) :
    Wp F G (Prog.wrap pfx p) Q E s := by
  refine bind (result hF (h.mono (fun a s' h => ?_) fun f s' h => ?_))
  · exact Wp.ret h
  · cases f with
    | error e => exact Wp.throw h
    | panic m => exact h

/-- `wrap` under a failure postcondition that does not read the failure. -/
theorem wrap_inv {p : Prog α} {pfx : String} {P : State → Prop} (hF : F .ok)
    (h : Wp F G p Q (fun _ => P) s) : Wp F G (Prog.wrap pfx p) Q (fun _ => P) s :=
  wrap hF (h.mono (fun _ _ h => h) fun f _ h => by cases f <;> exact h)

/-- One call that keeps an invariant. -/
theorem api_inv {c : Call} {P : State → Prop} (henv : EnvStable P)
    (hc : ∀ s f, P s → P (s.respond c f).1) (hG : ∀ s, P s → G s c) (hs : P s) :
    Wp F G (Prog.api c) (fun _ => P) (fun _ => P) s := by
  refine fun ts _ => ⟨fun x hx => ?_, ?_⟩
  · obtain ⟨rfl, hP⟩ := (@AllCalls.api (· = c) c rfl).issued_inv henv
      (fun s c' f (he : c' = c) h => he ▸ hc s f h) ts hs x hx
    exact hG _ hP
  · have := exec_preserves henv (fun s c' (he : c' = c) h => he ▸ hc s .ok h)
      (@AllCalls.api (· = c) c rfl) ts hs
    unfold Outcome.Sat
    split <;> exact this

/-- A guarantee that every call the program can make meets. -/
theorem guar_of_allCalls {p : Prog α} {Qc : Call → Prop} {G' : State → Call → Prop}
    (hp : AllCalls Qc p) (hG : ∀ s c, Qc c → G' s c) (h : Wp F G p Q E s) :
    Wp F G' p Q E s :=
  fun ts hts => ⟨fun x hx => hG _ _ (@AllCalls.issued_inv α Qc (fun _ => True) p hp
    (fun _ _ _ => trivial) (fun _ _ _ _ _ => trivial) ts s trivial x hx).1, (h ts hts).2⟩

/-- **Frame, by the guarantee.** A property the cloud's progress keeps, and every call the
    guarantee allows keeps, holds wherever a run ends. -/
theorem frame_of_guar {p : Prog α} {P : State → Prop} (henv : EnvStable P)
    (hown : ∀ s c f, G s c → P s → P (s.respond c f).1) (h : Wp F G p Q E s) (hs : P s) :
    Wp F G p (fun a s' => Q a s' ∧ P s') (fun f s' => E f s' ∧ P s') s := by
  have hP : ∀ (q : Prog α) ts t, (∀ x ∈ issued q ts t, G x.1 x.2) → P t →
      P (exec q ts t).state := by
    intro q
    induction q with
    | ret a => exact fun _ _ _ ht => ht
    | fail f => exact fun _ _ _ ht => ht
    | call c k ih =>
      intro ts t hG ht
      rw [issued_call] at hG
      exact ih _ _ _ (fun x hx => hG x (.tail _ hx))
        (hown _ c _ (hG _ (.head _)) (henv.evolve ht _))
  intro ts hts
  obtain ⟨hG, hQ⟩ := h ts hts
  refine ⟨hG, ?_⟩
  have := hP p ts s hG hs
  revert hQ this
  unfold Outcome.Sat
  cases (exec p ts s).value <;> exact fun h1 h2 => ⟨h1, h2⟩

/-- **Invariants.** A property the cloud's progress keeps, and every call `Q` allows
    keeps under any fault, holds at the end of every run of a program whose calls `Q`
    allows; and every call is made in it. -/
theorem of_allCalls {p : Prog α} {Qc : Call → Prop} {P : State → Prop}
    (hp : AllCalls Qc p) (henv : EnvStable P)
    (hcall : ∀ s c f, Qc c → P s → P (s.respond c f).1)
    (hG : ∀ s c, Qc c → P s → G s c) (hs : P s) :
    Wp F G p (fun _ => P) (fun _ => P) s := by
  intro ts _
  refine ⟨fun x hx => ?_, ?_⟩
  · obtain ⟨hc, hP⟩ := hp.issued_inv henv hcall ts hs x hx
    exact hG _ _ hc hP
  · have := exec_preserves henv (fun s c hc hs => hcall s c .ok hc hs) hp ts hs
    unfold Outcome.Sat
    split <;> exact this

end Wp

end Cloud
end ThalassaCcm
