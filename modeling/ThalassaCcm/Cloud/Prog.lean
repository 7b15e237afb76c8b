import ThalassaCcm.Cloud.State

/-!
# Programs over the cloud API, and their runs

A reconcile is a tree of cloud calls: `Prog.call c k` makes call `c` and continues with
`k` on the answer, which is an error or the call's response. Go's error returns are
`Prog.fail (.error msg)`, and a nil dereference is `Prog.fail (.panic msg)`, which no
caller catches. The reconcile functions of `Engine/` are written in this monad, in the
order and with the error texts of the Go source.

Keeping the calls as data gives three readings of one program:

* `exec` runs it against the honest cloud, with a schedule of `Tick`s that says, call by
  call, what the cloud did on its own before the call and how the call returned. A
  statement over every schedule is a statement over every failure pattern.
* `AllCalls Q` says every call the program can make satisfies `Q`, whatever the
  answers; with `exec_preserves` this turns a per-call fact into a fact about runs.
* The interleavings of several programs (`Engine/Runs.lean`) step one call at a time.
-/

set_option autoImplicit false

namespace ThalassaCcm
namespace Cloud

/-- How a Go function ends other than by returning: an error, or a panic. -/
inductive Failure where
  | error (msg : String)
  | panic (msg : String)
  deriving DecidableEq, Repr

/-- A program over the cloud API. -/
inductive Prog (α : Type) where
  | ret (a : α)
  | fail (f : Failure)
  | call (c : Call) (k : Except String (Resp c) → Prog α)

namespace Prog

variable {α β : Type}

def bind : Prog α → (α → Prog β) → Prog β
  | .ret a, f => f a
  | .fail e, _ => .fail e
  | .call c k, f => .call c fun r => bind (k r) f

instance : Monad Prog where
  pure := .ret
  bind := bind

@[simp] theorem pure_eq (a : α) : (pure a : Prog α) = .ret a := rfl
@[simp] theorem bind_eq (p : Prog α) (f : α → Prog β) : p >>= f = p.bind f := rfl
@[simp] theorem ret_bind (a : α) (f : α → Prog β) : (Prog.ret a).bind f = f a := rfl
@[simp] theorem fail_bind (e : Failure) (f : α → Prog β) : (Prog.fail e).bind f = .fail e := rfl
@[simp] theorem call_bind (c : Call) (k : Except String (Resp c) → Prog α) (f : α → Prog β) :
    (Prog.call c k).bind f = .call c fun r => (k r).bind f := rfl

theorem bind_assoc {γ : Type} (p : Prog α) (f : α → Prog β) (g : β → Prog γ) :
    (p.bind f).bind g = p.bind fun a => (f a).bind g := by
  induction p with
  | ret a => rfl
  | fail e => rfl
  | call c k ih => simp only [call_bind, ih]

/-- Go's `return ..., err`. -/
def throw (e : String) : Prog α := .fail (.error e)

@[simp] theorem throw_bind (e : String) (f : α → Prog β) : (throw e : Prog α).bind f = throw e :=
  rfl

/-- The program's error as a value (`x, err := f()`); a panic still propagates. -/
def result : Prog α → Prog (Except String α)
  | .ret a => .ret (.ok a)
  | .fail (.error e) => .ret (.error e)
  | .fail (.panic m) => .fail (.panic m)
  | .call c k => .call c fun r => result (k r)

/-- `if err != nil { return fmt.Errorf(pfx + "%v", err) }` around a step. -/
def wrap (pfx : String) (p : Prog α) : Prog α := do
  match ← p.result with
  | .ok a => pure a
  | .error e => throw (pfx ++ e)

/-- A call whose error propagates unchanged (`if err != nil { return err }`). -/
def api (c : Call) : Prog (Resp c) :=
  .call c fun
    | .ok r => .ret r
    | .error e => throw e

/-- A call whose error the caller reads. -/
def attempt (c : Call) : Prog (Except String (Resp c)) := .call c .ret

end Prog

/-! ## Runs -/

/-- What a run supplies at one call. -/
structure Tick where
  /-- What the cloud does on its own before the call. -/
  env : List EnvEvent := []
  /-- How the call returns. -/
  fault : Fault := .ok
  deriving DecidableEq, Repr

/-- The end of a run: the cloud, the unused schedule, and how the program ended. -/
structure Outcome (α : Type) where
  state : State
  ticks : List Tick
  value : Except Failure α

/-- Run a program from a state, under a schedule; past its end the schedule is quiet and
    every call succeeds. -/
def exec {α : Type} : Prog α → List Tick → State → Outcome α
  | .ret a, ts, s => ⟨s, ts, .ok a⟩
  | .fail f, ts, s => ⟨s, ts, .error f⟩
  | .call c k, ts, s =>
    let t := ts.headD {}
    let r := (t.env.foldl State.applyEnv s).respond c t.fault
    exec (k r.2) ts.tail r.1

variable {α β : Type}

@[simp] theorem exec_ret (a : α) (ts : List Tick) (s : State) :
    exec (.ret a) ts s = ⟨s, ts, .ok a⟩ := rfl

@[simp] theorem exec_fail (f : Failure) (ts : List Tick) (s : State) :
    exec (.fail f : Prog α) ts s = ⟨s, ts, .error f⟩ := rfl

/-- Running `p >>= f` runs `p`, then `f` on its value from where `p` stopped. -/
theorem exec_bind (p : Prog α) (f : α → Prog β) (ts : List Tick) (s : State) :
    exec (p.bind f) ts s =
      match exec p ts s with
      | ⟨s', ts', .ok a⟩ => exec (f a) ts' s'
      | ⟨s', ts', .error e⟩ => ⟨s', ts', .error e⟩ := by
  induction p generalizing ts s with
  | ret a => rfl
  | fail e => rfl
  | call c k ih => exact ih _ _ _

/-- The calls a run makes, in order, each with the cloud it was made in (after the
    cloud's own progress). -/
def issued {α : Type} : Prog α → List Tick → State → List (State × Call)
  | .ret _, _, _ => []
  | .fail _, _, _ => []
  | .call c k, ts, s =>
    let t := ts.headD {}
    let s' := t.env.foldl State.applyEnv s
    (s', c) :: issued (k (s'.respond c t.fault).2) ts.tail (s'.respond c t.fault).1

@[simp] theorem issued_ret (a : α) (ts : List Tick) (s : State) : issued (.ret a) ts s = [] := by
  rw [issued]

@[simp] theorem issued_fail (f : Failure) (ts : List Tick) (s : State) :
    issued (.fail f : Prog α) ts s = [] := by
  rw [issued]

theorem issued_call (c : Call) (k : Except String (Resp c) → Prog α) (ts : List Tick)
    (s : State) :
    issued (.call c k) ts s =
      ((ts.headD {}).env.foldl State.applyEnv s, c) ::
        issued (k (((ts.headD {}).env.foldl State.applyEnv s).respond c (ts.headD {}).fault).2)
          ts.tail (((ts.headD {}).env.foldl State.applyEnv s).respond c (ts.headD {}).fault).1 :=
  by rw [issued]

/-- The calls of a run of `p >>= f`: those of `p`, then those of `f` from where `p`
    returned. -/
theorem issued_bind (p : Prog α) (f : α → Prog β) (ts : List Tick) (s : State) :
    issued (p.bind f) ts s = issued p ts s ++
      match exec p ts s with
      | ⟨s', ts', .ok a⟩ => issued (f a) ts' s'
      | ⟨_, _, .error _⟩ => [] := by
  induction p generalizing ts s with
  | ret a => rfl
  | fail e => rfl
  | call c k ih => simp only [Prog.call_bind, issued, ih, List.cons_append]; rfl

/-! ## Every call a program can make -/

/-- Every call `p` can make satisfies `Q`, whatever the answers. -/
inductive AllCalls (Q : Call → Prop) : Prog α → Prop
  | ret (a : α) : AllCalls Q (.ret a)
  | fail (f : Failure) : AllCalls Q (.fail f)
  | call {c : Call} {k : Except String (Resp c) → Prog α} :
      Q c → (∀ r, AllCalls Q (k r)) → AllCalls Q (.call c k)

namespace AllCalls

variable {Q : Call → Prop}

theorem bind {p : Prog α} {f : α → Prog β} (hp : AllCalls Q p) (hf : ∀ a, AllCalls Q (f a)) :
    AllCalls Q (p.bind f) := by
  induction hp with
  | ret a => exact hf a
  | fail e => exact .fail e
  | call hc _ ih => exact .call hc ih

theorem and {Q' : Call → Prop} {p : Prog α} (h : AllCalls Q p) (h' : AllCalls Q' p) :
    AllCalls (fun c => Q c ∧ Q' c) p := by
  induction h with
  | ret a => exact .ret a
  | fail e => exact .fail e
  | call hc _ ih => cases h' with | call hc' hk' => exact .call ⟨hc, hc'⟩ fun r => ih r (hk' r)

theorem result {p : Prog α} (hp : AllCalls Q p) : AllCalls Q p.result := by
  induction hp with
  | ret a => exact .ret _
  | fail e => cases e <;> first | exact .ret _ | exact .fail _
  | call hc _ ih => exact .call hc ih

theorem wrap {p : Prog α} (pfx : String) (hp : AllCalls Q p) : AllCalls Q (Prog.wrap pfx p) :=
  hp.result.bind fun r => by cases r <;> first | exact .ret _ | exact .fail _

theorem api {c : Call} (hc : Q c) : AllCalls Q (Prog.api c) :=
  .call hc fun r => by cases r <;> first | exact .ret _ | exact .fail _

theorem attempt {c : Call} (hc : Q c) : AllCalls Q (Prog.attempt c) :=
  .call hc fun _ => .ret _

theorem throw (e : String) : AllCalls Q (Prog.throw e : Prog α) := .fail _

theorem ite {c : Prop} [Decidable c] {p q : Prog α} (hp : c → AllCalls Q p)
    (hq : ¬c → AllCalls Q q) : AllCalls Q (if c then p else q) := by
  by_cases h : c
  · rw [if_pos h]; exact hp h
  · rw [if_neg h]; exact hq h

theorem mono {Q' : Call → Prop} (h : ∀ c, Q c → Q' c) {p : Prog α} (hp : AllCalls Q p) :
    AllCalls Q' p := by
  induction hp with
  | ret a => exact .ret a
  | fail e => exact .fail e
  | call hc _ ih => exact .call (h _ hc) ih

/-- Every call a run makes is one `Q` allows. -/
theorem issued_mem {p : Prog α} (hp : AllCalls Q p) (ts : List Tick) (s : State) :
    ∀ x ∈ issued p ts s, Q x.2 := by
  induction hp generalizing ts s with
  | ret a => simp
  | fail e => simp
  | call hc _ ih =>
    intro x hx
    rw [issued_call, List.mem_cons] at hx
    rcases hx with rfl | hx
    · exact hc
    · exact ih _ _ _ x hx

end AllCalls

/-- A property of the cloud that the cloud's own progress and every call allowed by `Q`
    keep, whatever the fault, holds after every run of a program whose calls `Q` allows. -/
theorem exec_preserves {Q : Call → Prop} {P : State → Prop}
    (henv : ∀ s e, P s → P (s.applyEnv e))
    (hcall : ∀ s c, Q c → P s → P (s.perform c).1)
    {p : Prog α} (hp : AllCalls Q p) (ts : List Tick) {s : State} (hs : P s) :
    P (exec p ts s).state := by
  induction hp generalizing ts s with
  | ret a => exact hs
  | fail e => exact hs
  | @call c k hc _ ih =>
    simp only [exec]
    apply ih
    have hs' : P ((ts.headD {}).env.foldl State.applyEnv s) := by
      generalize (ts.headD {}).env = es
      induction es generalizing s with
      | nil => exact hs
      | cons e es ihe => exact ihe (henv s e hs)
    cases hf : (ts.headD {}).fault <;> simp only [State.respond] <;>
      first | exact hs' | exact hcall _ c hc hs'

end Cloud
end ThalassaCcm
