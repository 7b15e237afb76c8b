import Mathlib.Data.List.Nodup

/-!
# `map[string]string`, as the controller uses it

Labels and annotations are Go maps from strings to strings. The controller does four
things with one: it reads a key (`m[k]`, which is `""` when the key is absent), asks
whether a key is present (`_, ok := m[k]`), adds an entry only when its key is absent
(the merge loops of `GetLabelsForVpcLoadbalancer`), and compares two maps with
`matchLabels`. A map is the list of its entries here, and every read takes the first
entry of a key. Go maps have one entry per key, and every map the controller builds
keeps that (`Unique`, preserved by `mergeAbsent`), so nothing depends on which entry of
a repeated key is first.

The lemma that carries the label scheme is `get_mergeAbsent`: a merge never overrides
an entry that is already there. `matchLabels_self_mergeAbsent` is its consequence for
ownership: an object labelled with a selector plus extra entries is matched by the
selector.
-/

set_option autoImplicit false

namespace ThalassaCcm

/-- A Go `map[string]string`, as the list of its entries. -/
abbrev StrMap := List (String × String)

namespace StrMap

/-- `v, ok := m[k]`, as an option. -/
def find? : StrMap → String → Option String
  | [], _ => none
  | kv :: m, k => if kv.1 = k then some kv.2 else find? m k

/-- `m[k]`: the value at `k`, or Go's zero value `""`. -/
def get (m : StrMap) (k : String) : String := (m.find? k).getD ""

/-- `_, ok := m[k]`. -/
def has (m : StrMap) (k : String) : Bool := (m.find? k).isSome

/-- `if _, ok := m[k]; !ok { m[k] = v }`. -/
def insertIfAbsent (m : StrMap) (kv : String × String) : StrMap :=
  if m.has kv.1 then m else m ++ [kv]

/-- `for k, v := range extra { if _, ok := m[k]; !ok { m[k] = v } }`. -/
def mergeAbsent (m extra : StrMap) : StrMap := extra.foldl insertIfAbsent m

/-- One entry per key, as in every Go map. -/
def Unique (m : StrMap) : Prop := (m.map Prod.fst).Nodup

/-! ## 1. Reads -/

theorem find?_append (m m' : StrMap) (k : String) :
    find? (m ++ m') k = (find? m k).or (find? m' k) := by
  induction m with
  | nil => rfl
  | cons kv m ih => simp only [List.cons_append, find?]; split <;> simp [ih]

theorem has_iff_mem_keys (m : StrMap) (k : String) : m.has k = true ↔ k ∈ m.map Prod.fst := by
  induction m with
  | nil => simp [has, find?]
  | cons kv m ih =>
    simp only [has, find?, List.map_cons, List.mem_cons] at ih ⊢
    split
    · rename_i h; simp [h]
    · rename_i h; rw [ih]; exact ⟨Or.inr, fun h' => h'.resolve_left fun e => h e.symm⟩

theorem get_of_not_has {m : StrMap} {k : String} (h : m.has k = false) : m.get k = "" := by
  cases hf : m.find? k <;> simp_all [get, has]

theorem get_nil (k : String) : get [] k = "" := rfl

theorem get_cons (kv : String × String) (m : StrMap) (k : String) :
    get (kv :: m) k = if kv.1 = k then kv.2 else get m k := by
  simp only [get, find?]; split <;> rfl

theorem has_cons (kv : String × String) (m : StrMap) (k : String) :
    has (kv :: m) k = (kv.1 == k || has m k) := by
  simp only [has, find?]; split <;> simp_all

/-- In a map with one entry per key, every entry is what its key reads. -/
theorem get_of_mem {m : StrMap} (hu : m.Unique) {kv : String × String} (hm : kv ∈ m) :
    m.get kv.1 = kv.2 := by
  induction m with
  | nil => simp at hm
  | cons e m ih =>
    simp only [Unique, List.map_cons, List.nodup_cons] at hu
    rw [get_cons]
    rcases List.mem_cons.mp hm with rfl | hm
    · simp
    · have hne : e.1 ≠ kv.1 := fun h => hu.1 (h ▸ List.mem_map_of_mem Prod.fst hm)
      rw [if_neg hne]
      exact ih hu.2 hm

/-! ## 2. Merging without overriding -/

theorem has_insertIfAbsent (m : StrMap) (kv : String × String) (k : String) :
    (m.insertIfAbsent kv).has k = (m.has k || kv.1 == k) := by
  unfold insertIfAbsent
  split
  · rename_i h
    by_cases hk : kv.1 = k
    · subst hk; simp [h]
    · simp [hk]
  · simp only [has, find?_append, find?]
    cases find? m k <;> by_cases hk : kv.1 = k <;> simp [hk]

theorem get_insertIfAbsent (m : StrMap) (kv : String × String) (k : String) :
    (m.insertIfAbsent kv).get k = if m.has k then m.get k else if kv.1 = k then kv.2 else "" := by
  unfold insertIfAbsent
  split
  · rename_i h
    split
    · rfl
    · rename_i hk
      have hne : kv.1 ≠ k := fun e => hk (e ▸ h)
      simp [hne, get_of_not_has (Bool.eq_false_iff.mpr hk)]
  · rename_i h
    have hn : m.find? kv.1 = none := by simpa [has] using h
    by_cases hk : kv.1 = k
    · subst hk; simp [get, has, find?_append, find?, hn]
    · cases hf : m.find? k <;> simp [get, has, find?_append, find?, hk, hf]

/-- **A merge never overrides.** A key already in `m` keeps its value; any other key
    reads the first entry `extra` has for it. -/
theorem get_mergeAbsent (m extra : StrMap) (k : String) :
    (m.mergeAbsent extra).get k = if m.has k then m.get k else extra.get k := by
  induction extra generalizing m with
  | nil =>
    simp only [mergeAbsent, List.foldl_nil, get_nil]
    split
    · rfl
    · exact get_of_not_has (Bool.eq_false_iff.mpr ‹_›)
  | cons kv extra ih =>
    simp only [mergeAbsent, List.foldl_cons] at ih ⊢
    rw [ih, has_insertIfAbsent, get_insertIfAbsent, get_cons]
    by_cases hm : m.has k <;> by_cases hk : kv.1 = k <;> simp [hm, hk]

theorem has_mergeAbsent (m extra : StrMap) (k : String) :
    (m.mergeAbsent extra).has k = (m.has k || extra.has k) := by
  induction extra generalizing m with
  | nil => simp [mergeAbsent, has, find?]
  | cons kv extra ih =>
    simp only [mergeAbsent, List.foldl_cons] at ih ⊢
    rw [ih, has_insertIfAbsent, has_cons, Bool.or_assoc]

theorem unique_insertIfAbsent {m : StrMap} (hu : m.Unique) (kv : String × String) :
    (m.insertIfAbsent kv).Unique := by
  unfold insertIfAbsent
  split
  · exact hu
  · rename_i h
    simp only [Unique, List.map_append, List.map_cons, List.map_nil] at hu ⊢
    rw [List.nodup_append]
    refine ⟨hu, List.nodup_singleton _, ?_⟩
    simpa [List.disjoint_singleton, has_iff_mem_keys] using h

theorem unique_mergeAbsent {m : StrMap} (hu : m.Unique) (extra : StrMap) :
    (m.mergeAbsent extra).Unique := by
  induction extra generalizing m with
  | nil => exact hu
  | cons kv extra ih => exact ih (unique_insertIfAbsent hu kv)

theorem mem_insertIfAbsent_of_mem {m : StrMap} {e : String × String} (h : e ∈ m)
    (kv : String × String) : e ∈ m.insertIfAbsent kv := by
  unfold insertIfAbsent; split
  · exact h
  · exact List.mem_append_left _ h

theorem mem_mergeAbsent_of_mem {m : StrMap} {e : String × String} (h : e ∈ m)
    (extra : StrMap) : e ∈ m.mergeAbsent extra := by
  induction extra generalizing m with
  | nil => exact h
  | cons kv extra ih => exact ih (mem_insertIfAbsent_of_mem h kv)

/-! ## 3. `matchLabels` -/

/-- `matchLabels` (`loadbalancer.go`): every expected entry is present with its value,
    an absent key reading as `""`. -/
def matchLabels (expected actual : StrMap) : Bool :=
  expected.all fun kv => actual.get kv.1 == kv.2

theorem matchLabels_iff (expected actual : StrMap) :
    matchLabels expected actual = true ↔ ∀ kv ∈ expected, actual.get kv.1 = kv.2 := by
  simp [matchLabels]

/-- A smaller selector matches whatever a larger one does. -/
theorem matchLabels_mono {e e' actual : StrMap} (hs : e ⊆ e')
    (h : matchLabels e' actual = true) : matchLabels e actual = true :=
  (matchLabels_iff _ _).mpr fun kv hkv => (matchLabels_iff _ _).mp h kv (hs hkv)

/-- An object labelled with `m` plus extra entries is matched by the selector `m`. -/
theorem matchLabels_self_mergeAbsent {m : StrMap} (hu : m.Unique) (extra : StrMap) :
    matchLabels m (m.mergeAbsent extra) = true := by
  rw [matchLabels_iff]
  intro kv hkv
  have hhas : m.has kv.1 = true := (has_iff_mem_keys m kv.1).mpr (List.mem_map_of_mem _ hkv)
  rw [get_mergeAbsent, if_pos hhas, get_of_mem hu hkv]

/-- Against a selector with one entry per key, matching reads key by key. -/
theorem matchLabels_iff_get {expected : StrMap} (hu : expected.Unique) (actual : StrMap) :
    matchLabels expected actual = true ↔
      ∀ k, expected.has k = true → actual.get k = expected.get k := by
  rw [matchLabels_iff]
  constructor
  · intro h k hk
    obtain ⟨kv, hkv, rfl⟩ := List.mem_map.mp ((has_iff_mem_keys _ _).mp hk)
    rw [h kv hkv, get_of_mem hu hkv]
  · intro h kv hkv
    rw [h kv.1 ((has_iff_mem_keys _ _).mpr (List.mem_map_of_mem _ hkv)), get_of_mem hu hkv]

theorem matchLabels_self {m : StrMap} (hu : m.Unique) : matchLabels m m = true := by
  simpa [mergeAbsent] using matchLabels_self_mergeAbsent hu []

end StrMap
end ThalassaCcm
