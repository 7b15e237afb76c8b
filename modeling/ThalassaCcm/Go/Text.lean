import Mathlib.Data.List.DropRight

/-!
# Go's string and number primitives

The controller decodes every option it reads from a Service's annotations with a few
functions of Go's standard library: `strings.Split`, `strings.TrimSpace`,
`strings.ToLower`, `strconv.Atoi` and `strconv.ParseBool`, and it narrows decoded
integers with the conversions `uint32(·)` and `int32(·)`. This file gives each of them
as a structural function, so that every definition built on them evaluates under
`decide` and `rfl`.

Two of them are narrower than the library, and on purpose:

* `split` is `strings.Split` for a **non-empty** separator. The controller only splits on
  `","`, `"/"` and `"://"`.
* `toLower` folds ASCII letters only. It is applied to protocol names (`TCP`, `UDP`,
  `SCTP` and the cloud's `tcp`/`udp`), which are ASCII; no non-ASCII letter lowers to
  one of the letters of `"udp"` or `"tcp"`, so the comparisons that read its result
  (`buildIngressRulesFromListeners`) decide the same as Go's Unicode fold.

Beside each function stand the laws the parsers built on it need: a split undoes a join
whose pieces hold no separator (`splitAux_intercalate`), and `trimSpace` is idempotent.
-/

set_option autoImplicit false

namespace ThalassaCcm
namespace Go

/-! ## 1. `strings.Split` -/

/-- Prepend a character to the first piece of a split. -/
def consHead (c : Char) : List (List Char) → List (List Char)
  | [] => [[c]]
  | p :: ps => (c :: p) :: ps

/-- The scan behind `strings.Split`, over characters. `skip` counts the characters of a
    matched separator that are still to be dropped; Go's scan resumes after the whole
    occurrence, so occurrences never overlap. -/
def splitAux (sep : List Char) : Nat → List Char → List (List Char)
  | _, [] => [[]]
  | skip + 1, _ :: cs => splitAux sep skip cs
  | 0, c :: cs =>
    if sep.isPrefixOf (c :: cs) then [] :: splitAux sep (sep.length - 1) cs
    else consHead c (splitAux sep 0 cs)

/-- `strings.Split(s, sep)` for a non-empty `sep`: the pieces between the occurrences of
    `sep`, so `split "" "," = [""]` and `split "a,,b" "," = ["a", "", "b"]`. -/
def split (s sep : String) : List String :=
  (splitAux sep.data 0 s.data).map String.mk

theorem splitAux_ne_nil (sep : List Char) (k : Nat) (s : List Char) :
    splitAux sep k s ≠ [] := by
  induction s generalizing k with
  | nil => simp [splitAux]
  | cons c cs ih =>
    cases k with
    | succ k => exact ih k
    | zero =>
      simp only [splitAux]
      split
      · simp
      · cases h : splitAux sep 0 cs with
        | nil => exact absurd h (ih 0)
        | cons p ps => simp [consHead]

/-- A skip drops the rest of a matched separator, whatever follows. -/
theorem splitAux_skip (sep : List Char) (l rest : List Char) :
    splitAux sep l.length (l ++ rest) = splitAux sep 0 rest := by
  induction l with
  | nil => rfl
  | cons c l ih => exact ih

/-- A run of characters none of which starts the separator joins the first piece. -/
theorem splitAux_append_of_not_mem {sep : List Char} {c : Char} (hc : sep.head? = some c)
    (run rest : List Char) (hrun : c ∉ run) :
    splitAux sep 0 (run ++ rest) = run.foldr consHead (splitAux sep 0 rest) := by
  induction run with
  | nil => rfl
  | cons x run ih =>
    have hx : x ≠ c := fun h => hrun (h ▸ List.mem_cons_self _ _)
    have hpre : sep.isPrefixOf (x :: (run ++ rest)) = false := by
      obtain ⟨sep', rfl⟩ : ∃ sep', sep = c :: sep' := by
        cases sep with
        | nil => cases hc
        | cons c' sep' => exact ⟨sep', by cases hc; rfl⟩
      simp [List.isPrefixOf_cons₂, Ne.symm hx]
    rw [List.cons_append, splitAux, hpre, if_neg Bool.false_ne_true,
      ih fun h => hrun (List.mem_cons_of_mem _ h)]
    rfl

/-- An occurrence of the separator closes the first piece. -/
theorem splitAux_sep_append {sep : List Char} (hsep : sep ≠ []) (rest : List Char) :
    splitAux sep 0 (sep ++ rest) = [] :: splitAux sep 0 rest := by
  obtain ⟨c, sep', rfl⟩ := List.exists_cons_of_ne_nil hsep
  have hpre : (c :: sep').isPrefixOf (c :: (sep' ++ rest)) = true :=
    List.isPrefixOf_iff_prefix.mpr (List.prefix_append _ _)
  rw [List.cons_append, splitAux, if_pos hpre, List.length_cons, Nat.add_sub_cancel,
    splitAux_skip]

theorem foldr_consHead_nil (run : List Char) (pieces : List (List Char)) :
    run.foldr consHead ([] :: pieces) = run :: pieces := by
  induction run with
  | nil => rfl
  | cons x run ih => rw [List.foldr_cons, ih]; rfl

/-- With no character of the separator's first in it, a text is one piece. -/
theorem splitAux_of_not_mem {sep : List Char} {c : Char} (hc : sep.head? = some c)
    (s : List Char) (hs : c ∉ s) : splitAux sep 0 s = [s] := by
  have h := splitAux_append_of_not_mem hc s [] hs
  rw [List.append_nil] at h
  rw [h, show splitAux sep 0 [] = [[]] from rfl, foldr_consHead_nil]

/-- **Split undoes a join.** Pieces none of which holds the separator's first character come
    back from their join. -/
theorem splitAux_intercalate {sep : List Char} {c : Char} (hc : sep.head? = some c) :
    ∀ (pieces : List (List Char)), pieces ≠ [] → (∀ p ∈ pieces, c ∉ p) →
      splitAux sep 0 (sep.intercalate pieces) = pieces
  | [p], _, h => by
    rw [show sep.intercalate [p] = p by simp [List.intercalate]]
    exact splitAux_of_not_mem hc p (h p (.head _))
  | p :: q :: pieces, _, h => by
    have hsep : sep ≠ [] := by rintro rfl; cases hc
    rw [show sep.intercalate (p :: q :: pieces) = p ++ (sep ++ sep.intercalate (q :: pieces)) by
        simp [List.intercalate, List.intersperse_cons_cons],
      splitAux_append_of_not_mem hc _ _ (h p (.head _)),
      splitAux_sep_append hsep, splitAux_intercalate hc (q :: pieces) (List.cons_ne_nil _ _)
        fun r hr => h r (.tail _ hr), foldr_consHead_nil]

/-- A one-character separator is in no piece. -/
theorem not_mem_of_mem_splitAux_single (c : Char) (s : List Char) :
    ∀ p ∈ splitAux [c] 0 s, c ∉ p := by
  induction s with
  | nil => simp [splitAux]
  | cons x s ih =>
    by_cases hx : x = c
    · subst hx
      rw [splitAux, if_pos (by simp [List.isPrefixOf])]
      exact List.forall_mem_cons.mpr ⟨List.not_mem_nil _, ih⟩
    · rw [splitAux, if_neg (by simp [List.isPrefixOf, Ne.symm hx])]
      obtain ⟨q, ps, hqs⟩ := List.exists_cons_of_ne_nil (splitAux_ne_nil [c] 0 s)
      rw [hqs] at ih ⊢
      obtain ⟨hq, hps⟩ := List.forall_mem_cons.mp ih
      exact List.forall_mem_cons.mpr ⟨by simp [Ne.symm hx, hq], hps⟩

example : split "10.0.0.0/8,,192.168.0.0/16" "," = ["10.0.0.0/8", "", "192.168.0.0/16"] := by
  decide

example : split "thalassa:///vm-1" "://" = ["thalassa", "/vm-1"] := by decide

/-! ## 2. `strings.TrimSpace` and `strings.ToLower` -/

/-- `unicode.IsSpace`: the Latin-1 spaces and the other `White_Space` code points. -/
def isSpace (c : Char) : Bool :=
  let n := c.toNat
  n = 9 || n = 10 || n = 11 || n = 12 || n = 13 || n = 32 || n = 0x85 || n = 0xA0 ||
    n = 0x1680 || (0x2000 ≤ n && n ≤ 0x200A) || n = 0x2028 || n = 0x2029 || n = 0x202F ||
    n = 0x205F || n = 0x3000

/-- `strings.TrimSpace`: drop leading and trailing `unicode.IsSpace` characters. -/
def trimSpace (s : String) : String :=
  ⟨((s.data.dropWhile isSpace).reverse.dropWhile isSpace).reverse⟩

theorem trimSpace_data (s : String) :
    (trimSpace s).data = (s.data.dropWhile isSpace).rdropWhile isSpace := rfl

/-- Dropping trailing spaces keeps a text that starts with no space starting with none. -/
theorem dropWhile_rdropWhile_isSpace {l : List Char} (h : l.dropWhile isSpace = l) :
    (l.rdropWhile isSpace).dropWhile isSpace = l.rdropWhile isSpace := by
  cases l with
  | nil => rfl
  | cons d l =>
    have hd : ¬ isSpace d = true := fun hd => by
      have hlen := congrArg List.length h
      rw [List.dropWhile_cons_of_pos hd] at hlen
      have : (l.dropWhile isSpace).length ≤ l.length := (List.dropWhile_suffix isSpace).length_le
      simp only [List.length_cons] at hlen
      omega
    rcases List.prefix_cons_iff.mp (List.rdropWhile_prefix isSpace (d :: l)) with h0 | ⟨t, ht, -⟩
    · rw [h0]; rfl
    · rw [ht, List.dropWhile_cons_of_neg hd]

/-- `strings.TrimSpace` is idempotent. -/
theorem trimSpace_trimSpace (s : String) : trimSpace (trimSpace s) = trimSpace s := by
  apply String.ext
  rw [trimSpace_data, trimSpace_data,
    dropWhile_rdropWhile_isSpace (List.dropWhile_idempotent isSpace s.data),
    List.rdropWhile_idempotent]

/-- A trimmed text is a piece of its input. -/
theorem trimSpace_sublist (s : String) : List.Sublist (trimSpace s).data s.data :=
  (List.rdropWhile_prefix isSpace _).sublist.trans (List.dropWhile_suffix isSpace).sublist

/-- `strings.ToLower` on the ASCII protocol names it is applied to (see the module note). -/
def toLower (s : String) : String := ⟨s.data.map Char.toLower⟩

/-! ## 3. `strconv` -/

/-- `strconv.Quote` on text without quotes, backslashes or control characters, which is
    all the error messages below ever quote. -/
def quote (s : String) : String := "\"" ++ s ++ "\""

/-- `strconv.ParseBool`. -/
def parseBool (s : String) : Except String Bool :=
  if s ∈ ["1", "t", "T", "TRUE", "true", "True"] then .ok true
  else if s ∈ ["0", "f", "F", "FALSE", "false", "False"] then .ok false
  else .error ("strconv.ParseBool: parsing " ++ quote s ++ ": invalid syntax")

/-- The value `strconv.ParseBool` returns beside its error: `false` when it fails, which
    is what `b, _ := strconv.ParseBool(val)` keeps. -/
def parseBoolValue (s : String) : Bool :=
  match parseBool s with
  | .ok b => b
  | .error _ => false

/-- The value of a run of decimal digits, most significant first. -/
def digitsValue : List Char → Nat → Nat
  | [], acc => acc
  | c :: cs, acc => digitsValue cs (10 * acc + (c.toNat - '0'.toNat))

/-- `strconv.Atoi` on a 64-bit platform: an optional sign, then one or more decimal
    digits, with the value in `[-2^63, 2^63)`. The value Go returns beside an error is
    never read by this controller, so only the error is kept. -/
def atoi (s : String) : Except String Int :=
  let (neg, body) : Bool × List Char :=
    match s.data with
    | '-' :: cs => (true, cs)
    | '+' :: cs => (false, cs)
    | cs => (false, cs)
  if body = [] ∨ ¬ body.all Char.isDigit then
    .error ("strconv.Atoi: parsing " ++ quote s ++ ": invalid syntax")
  else
    let n : Int := if neg then -(digitsValue body 0 : Int) else digitsValue body 0
    if n < -9223372036854775808 ∨ 9223372036854775807 < n then
      .error ("strconv.Atoi: parsing " ++ quote s ++ ": value out of range")
    else .ok n

/-! ### Decimal text

`toString` writes a number with `Nat.toDigits 10`, as `strconv.Itoa` does; `digitsValue`
reads it back. -/

theorem toDigitsCore_succ (fuel n : Nat) (ds : List Char) :
    Nat.toDigitsCore 10 (fuel + 1) n ds =
      if n / 10 = 0 then Nat.digitChar (n % 10) :: ds
      else Nat.toDigitsCore 10 fuel (n / 10) (Nat.digitChar (n % 10) :: ds) := rfl

theorem toDigitsCore_append (fuel n : Nat) (ds : List Char) :
    Nat.toDigitsCore 10 fuel n ds = Nat.toDigitsCore 10 fuel n [] ++ ds := by
  induction fuel generalizing n ds with
  | zero => rfl
  | succ fuel ih =>
    simp only [toDigitsCore_succ]
    split
    · rfl
    · rw [ih _ (_ :: ds), ih _ [_], List.append_assoc, List.singleton_append]

theorem digitsValue_append (l l' : List Char) (acc : Nat) :
    digitsValue (l ++ l') acc = digitsValue l' (digitsValue l acc) := by
  induction l generalizing acc with
  | nil => rfl
  | cons c l ih => exact ih _

theorem digitChar_digit : ∀ k < 10,
    (Nat.digitChar k).isDigit = true ∧ (Nat.digitChar k).toNat - '0'.toNat = k := by
  decide

/-- With enough fuel, the decimal text of a number is a non-empty run of digits whose value
    is the number. -/
theorem toDigitsCore_spec (n : Nat) : ∀ fuel, n < fuel →
    Nat.toDigitsCore 10 fuel n [] ≠ [] ∧ (∀ c ∈ Nat.toDigitsCore 10 fuel n [], c.isDigit = true) ∧
      digitsValue (Nat.toDigitsCore 10 fuel n []) 0 = n := by
  induction n using Nat.strong_induction_on with
  | _ n ih =>
    intro fuel hfuel
    obtain ⟨f, rfl⟩ : ∃ f, fuel = f + 1 := ⟨fuel - 1, by omega⟩
    have hd := digitChar_digit (n % 10) (Nat.mod_lt _ (by decide))
    simp only [toDigitsCore_succ]
    split
    next h0 =>
      refine ⟨List.cons_ne_nil _ _, by simpa using hd.1, ?_⟩
      simp only [digitsValue, hd.2]
      omega
    next h0 =>
      obtain ⟨-, hall, hval⟩ := ih (n / 10) (by omega) f (by omega)
      rw [toDigitsCore_append]
      refine ⟨by simp, fun c hc => ?_, ?_⟩
      · rcases List.mem_append.mp hc with hc | hc
        exacts [hall c hc, (List.mem_singleton.mp hc) ▸ hd.1]
      · rw [digitsValue_append, hval]
        simp only [digitsValue, hd.2]
        omega

theorem toString_data (n : Nat) : (toString n).data = Nat.toDigitsCore 10 (n + 1) n [] := rfl

theorem toString_injective : Function.Injective (toString : Nat → String) := fun a b h => by
  have ha := (toDigitsCore_spec a _ (Nat.lt_succ_self a)).2.2
  have hb := (toDigitsCore_spec b _ (Nat.lt_succ_self b)).2.2
  rw [← toString_data, h, toString_data] at ha
  exact ha.symm.trans hb

/-- **`strconv.Atoi` reads back what `toString` writes**, over Go's 64-bit range. -/
theorem atoi_toString (i : Int) (h0 : -9223372036854775808 ≤ i) (h1 : i ≤ 9223372036854775807) :
    atoi (toString i) = .ok i := by
  have hbody : ∀ m : Nat, ∃ c cs, (toString m).data = c :: cs ∧ c ≠ '-' ∧ c ≠ '+' ∧
      (c :: cs).all Char.isDigit = true ∧ digitsValue (c :: cs) 0 = m := by
    intro m
    obtain ⟨hne, hall, hval⟩ := toDigitsCore_spec m _ (Nat.lt_succ_self m)
    obtain ⟨c, cs, hcs⟩ := List.exists_cons_of_ne_nil hne
    have hc := hall c (hcs ▸ List.mem_cons_self _ _)
    exact ⟨c, cs, hcs, fun h => by simp [h] at hc, fun h => by simp [h] at hc,
      List.all_eq_true.mpr (hcs ▸ hall), hcs ▸ hval⟩
  cases i with
  | ofNat m =>
    obtain ⟨c, cs, hcs, hm, hp, hall, hval⟩ := hbody m
    have hdata : (toString (Int.ofNat m)).data = c :: cs := hcs
    rw [Int.ofNat_eq_coe] at h1
    have hr : ¬ ((m : Int) < -9223372036854775808 ∨ 9223372036854775807 < (m : Int)) := by
      omega
    simp only [atoi, hdata]
    split <;> simp_all
  | negSucc m =>
    obtain ⟨c, cs, hcs, -, -, hall, hval⟩ := hbody (m + 1)
    have hdata : (toString (Int.negSucc m)).data = '-' :: c :: cs := by
      show ("-" ++ toString (m + 1)).data = _
      rw [String.data_append, hcs]
      rfl
    rw [Int.negSucc_eq] at h0
    simp only [atoi, hdata]
    simp [hall, hval, Int.negSucc_eq]
    omega

example : atoi "-42" = .ok (-42) := rfl
example : atoi "4_2" = .error "strconv.Atoi: parsing \"4_2\": invalid syntax" := rfl

/-! ## 4. Integer conversions -/

/-- Go's `uint32(x)` of an `int`: the low 32 bits. -/
def toUInt32 (x : Int) : Nat := (x % 4294967296).toNat

/-- Go's `int32(x)` of an `int`: the low 32 bits, read as two's complement. -/
def toInt32 (x : Int) : Int := (x + 2147483648) % 4294967296 - 2147483648

/-- `uint32(·)` keeps every value in `[0, 2^32)`. -/
theorem toUInt32_of_range {x : Int} (h0 : 0 ≤ x) (h : x < 4294967296) : toUInt32 x = x.toNat := by
  rw [toUInt32, Int.emod_eq_of_lt h0 h]

/-- `int32(·)` keeps every value in `[-2^31, 2^31)`. -/
theorem toInt32_of_range {x : Int} (h0 : -2147483648 ≤ x) (h : x < 2147483648) :
    toInt32 x = x := by
  rw [toInt32, Int.emod_eq_of_lt (by omega) (by omega)]
  omega

end Go
end ThalassaCcm
