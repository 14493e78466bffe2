import Taskflow.Text.Numeral
/-!
Reading back the integers the tools write.
-/

namespace Taskflow.Text

theorem digitsValue_toDigits (n : Nat) : digitsValue (Nat.toDigits 10 n) = n := by
  have hstep : (fun m (c : Char) => m * 10 + (c.toNat - 48)) =
      fun m c => 10 * m + (c.toNat - '0'.toNat) := by
    funext m c
    rw [Nat.mul_comm]
    rfl
  rw [digitsValue, hstep]
  exact Nat.ofDigitChars_ten_toDigits

theorem isDigit_ascii {c : Char} (h : c.isDigit = true) :
    c.toNat < 127 ∧ isTrimBlank c = false := by
  have hc := Char.isDigit_iff_toNat.mp h
  have h0 : ('0' : Char).toNat = 48 := rfl
  have h9 : ('9' : Char).toNat = 57 := rfl
  refine ⟨by omega, ?_⟩
  have h1 : c ≠ ' ' := fun e => by
    rw [e] at hc
    exact absurd hc (by decide)
  have h2 : ¬ c ≤ '\r' := by
    rw [Char.le_def, UInt32.le_iff_toNat_le, Char.toNat_val]
    simp only [Char.reduceVal, UInt32.reduceToNat]
    omega
  simp [isTrimBlank, h1, h2]

theorem mapM_eq_some_self {f : Char → Option Char} :
    ∀ {cs : List Char}, (∀ c ∈ cs, f c = some c) → cs.mapM f = some cs
  | [], _ => rfl
  | c :: cs, h => by
    rw [List.mapM_cons, h c List.mem_cons_self,
      mapM_eq_some_self fun d hd => h d (List.mem_cons_of_mem c hd)]
    rfl

theorem dropWhile_of_head {p : Char → Bool} {l : List Char} (h : ∀ c ∈ l.head?, p c = false) :
    l.dropWhile p = l := by
  cases l with
  | nil => rfl
  | cons c l => simp [h c rfl]

/-- ASCII text that neither starts nor ends with a blank is a numeral as it stands. -/
theorem asciiNumeral_of_ascii {s : String} (hascii : ∀ c ∈ s.toList, c.toNat < 127)
    (hhead : ∀ c ∈ s.toList.head?, isTrimBlank c = false)
    (hlast : ∀ c ∈ s.toList.getLast?, isTrimBlank c = false) : asciiNumeral s = some s.toList := by
  have hmap : s.toList.mapM (fun c =>
      if c.toNat < 127 then some c
      else if isBlank c then some ' '
      else if isDecimal c then some (Char.ofNat (48 + decimalValue c))
      else none) = some s.toList :=
    mapM_eq_some_self fun c hc => if_pos (hascii c hc)
  have hrev : ∀ c ∈ s.toList.reverse.head?, isTrimBlank c = false := by
    rw [List.head?_reverse]
    exact hlast
  rw [asciiNumeral, hmap]
  show some (((s.toList.dropWhile isTrimBlank).reverse.dropWhile isTrimBlank).reverse) = _
  rw [dropWhile_of_head hhead, dropWhile_of_head hrev, List.reverse_reverse]

theorem joinedDigits_of_isDigit {ds : List Char} (hne : ds ≠ []) (hd : ∀ c ∈ ds, c.isDigit = true) :
    joinedDigits ds = some ds := by
  have hnot : ∀ c ∈ ds, c ≠ '_' := fun c hc h => by
    have := hd c hc
    rw [h] at this
    exact absurd this (by decide)
  have hhead : (ds.head? == some '_') = false := by
    cases ds with
    | nil => exact absurd rfl hne
    | cons c r => simpa using hnot c List.mem_cons_self
  have hlast : (ds.getLast? == some '_') = false := by
    rcases h : ds.getLast? with _ | c
    · rfl
    · simpa using hnot c (List.mem_of_getLast? h)
  have hpairs : (ds.zip ds.tail).any (fun p => p.1 == '_' && p.2 == '_') = false := by
    rw [List.any_eq_false]
    intro p hp
    have h1 := hnot p.1 (List.of_mem_zip hp).1
    simp [h1]
  have hall : ds.all (fun c => c.isDigit || c == '_') = true :=
    List.all_eq_true.2 fun c hc => by simp [hd c hc]
  have hkeep : ds.filter (· != '_') = ds :=
    List.filter_eq_self.2 fun c hc => by simpa using hnot c hc
  simp only [joinedDigits, List.isEmpty_eq_false_iff.2 hne, hhead, hlast, hpairs, hall, hkeep]
  rfl

section Signed

variable (neg : Bool) {ds : List Char}

/-- The characters of a signed numeral: a `-` when it is negative, then its digits. -/
def signed (ds : List Char) : List Char := (if neg then ['-'] else []) ++ ds

theorem asciiNumeral_signed (hne : ds ≠ []) (hds : ∀ c ∈ ds, c.isDigit = true) :
    asciiNumeral (String.ofList (signed neg ds)) = some (signed neg ds) := by
  have hminus : isTrimBlank '-' = false := by decide
  have hread := @asciiNumeral_of_ascii (String.ofList (signed neg ds))
  rw [String.toList_ofList] at hread
  refine hread ?_ ?_ ?_
  · intro c hc
    cases neg
    · exact (isDigit_ascii (hds c (by simpa [signed] using hc))).1
    · rcases List.mem_cons.1 hc with rfl | hc
      · decide
      · exact (isDigit_ascii (hds c hc)).1
  · intro c hc
    obtain ⟨d, r, rfl⟩ := List.exists_cons_of_ne_nil hne
    cases neg
    · simp only [signed, Bool.false_eq_true, if_false, List.nil_append, List.head?_cons,
        Option.mem_def, Option.some.injEq] at hc
      exact hc ▸ (isDigit_ascii (hds d List.mem_cons_self)).2
    · simp only [signed, if_true, List.cons_append, List.nil_append, List.head?_cons,
        Option.mem_def, Option.some.injEq] at hc
      exact hc ▸ hminus
  · intro c hc
    -- the last character is the last digit, whatever the sign
    obtain ⟨d, hd⟩ := Option.isSome_iff_exists.1 (List.getLast?_isSome.2 hne)
    have hlast : (signed neg ds).getLast? = some d := by
      rw [signed, List.getLast?_append, hd]
      rfl
    rw [hlast, Option.mem_def, Option.some.injEq] at hc
    exact hc ▸ (isDigit_ascii (hds d (List.mem_of_getLast? hd))).2

/-- A signed numeral reads as its value, or as too long when it has more than 4300 digits. -/
theorem readInt_digits (hne : ds ≠ []) (hds : ∀ c ∈ ds, c.isDigit = true) :
    readInt (String.ofList (signed neg ds)) = if ds.length > 4300 then .error (.tooLong ds.length)
      else .ok (if neg then -(digitsValue ds : Int) else digitsValue ds) := by
  have hjoin := joinedDigits_of_isDigit hne hds
  have hs := asciiNumeral_signed neg hne hds
  obtain ⟨d, r, rfl⟩ := List.exists_cons_of_ne_nil hne
  -- the sign is read off the first character, which is `-` exactly when the numeral is negative
  have hd := hds d List.mem_cons_self
  have h1 : d ≠ '-' := fun h => absurd (h ▸ hd) (by decide)
  have h2 : d ≠ '+' := fun h => absurd (h ▸ hd) (by decide)
  unfold readInt
  rw [hs]
  dsimp only
  cases neg <;>
    simp only [signed, Bool.false_eq_true, ↓reduceIte, List.nil_append, List.cons_append,
      List.cons.injEq, h1, h2, false_and, imp_self, implies_true, hjoin] <;>
    by_cases hlen : (d :: r).length > 4300 <;> simp only [hlen, ↓reduceIte] <;> rfl

end Signed

theorem length_toString_nat (n : Nat) : (toString n).length = (Nat.toDigits 10 n).length := by
  rw [← String.length_toList]
  exact congrArg List.length Nat.toList_repr

theorem toString_int (K : Int) :
    toString K = String.ofList (signed (decide (K < 0)) (Nat.toDigits 10 K.natAbs)) := by
  cases K with
  | ofNat m =>
    show Nat.repr m = _
    rw [← String.toList_inj, Nat.toList_repr, String.toList_ofList]
    simp [signed]
  | negSucc m =>
    show "-" ++ Nat.repr (m + 1) = _
    simp [signed, ← String.toList_inj, String.toList_append, Nat.toList_repr]

theorem readInt_toString (K : Int) (hK : (toString K.natAbs).length ≤ 4300) :
    readInt (toString K) = .ok K := by
  rw [length_toString_nat] at hK
  rw [toString_int, readInt_digits _ Nat.toDigits_ne_nil
      fun _ hc => Nat.isDigit_of_mem_toDigits (by decide) (by decide) hc,
    if_neg (Nat.not_lt.2 hK), digitsValue_toDigits]
  by_cases hneg : K < 0
  · simp only [hneg, decide_true, if_true]
    rw [Int.ofNat_natAbs_of_nonpos (Int.le_of_lt hneg), Int.neg_neg]
  · simp only [hneg, decide_false, Bool.false_eq_true, if_false]
    rw [Int.natAbs_of_nonneg (Int.not_lt.1 hneg)]

end Taskflow.Text
