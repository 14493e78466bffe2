import Taskflow.Proofs.Json.SortPerm
import Mathlib.Data.List.InsertIdx
import Mathlib.Data.List.Nodup
/-!
The sort is a stable sort. When the comparison never fails and is a strict weak order, the
sort reaches no fault and gives exactly what the library's stable merge sort gives for the
order "not less" (`sortAsc_eq_mergeSort`); sorting descending by a text key is the stable
merge sort by that key downwards (`sortByKey_desc_eq_mergeSort`).
-/

namespace Taskflow.Json

/-! ## The sort sees items only through the comparison -/

def Sorting.map {α β : Type} (f : β → α) (s : Sorting β) : Sorting α :=
  { items := s.items.map f, fault := s.fault }

section Map

variable {α β : Type} (lt : α → α → Except Fault Bool) (f : β → α)

theorem ascRun_map : ∀ (p : β) (ys : List β) (n : Nat),
    ascRun (fun a b => lt (f a) (f b)) p ys n = ascRun lt (f p) (ys.map f) n
  | _, [], _ => rfl
  | p, x :: rest, n => by simp only [ascRun, List.map_cons, ascRun_map x rest]

theorem descRun_map : ∀ (p : β) (ys : List β) (n : Nat),
    descRun (fun a b => lt (f a) (f b)) p ys n = descRun lt (f p) (ys.map f) n
  | _, [], _ => rfl
  | p, x :: rest, n => by simp only [descRun, List.map_cons, descRun_map x rest]

theorem frontRun_map (ys : List β) :
    frontRun (fun a b => lt (f a) (f b)) ys = frontRun lt (ys.map f) := by
  match ys with
  | [] => rfl
  | [_] => rfl
  | a :: b :: rest => simp only [frontRun, List.map_cons, ascRun_map, descRun_map]

theorem slotIn_map (xs : List β) (x : β) (l r : Nat) :
    slotIn (fun a b => lt (f a) (f b)) xs x l r = slotIn lt (xs.map f) (f x) l r := by
  induction l, r using slotIn.induct xs with
  | case1 l r hl p y hy ih₁ ih₂ =>
    have hy' : (xs.map f)[l + (r - l) / 2]? = some (f y) := by
      rw [List.getElem?_map, show xs[l + (r - l) / 2]? = some y from hy, Option.map_some]
    rw [slotIn, slotIn]
    simp only [hl, ↓reduceIte, show xs[l + (r - l) / 2]? = some y from hy, hy']
    simp only [p] at ih₁ ih₂
    rw [ih₁, ih₂]
  | case2 l r hl p hy =>
    have hy' : (xs.map f)[l + (r - l) / 2]? = none := by
      rw [List.getElem?_map, show xs[l + (r - l) / 2]? = none from hy, Option.map_none]
    rw [slotIn, slotIn]
    simp only [hl, ↓reduceIte, show xs[l + (r - l) / 2]? = none from hy, hy']
  | case3 l r hl =>
    rw [slotIn, slotIn]
    simp only [hl, ↓reduceIte]

theorem insertFrom_map (stop : Nat) : ∀ (fuel : Nat) (xs : List β) (k : Nat),
    (insertFrom (fun a b => lt (f a) (f b)) stop fuel xs k).map f =
      insertFrom lt stop fuel (xs.map f) k
  | 0, xs, k => rfl
  | fuel + 1, xs, k => by
    rw [insertFrom, insertFrom]
    split
    · rw [List.getElem?_map]
      cases hx : xs[k]? with
      | none => rfl
      | some x =>
        simp only [Option.map_some, slotIn_map]
        cases slotIn lt (xs.map f) (f x) 0 k with
        | error e => rfl
        | ok j =>
          simp only
          rw [insertFrom_map stop fuel, List.map_append, List.map_insertIdx, List.map_take,
            List.map_drop]
    · rfl

theorem sortBlock_map (xs : List β) :
    (sortBlock (fun a b => lt (f a) (f b)) xs).map f = sortBlock lt (xs.map f) := by
  unfold sortBlock
  rw [List.length_map, frontRun_map]
  split
  · rfl
  · cases frontRun lt (xs.map f) with
    | error e => rfl
    | ok nd =>
      obtain ⟨n, desc⟩ := nd
      simp only
      rw [insertFrom_map]
      cases desc <;> simp [List.map_append, List.map_reverse, List.map_take, List.map_drop]

theorem mergeRuns_map : ∀ (xs ys : List β),
    (mergeRuns (fun a b => lt (f a) (f b)) xs ys).map (List.map f) =
      mergeRuns lt (xs.map f) (ys.map f)
  | [], ys => by simp [mergeRuns, Except.map]
  | x :: xs, [] => by simp [mergeRuns, Except.map]
  | x :: xs, y :: ys => by
    simp only [mergeRuns, List.map_cons]
    cases lt (f y) (f x) with
    | error e => rfl
    | ok b =>
      cases b with
      | true =>
        have h := mergeRuns_map (x :: xs) ys
        simp only [List.map_cons] at h
        simp only [bind, Except.bind, ↓reduceIte]
        rw [← h]
        cases mergeRuns (fun a b => lt (f a) (f b)) (x :: xs) ys <;> rfl
      | false =>
        have h := mergeRuns_map xs (y :: ys)
        simp only [List.map_cons] at h
        simp only [bind, Except.bind, Bool.false_eq_true, ↓reduceIte]
        rw [← h]
        cases mergeRuns (fun a b => lt (f a) (f b)) xs (y :: ys) <;> rfl

theorem blocks_map (size : Nat) : ∀ (fuel : Nat) (xs : List β),
    blocks lt size fuel (xs.map f) =
      ((blocks (fun a b => lt (f a) (f b)) size fuel xs).1.map (List.map f),
        (blocks (fun a b => lt (f a) (f b)) size fuel xs).2)
  | 0, xs => rfl
  | fuel + 1, xs => by
    rw [blocks, blocks, List.isEmpty_map, frontRun_map lt f xs]
    split
    · rfl
    · cases frontRun lt (xs.map f) with
      | error e => rfl
      | ok nd =>
        obtain ⟨n, desc⟩ := nd
        -- the front turned round is the image of the front turned round
        have hys : (if desc then ((xs.map f).take n).reverse ++ (xs.map f).drop n else xs.map f) =
            (if desc then (xs.take n).reverse ++ xs.drop n else xs).map f := by
          cases desc <;> simp [List.map_reverse, List.map_take, List.map_drop]
        simp only [List.length_map]
        rw [hys]
        generalize (if desc then (xs.take n).reverse ++ xs.drop n else xs) = ys
        generalize max n (min size xs.length) = len
        rw [← List.map_take, ← insertFrom_map]
        simp only [Sorting.map]
        cases (insertFrom (fun a b => lt (f a) (f b)) len len (ys.take len) n).fault with
        | some e => simp [List.map_drop]
        | none =>
          simp only
          rw [← List.map_drop, blocks_map size fuel, List.map_cons]

theorem mergeAll_go_map : ∀ (acc : List β) (bs : List (List β)),
    (mergeAll.go (fun a b => lt (f a) (f b)) acc bs).map f =
      mergeAll.go lt (acc.map f) (bs.map (List.map f))
  | acc, [] => rfl
  | acc, b :: bs => by
    rw [mergeAll.go, List.map_cons, mergeAll.go, ← mergeRuns_map]
    cases mergeRuns (fun a b => lt (f a) (f b)) acc b with
    | error e => simp [Sorting.map, Except.map, List.map_flatten]
    | ok m => exact mergeAll_go_map m bs

theorem sortAsc_map (xs : List β) :
    (sortAsc (fun a b => lt (f a) (f b)) xs).map f = sortAsc lt (xs.map f) := by
  unfold sortAsc
  rw [List.length_map]
  split
  · exact sortBlock_map lt f xs
  · rw [blocks_map]
    cases blocks (fun a b => lt (f a) (f b)) (minBlock xs.length) xs.length xs with
    | mk bs e =>
      cases e with
      | some e => simp [Sorting.map, List.map_flatten]
      | none =>
        cases bs with
        | nil => rfl
        | cons b bs => exact mergeAll_go_map lt f b bs

end Map

/-! ## Tagged items kept in order -/

section Stable

variable {γ : Type} {le : γ → γ → Bool}

def TagsRise (ys : List (γ × Nat)) : Prop := ys.Pairwise fun p q => p.2 < q.2

/-- Every tag of the first list lies below every tag of the second. -/
def TagsApart (b c : List (γ × Nat)) : Prop := ∀ p ∈ b, ∀ q ∈ c, p.2 < q.2

def KeyOrdered (le : γ → γ → Bool) (ys : List (γ × Nat)) : Prop :=
  ys.Pairwise fun p q => List.zipIdxLE le p q = true

theorem zipIdxLE_of_tag_lt {p q : γ × Nat} (htag : p.2 < q.2) (hle : le p.1 q.1 = true) :
    List.zipIdxLE le p q = true := by
  unfold List.zipIdxLE
  simp only [hle, ↓reduceIte]
  split <;> simp; omega

theorem zipIdxLE_of_not_le (total : ∀ a b, (le a b || le b a) = true) {p q : γ × Nat}
    (h : le q.1 p.1 = false) : List.zipIdxLE le p q = true := by
  have hpq : le p.1 q.1 = true := by simpa [h] using total p.1 q.1
  unfold List.zipIdxLE
  simp [hpq, h]

theorem le_of_zipIdxLE {p q : γ × Nat} (h : List.zipIdxLE le p q = true) : le p.1 q.1 = true := by
  unfold List.zipIdxLE at h
  split at h
  · assumption
  · cases h

theorem TagsRise.tail {p : γ × Nat} {ys : List (γ × Nat)} (h : TagsRise (p :: ys)) : TagsRise ys :=
  List.Pairwise.of_cons h

/-- An item before the head of a pairwise ordered list comes before all of it, for a transitive
order. -/
theorem pairwise_cons_of_head {α : Type} {R : α → α → Prop} (trans : ∀ a b c, R a b → R b c → R a c)
    {p x : α} {xs : List α} (hp : R p x) (h : (x :: xs).Pairwise R) : (p :: x :: xs).Pairwise R := by
  refine List.Pairwise.cons (fun y hy => ?_) h
  rcases List.mem_cons.1 hy with rfl | hy
  · exact hp
  · exact trans _ _ _ hp (List.rel_of_pairwise_cons h hy)

variable {lt : γ × Nat → γ × Nat → Except Fault Bool}

section Runs

variable (hlt : ∀ p q, lt p q = .ok (!le q.1 p.1)) (trans : ∀ a b c, le a b → le b c → le a c)
  (total : ∀ a b, (le a b || le b a) = true)
include hlt trans

/-- A rising run: each item not less than the one before, so ordered with the rising tags. -/
theorem ascRun_spec : ∀ (p : γ × Nat) (ys : List (γ × Nat)) (n : Nat), TagsRise (p :: ys) →
    ∃ k ≤ ys.length, ascRun lt p ys n = .ok (n + k) ∧ KeyOrdered le (p :: ys.take k)
  | p, [], n, _ => ⟨0, Nat.le_refl _, rfl, List.pairwise_singleton _ _⟩
  | p, x :: rest, n, hr => by
    have hx : p.2 < x.2 := List.rel_of_pairwise_cons hr List.mem_cons_self
    cases hpx : le p.1 x.1 with
    | false =>
      refine ⟨0, Nat.zero_le _, ?_, List.pairwise_singleton _ _⟩
      simp [ascRun, hlt, hpx, bind, Except.bind, pure, Except.pure]
    | true =>
      obtain ⟨k, hk, hrun, hord⟩ := ascRun_spec x rest (n + 1) hr.tail
      refine ⟨k + 1, by simp only [List.length_cons]; omega, ?_, ?_⟩
      · simp only [ascRun, hlt, hpx, bind, Except.bind, Bool.not_true, Bool.false_eq_true,
          ↓reduceIte, hrun]
        congr 1
        omega
      · -- the first item comes before the second, and so before the whole run
        rw [List.take_succ_cons]
        have hp : List.zipIdxLE le p x = true := zipIdxLE_of_tag_lt hx hpx
        exact pairwise_cons_of_head (List.zipIdxLE_trans trans) hp hord

include total

/-- A strictly falling run: turned round, it rises strictly by key. -/
theorem descRun_spec : ∀ (p : γ × Nat) (ys : List (γ × Nat)) (n : Nat),
    ∃ k ≤ ys.length, descRun lt p ys n = .ok (n + k) ∧
      (p :: ys.take k).Pairwise fun a b => List.zipIdxLE le b a = true
  | p, [], n => ⟨0, Nat.le_refl _, rfl, List.pairwise_singleton _ _⟩
  | p, x :: rest, n => by
    cases hpx : le p.1 x.1 with
    | true =>
      refine ⟨0, Nat.zero_le _, ?_, List.pairwise_singleton _ _⟩
      simp [descRun, hlt, hpx, bind, Except.bind, pure, Except.pure]
    | false =>
      obtain ⟨k, hk, hrun, hord⟩ := descRun_spec x rest (n + 1)
      refine ⟨k + 1, by simp only [List.length_cons]; omega, ?_, ?_⟩
      · simp only [descRun, hlt, hpx, bind, Except.bind, Bool.not_false, ↓reduceIte, hrun]
        congr 1
        omega
      · rw [List.take_succ_cons]
        have hp : List.zipIdxLE le x p = true := zipIdxLE_of_not_le total hpx
        exact pairwise_cons_of_head (fun a b c hab hbc => List.zipIdxLE_trans trans c b a hbc hab)
          hp hord

/-- The run at the front of a nonempty list with rising tags, turned round if it falls, is
ordered. -/
theorem frontRun_spec : ∀ (xs : List (γ × Nat)), TagsRise xs → xs ≠ [] →
    ∃ n desc, frontRun lt xs = .ok (n, desc) ∧ 0 < n ∧ n ≤ xs.length ∧
      KeyOrdered le (if desc then (xs.take n).reverse else xs.take n)
  | [], _, hne => absurd rfl hne
  | [a], _, _ => ⟨1, false, rfl, Nat.one_pos, Nat.le_refl _, List.pairwise_singleton _ _⟩
  | a :: b :: rest, hr, _ => by
    cases hab : le a.1 b.1 with
    | false =>
      -- `b` is less than `a`: a falling run, turned round
      obtain ⟨k, hk, hrun, hord⟩ := descRun_spec hlt trans total b rest 2
      refine ⟨2 + k, true, ?_, by omega, by simp only [List.length_cons]; omega, ?_⟩
      · simp only [frontRun, hlt, hab, bind, Except.bind, Bool.not_false, ↓reduceIte, hrun]
        rfl
      · have hp : List.zipIdxLE le b a = true := zipIdxLE_of_not_le total hab
        have hfall : (a :: b :: rest.take k).Pairwise fun x y => List.zipIdxLE le y x = true :=
          pairwise_cons_of_head (fun a b c hab hbc => List.zipIdxLE_trans trans c b a hbc hab) hp hord
        simp only [↓reduceIte, show 2 + k = k + 1 + 1 by omega, List.take_succ_cons]
        exact List.pairwise_reverse.2 hfall
    | true =>
      obtain ⟨k, hk, hrun, hord⟩ := ascRun_spec hlt trans b rest 2 hr.tail
      refine ⟨2 + k, false, ?_, by omega, by simp only [List.length_cons]; omega, ?_⟩
      · simp only [frontRun, hlt, hab, bind, Except.bind, Bool.not_true, Bool.false_eq_true,
          ↓reduceIte, hrun]
        rfl
      · have hp : List.zipIdxLE le a b = true :=
          zipIdxLE_of_tag_lt (List.rel_of_pairwise_cons hr List.mem_cons_self) hab
        simp only [Bool.false_eq_true, ↓reduceIte, show 2 + k = k + 1 + 1 by omega,
          List.take_succ_cons]
        exact pairwise_cons_of_head (List.zipIdxLE_trans trans) hp hord

end Runs

/-! ### The binary search and one insertion -/

/-- Items of an ordered front compare by key in the order of their positions. -/
theorem KeyOrdered.le_at (total : ∀ a b, (le a b || le b a) = true) {xs : List (γ × Nat)}
    {k : Nat} (h : KeyOrdered le (xs.take k)) :
    ∀ i j a b, i ≤ j → j < k → xs[i]? = some a → xs[j]? = some b → le a.1 b.1 = true := by
  intro i j a b hij hjk ha hb
  rcases Nat.lt_or_eq_of_le hij with hij | rfl
  · have ha' : (xs.take k)[i]? = some a := by rw [List.getElem?_take_of_lt (by omega)]; exact ha
    have hb' : (xs.take k)[j]? = some b := by rw [List.getElem?_take_of_lt hjk]; exact hb
    obtain ⟨hi, rfl⟩ := List.getElem?_eq_some_iff.1 ha'
    obtain ⟨hj, rfl⟩ := List.getElem?_eq_some_iff.1 hb'
    exact le_of_zipIdxLE (List.pairwise_iff_getElem.1 h i j hi hj hij)
  · obtain rfl : a = b := Option.some.inj (ha.symm.trans hb)
    simpa using total a.1 a.1

section Slot

variable (hlt : ∀ p q, lt p q = .ok (!le q.1 p.1)) (trans : ∀ a b c, le a b → le b c → le a c)
include hlt trans

/-- The binary search over an ordered front finds the slot after every item that `x` is not
less than and before every item it is less than. -/
theorem slotIn_spec (xs : List (γ × Nat)) (x : γ × Nat) {k : Nat} (hk : k ≤ xs.length)
    (hs : ∀ i j a b, i ≤ j → j < k → xs[i]? = some a → xs[j]? = some b → le a.1 b.1 = true)
    (l r : Nat) (hlr : l ≤ r) (hrk : r ≤ k)
    (hl : ∀ i a, i < l → xs[i]? = some a → le a.1 x.1 = true)
    (hr : ∀ i a, r ≤ i → i < k → xs[i]? = some a → le a.1 x.1 = false) :
    ∃ j, slotIn lt xs x l r = .ok j ∧ j ≤ k ∧
      (∀ i a, i < j → xs[i]? = some a → le a.1 x.1 = true) ∧
      (∀ i a, j ≤ i → i < k → xs[i]? = some a → le a.1 x.1 = false) := by
  induction l, r using slotIn.induct xs with
  | case1 l r hlt' p y hy ih₁ ih₂ =>
    have hy' : xs[l + (r - l) / 2]? = some y := hy
    have hp : l + (r - l) / 2 < k := by omega
    rw [slotIn]
    simp only [hlt', ↓reduceIte, hy', hlt, bind, Except.bind]
    cases hyx : le y.1 x.1 with
    | false =>
      -- `x` is less than the middle item: the slot lies in the left half
      simp only [Bool.not_false, ↓reduceIte]
      refine ih₁ (by omega) (by omega) hl fun i a hpi hik ha => ?_
      rcases Nat.lt_or_ge i r with hir | hir
      · cases hax : le a.1 x.1 with
        | false => rfl
        | true =>
          have := trans _ _ _ (hs _ i y a hpi hik hy' ha) hax
          rw [hyx] at this
          cases this
      · exact hr i a hir hik ha
    | true =>
      -- `x` is not less than the middle item: the slot lies in the right half
      simp only [Bool.not_true, Bool.false_eq_true, ↓reduceIte]
      refine ih₂ (by omega) hrk (fun i a hip ha => ?_) hr
      exact trans _ _ _ (hs i _ a y (by omega) hp ha hy') hyx
  | case2 l r hlt' p hy =>
    have hy' : xs[l + (r - l) / 2]? = none := hy
    rw [List.getElem?_eq_none_iff] at hy'
    omega
  | case3 l r hge =>
    refine ⟨l, by rw [slotIn]; simp [hge], by omega, hl, fun i a hli hik ha => hr i a (by omega) hik ha⟩

end Slot

/-- `insertIdx` puts the item between the first `j` items and the rest. -/
theorem insertIdx_eq_take_drop {α : Type} (x : α) :
    ∀ (l : List α) (j : Nat), j ≤ l.length → l.insertIdx j x = l.take j ++ x :: l.drop j
  | _, 0, _ => by simp
  | [], _ + 1, h => by simp at h
  | a :: l, j + 1, h => by
    rw [List.insertIdx_succ_cons, insertIdx_eq_take_drop x l j (by simpa using h)]
    rfl

theorem exists_index_of_mem_take_take {α : Type} {xs : List α} {j k : Nat} (hjk : j ≤ k) {a : α}
    (ha : a ∈ (xs.take k).take j) : ∃ i < j, xs[i]? = some a := by
  rw [List.take_take, Nat.min_eq_left hjk, List.mem_take_iff_getElem] at ha
  obtain ⟨i, hi, rfl⟩ := ha
  exact ⟨i, by omega, List.getElem?_eq_getElem _⟩

theorem exists_index_of_mem_drop_take {α : Type} {xs : List α} {j k : Nat} {b : α}
    (hb : b ∈ (xs.take k).drop j) : ∃ i, j ≤ i ∧ i < k ∧ xs[i]? = some b := by
  rw [List.mem_drop_iff_getElem] at hb
  obtain ⟨i, hi, rfl⟩ := hb
  simp only [List.length_take] at hi
  exact ⟨j + i, by omega, by omega, by rw [List.getElem_take]; exact List.getElem?_eq_getElem _⟩

section Insert

variable (hlt : ∀ p q, lt p q = .ok (!le q.1 p.1)) (trans : ∀ a b c, le a b → le b c → le a c)
  (total : ∀ a b, (le a b || le b a) = true)

/-- The front of a list sorted by insertion: ordered, every tag in it below every tag after it,
and the tags after it rising. -/
structure InsertState (le : γ → γ → Bool) (xs : List (γ × Nat)) (k : Nat) : Prop where
  ordered : KeyOrdered le (xs.take k)
  apart : TagsApart (xs.take k) (xs.drop k)
  rise : TagsRise (xs.drop k)

include total in
/-- Moving item `k` into the slot the search found keeps the front ordered, one item longer. -/
theorem InsertState.insert {xs : List (γ × Nat)} {k j : Nat} {x : γ × Nat} (h : InsertState le xs k)
    (hx : xs[k]? = some x) (hjk : j ≤ k)
    (hbefore : ∀ i a, i < j → xs[i]? = some a → le a.1 x.1 = true)
    (hafter : ∀ i a, j ≤ i → i < k → xs[i]? = some a → le a.1 x.1 = false) :
    ((xs.take k).insertIdx j x ++ xs.drop (k + 1)).length = xs.length ∧
      InsertState le ((xs.take k).insertIdx j x ++ xs.drop (k + 1)) (k + 1) := by
  have hk : k < xs.length := (List.getElem?_eq_some_iff.1 hx).1
  have hsplit : xs.drop k = x :: xs.drop (k + 1) := by
    rw [List.drop_eq_getElem_cons hk, (List.getElem?_eq_some_iff.1 hx).2]
  have hjk' : j ≤ (xs.take k).length := by simp only [List.length_take]; omega
  have hlen : ((xs.take k).insertIdx j x).length = k + 1 := by
    rw [List.length_insertIdx_of_le_length hjk', List.length_take]
    omega
  have hrise : TagsRise (x :: xs.drop (k + 1)) := hsplit ▸ h.rise
  refine ⟨by simp only [List.length_append, hlen, List.length_drop]; omega, ?_, ?_, ?_⟩
  · -- the front with `x` in its slot
    rw [List.take_left' hlen, insertIdx_eq_take_drop x _ j hjk']
    have hfront := h.ordered
    rw [← List.take_append_drop j (xs.take k)] at hfront
    obtain ⟨hleft, hright, hcross⟩ := List.pairwise_append.1 hfront
    refine List.pairwise_append.2 ⟨hleft, List.Pairwise.cons (fun b hb => ?_) hright, ?_⟩
    · obtain ⟨i, hji, hik, hb⟩ := exists_index_of_mem_drop_take hb
      exact zipIdxLE_of_not_le total (hafter i b hji hik hb)
    · intro a ha b hb
      rcases List.mem_cons.1 hb with rfl | hb
      · obtain ⟨i, hij, ha'⟩ := exists_index_of_mem_take_take hjk ha
        have htag : a.2 < b.2 :=
          h.apart a (List.take_subset j _ ha) b (by rw [hsplit]; exact List.mem_cons_self)
        exact zipIdxLE_of_tag_lt htag (hbefore i a hij ha')
      · exact hcross a ha b hb
  · -- every tag in the new front is below the tags after it
    rw [List.take_left' hlen, List.drop_left' hlen]
    intro p hp q hq
    rcases (List.mem_insertIdx hjk').1 hp with rfl | hp
    · exact List.rel_of_pairwise_cons hrise hq
    · exact h.apart p hp q (by rw [hsplit]; exact List.mem_cons_of_mem _ hq)
  · rw [List.drop_left' hlen]
    exact hrise.tail

include hlt trans total in
/-- Inserting the items from `k` on, each into its slot, orders the whole list. -/
theorem insertFrom_spec (stop : Nat) : ∀ (fuel : Nat) (xs : List (γ × Nat)) (k : Nat),
    xs.length = stop → stop ≤ k + fuel → k ≤ stop → InsertState le xs k →
      (insertFrom lt stop fuel xs k).fault = none ∧ KeyOrdered le (insertFrom lt stop fuel xs k).items
  | 0, xs, k, hlen, hfuel, _, h => by
    have hall : xs.take k = xs := List.take_of_length_le (by omega)
    exact ⟨rfl, hall ▸ h.ordered⟩
  | fuel + 1, xs, k, hlen, hfuel, hks, h => by
    rw [insertFrom]
    by_cases hk : k < stop
    · obtain ⟨x, hx⟩ : ∃ x, xs[k]? = some x := ⟨xs[k], List.getElem?_eq_getElem (by omega)⟩
      obtain ⟨j, hslot, hjk, hbefore, hafter⟩ := slotIn_spec hlt trans xs x (by omega)
        (h.ordered.le_at total) 0 k (Nat.zero_le _) (Nat.le_refl _) (fun _ _ h => absurd h (by omega))
        (fun _ _ h₁ h₂ => absurd h₂ (by omega))
      obtain ⟨hlen', h'⟩ := h.insert total hx hjk hbefore hafter
      simp only [hk, ↓reduceIte, hx, hslot]
      exact insertFrom_spec stop fuel _ (k + 1) (by omega) (by omega) (by omega) h'
    · have hall : xs.take k = xs := List.take_of_length_le (by omega)
      rw [if_neg hk]
      exact ⟨rfl, hall ▸ h.ordered⟩

/-- A list with rising tags whose front of `n` items, turned round if it falls, is ordered is
ready for insertion from `n` on. -/
theorem InsertState.of_front {xs : List (γ × Nat)} {n : Nat} {desc : Bool} (hn : n ≤ xs.length)
    (hr : TagsRise xs) (hord : KeyOrdered le (if desc then (xs.take n).reverse else xs.take n)) :
    InsertState le (if desc then (xs.take n).reverse ++ xs.drop n else xs) n := by
  have hcut : TagsApart (xs.take n) (xs.drop n) := by
    have h := hr
    rw [TagsRise, ← List.take_append_drop n xs] at h
    exact (List.pairwise_append.1 h).2.2
  have hrest : TagsRise (xs.drop n) := List.Pairwise.sublist (List.drop_sublist n xs) hr
  cases desc with
  | false => exact ⟨hord, hcut, hrest⟩
  | true =>
    have hlen : (xs.take n).reverse.length = n := by simp only [List.length_reverse, List.length_take]; omega
    simp only [↓reduceIte] at hord ⊢
    refine ⟨by rwa [List.take_left' hlen], ?_, by rwa [List.drop_left' hlen]⟩
    rw [List.take_left' hlen, List.drop_left' hlen]
    exact fun p hp q hq => hcut p (List.mem_reverse.1 hp) q hq

/-- Cutting a list ready for insertion from `n` after `len ≥ n` items leaves a list ready for
insertion from `n`, whose tags lie below those cut off. -/
theorem InsertState.take {ys : List (γ × Nat)} {n len : Nat} (h : InsertState le ys n)
    (hn : n ≤ len) :
    InsertState le (ys.take len) n ∧ TagsApart (ys.take len) (ys.drop len) ∧
      TagsRise (ys.drop len) := by
  have hfront : (ys.take len).take n = ys.take n := by rw [List.take_take, Nat.min_eq_left hn]
  have hmid : (ys.take len).drop n = (ys.drop n).take (len - n) := by
    rw [List.drop_take]
  have hback : ys.drop len = (ys.drop n).drop (len - n) := by
    rw [List.drop_drop]
    congr 1
    omega
  have hsplit := h.rise
  rw [TagsRise, ← List.take_append_drop (len - n) (ys.drop n)] at hsplit
  obtain ⟨hmid_rise, hback_rise, hcross⟩ := List.pairwise_append.1 hsplit
  refine ⟨⟨hfront ▸ h.ordered, ?_, hmid ▸ hmid_rise⟩, ?_, hback ▸ hback_rise⟩
  · rw [hfront, hmid]
    exact fun p hp q hq => h.apart p hp q (List.take_subset _ _ hq)
  · intro p hp q hq
    rw [hback] at hq
    rw [← List.take_append_drop n (ys.take len), hfront, hmid] at hp
    rcases List.mem_append.1 hp with hp | hp
    · exact h.apart p hp q (List.drop_subset _ _ hq)
    · exact hcross p hp q hq

include hlt trans total in
theorem sortBlock_spec (xs : List (γ × Nat)) (hr : TagsRise xs) :
    (sortBlock lt xs).fault = none ∧ KeyOrdered le (sortBlock lt xs).items := by
  unfold sortBlock
  split
  · -- fewer than two items are ordered as they stand
    next hshort =>
    refine ⟨rfl, ?_⟩
    match xs, hshort with
    | [], _ => exact List.Pairwise.nil
    | [_], _ => exact List.pairwise_singleton _ _
  · next hlong =>
    obtain ⟨n, desc, hfront, -, hn, hord⟩ :=
      frontRun_spec hlt trans total xs hr (by rintro rfl; simp at hlong)
    rw [hfront]
    dsimp only
    have hlen : (if desc then (xs.take n).reverse ++ xs.drop n else xs).length = xs.length := by
      cases desc <;> simp; omega
    exact insertFrom_spec hlt trans total xs.length xs.length _ n hlen (by omega) hn
      (InsertState.of_front hn hr hord)

end Insert

/-! ### Merging blocks -/

section Merge

variable (hlt : ∀ p q, lt p q = .ok (!le q.1 p.1)) (trans : ∀ a b c, le a b → le b c → le a c)
  (total : ∀ a b, (le a b || le b a) = true)

include hlt in
/-- Merging takes from the right only an item strictly less: the library's merge by key. -/
theorem mergeRuns_eq_merge : ∀ (xs ys : List (γ × Nat)),
    mergeRuns lt xs ys = .ok (xs.merge ys fun p q => le p.1 q.1)
  | [], ys => by simp [mergeRuns]
  | x :: xs, [] => by simp [mergeRuns]
  | x :: xs, y :: ys => by
    rw [mergeRuns, List.cons_merge_cons]
    cases hxy : le x.1 y.1 with
    | true =>
      simp only [hlt, hxy, bind, Except.bind, Bool.not_true, Bool.false_eq_true, ↓reduceIte,
        mergeRuns_eq_merge xs (y :: ys)]
      rfl
    | false =>
      simp only [hlt, hxy, bind, Except.bind, Bool.not_false, ↓reduceIte,
        mergeRuns_eq_merge (x :: xs) ys, Bool.false_eq_true]
      rfl

include trans total in
/-- Merging two ordered lists whose tags lie apart gives an ordered list: on items from the
two sides the order by key is the order by key and tag. -/
theorem merge_ordered {xs ys : List (γ × Nat)} (hx : KeyOrdered le xs) (hy : KeyOrdered le ys)
    (hxy : TagsApart xs ys) : KeyOrdered le (xs.merge ys fun p q => le p.1 q.1) := by
  have hsame : (xs.merge ys fun p q => le p.1 q.1) = xs.merge ys (List.zipIdxLE le) := by
    have h : (xs.merge ys fun p q => le p.1 q.1).map id =
        (xs.map id).merge (ys.map id) (List.zipIdxLE le) :=
      List.map_merge fun a ha b hb => by
        have htag := Nat.le_of_lt (hxy a ha b hb)
        unfold List.zipIdxLE
        by_cases h₁ : le a.1 b.1 <;> by_cases h₂ : le b.1 a.1 <;> simp [h₁, h₂, htag]
    simpa using h
  rw [hsame]
  exact List.pairwise_merge (List.zipIdxLE_trans trans) (List.zipIdxLE_total total) xs ys hx hy

include hlt trans total in
theorem mergeAll_go_spec : ∀ (acc : List (γ × Nat)) (bs : List (List (γ × Nat))),
    KeyOrdered le acc → (∀ b ∈ bs, KeyOrdered le b) → (∀ b ∈ bs, TagsApart acc b) →
    bs.Pairwise TagsApart →
      (mergeAll.go lt acc bs).fault = none ∧ KeyOrdered le (mergeAll.go lt acc bs).items
  | acc, [], hacc, _, _, _ => ⟨rfl, hacc⟩
  | acc, b :: bs, hacc, hbs, hab, hpair => by
    rw [mergeAll.go, mergeRuns_eq_merge hlt]
    dsimp only
    -- the merged front keeps every tag below the blocks still to come
    refine mergeAll_go_spec _ bs
      (merge_ordered trans total hacc (hbs b List.mem_cons_self) (hab b List.mem_cons_self))
      (fun c hc => hbs c (List.mem_cons_of_mem _ hc)) (fun c hc p hp q hq => ?_) hpair.tail
    rcases List.mem_merge.1 hp with hp | hp
    · exact hab c (List.mem_cons_of_mem _ hc) p hp q hq
    · exact List.rel_of_pairwise_cons hpair hc p hp q hq

include hlt trans total in
theorem blocks_spec (size : Nat) : ∀ (fuel : Nat) (xs : List (γ × Nat)), xs.length ≤ fuel →
    TagsRise xs → (blocks lt size fuel xs).2 = none ∧
      (∀ b ∈ (blocks lt size fuel xs).1, KeyOrdered le b) ∧
      (blocks lt size fuel xs).1.Pairwise TagsApart
  | 0, xs, hlen, _ => by
    obtain rfl : xs = [] := List.eq_nil_of_length_eq_zero (by omega)
    exact ⟨rfl, by simp [blocks, KeyOrdered], List.pairwise_singleton _ _⟩
  | fuel + 1, xs, hlen, hr => by
    rw [blocks]
    split
    · exact ⟨rfl, by simp, List.Pairwise.nil⟩
    · next hne =>
      obtain ⟨n, desc, hfront, hpos, hn, hord⟩ :=
        frontRun_spec hlt trans total xs hr (by rintro rfl; simp at hne)
      rw [hfront]
      dsimp only
      have hstate := InsertState.of_front hn hr hord
      have hys : (if desc then (xs.take n).reverse ++ xs.drop n else xs).length = xs.length := by
        cases desc <;> simp; omega
      generalize (if desc then (xs.take n).reverse ++ xs.drop n else xs) = ys at hstate hys
      have hlen' : n ≤ max n (min size xs.length) := Nat.le_max_left _ _
      have hcap : max n (min size xs.length) ≤ ys.length := by omega
      generalize max n (min size xs.length) = len at hlen' hcap
      obtain ⟨hcut, happart, hrest⟩ := hstate.take hlen'
      obtain ⟨hfault, hsorted⟩ := insertFrom_spec hlt trans total len len (ys.take len) n
        (by simp only [List.length_take]; omega) (by omega) hlen' hcut
      rw [hfault]
      dsimp only
      obtain ⟨hf, hbs, hpair⟩ := blocks_spec size fuel (ys.drop len)
        (by simp only [List.length_drop]; omega) hrest
      refine ⟨hf, ?_, List.Pairwise.cons (fun c hc p hp q hq => ?_) hpair⟩
      · intro b hb
        rcases List.mem_cons.1 hb with rfl | hb
        · exact hsorted
        · exact hbs b hb
      · -- the block holds the items cut off first, the later blocks the rest
        have hp' := (insertFrom_perm lt len len (ys.take len) n).mem_iff.1 hp
        have hq' : q ∈ ys.drop len :=
          (blocks_perm lt size fuel (ys.drop len)).mem_iff.1 (List.mem_flatten.2 ⟨c, hc, hq⟩)
        exact happart p hp' q hq'

include hlt trans total in
theorem sortAsc_spec (xs : List (γ × Nat)) (hr : TagsRise xs) :
    (sortAsc lt xs).fault = none ∧ KeyOrdered le (sortAsc lt xs).items := by
  unfold sortAsc
  split
  · exact sortBlock_spec hlt trans total xs hr
  · obtain ⟨hf, hbs, hpair⟩ := blocks_spec hlt trans total (minBlock xs.length) xs.length xs
      (Nat.le_refl _) hr
    generalize blocks lt (minBlock xs.length) xs.length xs = r at hf hbs hpair
    obtain ⟨bs, f⟩ := r
    dsimp only at hf hbs hpair ⊢
    rw [hf]
    dsimp only
    cases bs with
    | nil => exact ⟨rfl, List.Pairwise.nil⟩
    | cons b bs =>
      exact mergeAll_go_spec hlt trans total b bs (hbs b List.mem_cons_self)
        (fun c hc => hbs c (List.mem_cons_of_mem _ hc)) (fun c hc => List.rel_of_pairwise_cons hpair hc)
        hpair.tail

end Merge

/-! ### An ordered list is fixed by its items -/

/-- Two ordered lists with the same items, whose tags differ, are equal: items that come before
each other both ways have one tag, and so are one item. -/
theorem KeyOrdered.eq_of_perm {l₁ l₂ : List (γ × Nat)} (h₁ : KeyOrdered le l₁)
    (h₂ : KeyOrdered le l₂) (hp : l₁.Perm l₂) (hnd : (l₁.map Prod.snd).Nodup) : l₁ = l₂ := by
  refine List.Perm.eq_of_pairwise (fun a b ha hb hab hba => ?_) h₁ h₂ hp
  have htag : a.2 = b.2 := by
    unfold List.zipIdxLE at hab hba
    by_cases h₁ : le a.1 b.1 <;> by_cases h₂ : le b.1 a.1 <;> simp [h₁, h₂] at hab hba
    omega
  exact List.inj_on_of_nodup_map hnd ha (hp.mem_iff.2 hb) htag

theorem tagsRise_zipIdx {α : Type} (xs : List α) (i : Nat) : TagsRise (xs.zipIdx i) := by
  have h := List.pairwise_lt_range' (s := i) (n := xs.length)
  rw [← List.zipIdx_map_snd, List.pairwise_map] at h
  exact h

theorem nodup_tags_of_perm_zipIdx {α : Type} {xs : List α} {l : List (α × Nat)}
    (hp : l.Perm (xs.zipIdx)) : (l.map Prod.snd).Nodup := by
  refine (hp.map Prod.snd).nodup_iff.2 ?_
  rw [List.zipIdx_map_snd]
  exact List.nodup_range'

end Stable

/-! ## The sort is the stable merge sort -/

section Main

variable {α : Type} {le : α → α → Bool} (trans : ∀ a b c, le a b → le b c → le a c)
  (total : ∀ a b, (le a b || le b a) = true)

include trans total in
/-- With a comparison that never fails and reads "less" as "not the other way round" of a total
preorder, the sort gives the stable merge sort and no fault. -/
theorem sortAsc_eq_mergeSort {lt : α → α → Except Fault Bool} (hlt : ∀ a b, lt a b = .ok (!le b a))
    (xs : List α) : sortAsc lt xs = { items := xs.mergeSort le } := by
  -- sort the numbered list: its result is ordered by key and number, so it is the merge sort
  -- of the numbered list, whose items are the merge sort of the list
  have hnat := sortAsc_map lt Prod.fst xs.zipIdx
  rw [List.zipIdx_map_fst] at hnat
  have hlt' : ∀ p q : α × Nat, (fun p q : α × Nat => lt p.1 q.1) p q = .ok (!le q.1 p.1) :=
    fun p q => hlt p.1 q.1
  obtain ⟨hf, hord⟩ := sortAsc_spec hlt' trans total xs.zipIdx (tagsRise_zipIdx xs 0)
  have hperm := sortAsc_perm (fun p q : α × Nat => lt p.1 q.1) xs.zipIdx
  have heq : (sortAsc (fun p q : α × Nat => lt p.1 q.1) xs.zipIdx).items =
      xs.zipIdx.mergeSort (List.zipIdxLE le) :=
    KeyOrdered.eq_of_perm hord
      (List.pairwise_mergeSort (List.zipIdxLE_trans trans) (List.zipIdxLE_total total) _)
      (hperm.trans (List.mergeSort_perm _ _).symm) (nodup_tags_of_perm_zipIdx hperm)
  rw [← hnat, Sorting.map, hf, heq, List.mergeSort_zipIdx]

include trans total in
theorem reverse_mergeSort_reverse (xs : List α) :
    (xs.reverse.mergeSort le).reverse = xs.mergeSort fun a b => le b a := by
  -- number the reversed list, sort it, turn it round and count the numbers down
  have trans' : ∀ a b c, le b a → le c b → le c a := fun a b c hab hbc => trans c b a hbc hab
  have total' : ∀ a b, (le b a || le a b) = true := fun a b => by
    rw [Bool.or_comm]
    exact total a b
  let n := xs.length
  let g : α × Nat → α × Nat := fun p => (p.1, n - 1 - p.2)
  let S := xs.reverse.zipIdx.mergeSort (List.zipIdxLE le)
  have hS : S.Perm xs.reverse.zipIdx := List.mergeSort_perm _ _
  have hSord : KeyOrdered le S :=
    List.pairwise_mergeSort (List.zipIdxLE_trans trans) (List.zipIdxLE_total total) _
  have htags : ∀ p ∈ S, p.2 < n := fun p hp => by
    have := (List.mem_zipIdx (hS.mem_iff.1 hp)).2.1
    simpa [n] using this
  have hcount : xs.reverse.zipIdx.map g = xs.zipIdx.reverse := by
    apply List.ext_getElem (by simp)
    intro i h₁ h₂
    simp [g, n, List.getElem_zipIdx, List.getElem_reverse]
  have hperm : (S.reverse.map g).Perm xs.zipIdx := by
    calc List.Perm _ (S.map g) := (List.reverse_perm S).map g
      List.Perm _ (xs.reverse.zipIdx.map g) := hS.map g
      _ = xs.zipIdx.reverse := hcount
      List.Perm _ xs.zipIdx := List.reverse_perm _
  have hord : KeyOrdered (fun a b => le b a) (S.reverse.map g) := by
    rw [KeyOrdered, List.pairwise_map, List.pairwise_reverse]
    refine hSord.imp_of_mem fun {p q} hp hq hpq => ?_
    have hp' := htags p hp
    have hq' := htags q hq
    unfold List.zipIdxLE at hpq ⊢
    simp only [g]
    by_cases h₁ : le p.1 q.1 <;> by_cases h₂ : le q.1 p.1 <;> simp [h₁, h₂] at hpq ⊢
    omega
  have heq : S.reverse.map g = xs.zipIdx.mergeSort (List.zipIdxLE fun a b => le b a) :=
    KeyOrdered.eq_of_perm hord
      (List.pairwise_mergeSort (List.zipIdxLE_trans trans') (List.zipIdxLE_total total') _)
      (hperm.trans (List.mergeSort_perm _ _).symm) (nodup_tags_of_perm_zipIdx hperm)
  have hfst := congrArg (List.map Prod.fst) heq
  rw [List.mergeSort_zipIdx, List.map_map, List.map_reverse] at hfst
  have hg : Prod.fst ∘ g = Prod.fst := rfl
  rw [hg, List.mergeSort_zipIdx] at hfst
  exact hfst

end Main

/-- A map whose every step returns at once returns the mapped list. -/
theorem mapM_eq_pure_of_forall {m : Type → Type} [Monad m] [LawfulMonad m] {α β : Type}
    {f : α → m β} {g : α → β} :
    ∀ {xs : List α}, (∀ x ∈ xs, f x = pure (g x)) → xs.mapM f = pure (xs.map g)
  | [], _ => rfl
  | x :: xs, h => by
    rw [List.mapM_cons, h x List.mem_cons_self,
      mapM_eq_pure_of_forall fun y hy => h y (List.mem_cons_of_mem _ hy)]
    simp

section Texts

variable {α : Type} (s : α → String)

/-- The order from the greatest text down: `a` may come before `b` unless its text is less. -/
def descBy (a b : α) : Bool := !decide (s a < s b)

theorem descBy_iff {a b : α} : descBy s a b = true ↔ s b ≤ s a := by
  simp only [descBy, Bool.not_eq_true', decide_eq_false_iff_not, String.not_lt]

theorem descBy_eq_false_iff {a b : α} : descBy s a b = false ↔ s a < s b := by
  simp only [descBy, Bool.not_eq_false', decide_eq_true_eq]

theorem descBy_trans (a b c : α) (hab : descBy s a b = true) (hbc : descBy s b c = true) :
    descBy s a c = true := by
  rw [descBy_iff] at hab hbc ⊢
  exact String.le_trans hbc hab

theorem descBy_total (a b : α) : (descBy s a b || descBy s b a) = true := by
  rw [Bool.or_eq_true, descBy_iff, descBy_iff]
  exact String.le_total (s b) (s a)

/-- `r` holds the items of `xs` from the greatest text down, each as often as in `xs`, and
items with equal texts in their order in `xs`. -/
structure SortedDesc (xs r : List α) : Prop where
  perm : r.Perm xs
  desc : r.Pairwise fun a b => s b ≤ s a
  stable : ∀ a b, [a, b].Sublist xs → s a = s b → [a, b].Sublist r

theorem sortedDesc_mergeSort (xs : List α) : SortedDesc s xs (xs.mergeSort (descBy s)) where
  perm := List.mergeSort_perm xs _
  desc := (List.pairwise_mergeSort (descBy_trans s) (descBy_total s) xs).imp
    fun h => (descBy_iff s).1 h
  stable a _ hab heq :=
    List.pair_sublist_mergeSort (descBy_trans s) (descBy_total s) ((descBy_iff s).2 (heq ▸ String.le_refl (s a))) hab

/-- Sorting downwards by a key that is a text for every item is the stable merge sort by that
text from the greatest down: items with equal texts keep their order. -/
theorem sortByKey_desc_eq_mergeSort (key : α → Except Fault Value) (xs : List α)
    (hk : ∀ x ∈ xs, key x = .ok (.str (s x))) :
    sortByKey key true xs = { items := xs.mergeSort (descBy s) } := by
  have hless : ∀ a b : α, Value.less (.str (s a)) (.str (s b)) = .ok (!descBy s a b) :=
    fun a b => by simp [Value.less, descBy]
  -- the ascending sort puts `a` before `b` unless `b`'s text is less
  have trans : ∀ a b c : α, descBy s b a = true → descBy s c b = true → descBy s c a = true :=
    fun a b c hab hbc => descBy_trans s c b a hbc hab
  have total : ∀ a b : α, (descBy s b a || descBy s a b) = true := fun a b => descBy_total s b a
  have hzip : ∀ ys : List α, (ys.map fun x => Value.str (s x)).zip ys =
      ys.map fun x => (Value.str (s x), x) := fun ys => by
    induction ys with
    | nil => rfl
    | cons y ys ih => simp [ih]
  unfold sortByKey
  rw [mapM_eq_pure_of_forall (m := Except Fault) hk]
  dsimp only [pure, Except.pure]
  rw [if_pos rfl, if_pos rfl, hzip, ← List.map_reverse,
    ← sortAsc_map (fun a b => Value.less a.1 b.1) (fun x => (Value.str (s x), x)) xs.reverse]
  rw [sortAsc_eq_mergeSort trans total hless, Sorting.map]
  simp only [List.map_map, List.map_reverse]
  rw [show (Prod.snd ∘ fun x : α => (Value.str (s x), x)) = id from rfl, List.map_id,
    reverse_mergeSort_reverse trans total]

end Texts

end Taskflow.Json
