import Taskflow.Json.Sort
/-!
A sort keeps its items. Whatever arrangement the sort reaches is a permutation of the list it
was given, also when a comparison fails and the sort stops halfway: each step moves one item
(an insertion), reverses a run, or merges two sorted lists, and a stopped step keeps the list
it had. So every item of the input is in the output, as often as in the input.
-/

namespace Taskflow.Json

section Runs

variable {α : Type} (lt : α → α → Except Fault Bool)

theorem slotIn_le (xs : List α) (x : α) (l r : Nat) (hlr : l ≤ r) {j : Nat}
    (h : slotIn lt xs x l r = .ok j) : j ≤ r := by
  induction l, r using slotIn.induct xs with
  | case1 l r hl p y hy ih₁ ih₂ =>
    -- the middle item is there: the search goes on in the left or the right half
    have hy' : xs[l + (r - l) / 2]? = some y := hy
    rw [slotIn] at h
    simp only [hl, ↓reduceIte, hy', bind, Except.bind] at h
    split at h
    · cases h
    · split at h
      · have hj := ih₁ (by simp only [p]; omega) h
        simp only [p] at hj
        omega
      · exact ih₂ (by simp only [p]; omega) h
  | case2 l r hl p hy =>
    have hy' : xs[l + (r - l) / 2]? = none := hy
    rw [slotIn] at h
    simp only [hl, ↓reduceIte, hy', Except.ok.injEq] at h
    omega
  | case3 l r hl =>
    rw [slotIn] at h
    simp only [hl, ↓reduceIte, Except.ok.injEq] at h
    omega

theorem insertAt_perm {xs : List α} {k j : Nat} {x : α} (hx : xs[k]? = some x) (hj : j ≤ k) :
    ((xs.take k).insertIdx j x ++ xs.drop (k + 1)).Perm xs := by
  have hk : k < xs.length := (List.getElem?_eq_some_iff.1 hx).1
  have hxk : xs[k] = x := (List.getElem?_eq_some_iff.1 hx).2
  have hsplit : xs = xs.take k ++ x :: xs.drop (k + 1) := by
    rw [← hxk, ← List.drop_eq_getElem_cons hk, List.take_append_drop]
  have hlen : j ≤ (xs.take k).length := by simp only [List.length_take]; omega
  calc (xs.take k).insertIdx j x ++ xs.drop (k + 1)
      List.Perm _ ((x :: xs.take k) ++ xs.drop (k + 1)) := (List.perm_insertIdx x _ hlen).append_right _
      List.Perm _ (xs.take k ++ x :: xs.drop (k + 1)) := List.perm_middle.symm
      _ = xs := hsplit.symm

theorem insertFrom_perm (stop : Nat) :
    ∀ (fuel : Nat) (xs : List α) (k : Nat), (insertFrom lt stop fuel xs k).items.Perm xs
  | 0, xs, _ => .refl xs
  | fuel + 1, xs, k => by
    rw [insertFrom]
    split
    · split
      · next x hx =>
        split
        · next j hj =>
          exact (insertFrom_perm stop fuel _ (k + 1)).trans
            (insertAt_perm hx (slotIn_le lt xs x 0 k (Nat.zero_le k) hj))
        · exact .refl xs
      · exact .refl xs
    · exact .refl xs

theorem frontTurned_perm (xs : List α) (n : Nat) (desc : Bool) :
    (if desc then (xs.take n).reverse ++ xs.drop n else xs).Perm xs := by
  split
  · calc (xs.take n).reverse ++ xs.drop n
        List.Perm _ (xs.take n ++ xs.drop n) := (List.reverse_perm _).append_right _
        _ = xs := List.take_append_drop n xs
  · exact .refl xs

theorem sortBlock_perm (xs : List α) : (sortBlock lt xs).items.Perm xs := by
  unfold sortBlock
  split
  · exact .refl xs
  · split
    · exact .refl xs
    · next n desc _ =>
      exact (insertFrom_perm lt _ _ _ _).trans (frontTurned_perm xs n desc)

theorem blocks_perm (size : Nat) :
    ∀ (fuel : Nat) (xs : List α), (blocks lt size fuel xs).1.flatten.Perm xs
  | 0, xs => by simp [blocks]
  | fuel + 1, xs => by
    rw [blocks]
    split
    · next h => simp [List.isEmpty_iff.1 h]
    · split
      · simp
      · next n desc _ =>
        -- the block is the front of the turned list, sorted; the rest is cut up the same way
        have hys := frontTurned_perm xs n desc
        generalize (if desc then (xs.take n).reverse ++ xs.drop n else xs) = ys at hys ⊢
        generalize max n (min size xs.length) = len
        have hb := insertFrom_perm lt len len (ys.take len) n
        dsimp only
        split
        · simp only [List.flatten_cons, List.flatten_nil, List.append_nil]
          calc List.Perm _ (ys.take len ++ ys.drop len) := hb.append_right _
            _ = ys := List.take_append_drop len ys
            List.Perm _ (xs) := hys
        · simp only [List.flatten_cons]
          calc List.Perm _ (ys.take len ++ ys.drop len) := hb.append (blocks_perm size fuel _)
            _ = ys := List.take_append_drop len ys
            List.Perm _ (xs) := hys

theorem mergeRuns_perm : ∀ (xs ys : List α) {zs : List α}, mergeRuns lt xs ys = .ok zs →
    zs.Perm (xs ++ ys)
  | [], ys, zs, h => by simp only [mergeRuns, Except.ok.injEq] at h; subst h; exact .refl _
  | x :: xs, [], zs, h => by simp only [mergeRuns, Except.ok.injEq] at h; subst h; simp
  | x :: xs, y :: ys, zs, h => by
    simp only [mergeRuns, bind, Except.bind] at h
    split at h
    · cases h
    · split at h
      · split at h
        · cases h
        · next m hm =>
          simp only [pure, Except.pure, Except.ok.injEq] at h
          subst h
          calc y :: m
              List.Perm _ (y :: (x :: xs ++ ys)) := (mergeRuns_perm (x :: xs) ys hm).cons y
              List.Perm _ (x :: xs ++ y :: ys) := List.perm_middle.symm
      · split at h
        · cases h
        · next m hm =>
          simp only [pure, Except.pure, Except.ok.injEq] at h
          subst h
          exact (mergeRuns_perm xs (y :: ys) hm).cons x

theorem mergeAll_go_perm : ∀ (acc : List α) (bs : List (List α)),
    (mergeAll.go lt acc bs).items.Perm (acc ++ bs.flatten)
  | acc, [] => by simp [mergeAll.go]
  | acc, b :: bs => by
    rw [mergeAll.go]
    split
    · next m hm =>
      calc List.Perm _ (m ++ bs.flatten) := mergeAll_go_perm m bs
        List.Perm _ ((acc ++ b) ++ bs.flatten) := (mergeRuns_perm lt acc b hm).append_right _
        _ = acc ++ (b :: bs).flatten := by simp
    · exact .refl _

theorem mergeAll_perm (bs : List (List α)) : (mergeAll lt bs).items.Perm bs.flatten := by
  cases bs with
  | nil => exact .refl _
  | cons b bs => simpa [mergeAll] using mergeAll_go_perm lt b bs

theorem sortAsc_perm (xs : List α) : (sortAsc lt xs).items.Perm xs := by
  unfold sortAsc
  split
  · exact sortBlock_perm lt xs
  · have hb := blocks_perm lt (minBlock xs.length) xs.length xs
    generalize blocks lt (minBlock xs.length) xs.length xs = r at hb ⊢
    obtain ⟨bs, f⟩ := r
    cases f with
    | some e => exact hb
    | none => exact (mergeAll_perm lt bs).trans hb

end Runs

theorem length_mapM_eq {α β : Type} {f : α → Except Fault β} :
    ∀ {xs : List α} {ys : List β}, xs.mapM f = .ok ys → ys.length = xs.length
  | [], ys, h => by simp only [List.mapM_nil, pure, Except.pure, Except.ok.injEq] at h; simp [← h]
  | x :: xs, ys, h => by
    simp only [List.mapM_cons, bind, Except.bind] at h
    split at h
    · cases h
    · split at h
      · cases h
      · next zs hzs =>
        simp only [pure, Except.pure, Except.ok.injEq] at h
        subst h
        simp [length_mapM_eq hzs]

theorem sortByKey_perm {α : Type} (key : α → Except Fault Value) (desc : Bool) (xs : List α) :
    (sortByKey key desc xs).items.Perm xs := by
  unfold sortByKey
  split
  · exact .refl xs
  · next ks hks =>
    have hlen := length_mapM_eq hks
    have hsnd : (ks.zip xs).map (·.2) = xs := List.map_snd_zip (by omega)
    simp only
    generalize hpairs : (if desc then (ks.zip xs).reverse else ks.zip xs) = pairs
    have hp : pairs.Perm (ks.zip xs) := by
      rw [← hpairs]
      split
      · exact List.reverse_perm _
      · exact .refl _
    have hs := sortAsc_perm (fun a b => Value.less a.1 b.1) pairs
    calc List.Perm _ ((sortAsc (fun a b => Value.less a.1 b.1) pairs).items.map (·.2)) := by
          split
          · rw [List.map_reverse]; exact List.reverse_perm _
          · exact .refl _
      List.Perm _ ((ks.zip xs).map (·.2)) := (hs.trans hp).map _
      _ = xs := hsnd

end Taskflow.Json
