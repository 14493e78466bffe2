import Taskflow.Proofs.Json.RoundTrip
import Taskflow.Json.Access
/-!
Plain values stay plain under the edits the task store makes: setting a member, taking a
member or an item, replacing, removing or adding an item. With `read_write_file`, a list of
tasks the store edited this way reads back from its file as written.
-/

namespace Taskflow.Json

namespace Value.Plain

variable {v x : Value}

theorem arr_iff {xs : List Value} : (Value.arr xs).Plain ↔ ∀ y ∈ xs, y.Plain :=
  ⟨fun h => by cases h with | arr h => exact h, .arr⟩

theorem setMember_keys (kvs : List (String × Value)) (k : String) (x : Value) :
    (setMember kvs k x).map (·.1) =
      if kvs.any (·.1 == k) then kvs.map (·.1) else kvs.map (·.1) ++ [k] := by
  unfold setMember
  split
  · simp only [List.map_map]
    congr 1
    funext e
    by_cases he : e.1 = k <;> simp [he]
  · simp

theorem set (hv : v.Plain) (hx : x.Plain) (k : String) : (v.set k x).Plain := by
  cases hv with
  | obj hkeys hvals =>
    rename_i kvs
    refine .obj ?_ ?_
    · rw [setMember_keys]
      split
      · exact hkeys
      · next hk =>
        -- a new key goes at the end, after keys that all differ from it
        simp only [List.any_eq_true, beq_iff_eq, not_exists, not_and] at hk
        rw [List.nodup_append]
        refine ⟨hkeys, List.pairwise_singleton _ k, ?_⟩
        simp only [List.mem_map, List.mem_singleton]
        rintro _ ⟨kv, hkv, rfl⟩ _ rfl
        exact hk kv hkv
    · intro kv hkv
      unfold setMember at hkv
      split at hkv
      · obtain ⟨e, he, rfl⟩ := List.mem_map.1 hkv
        split
        · exact hx
        · exact hvals e he
      · rcases List.mem_append.1 hkv with h | h
        · exact hvals kv h
        · rw [List.mem_singleton.1 h]
          exact hx
  | null => exact .null
  | bool b => exact .bool b
  | str s => exact .str s
  | arr h => exact .arr h

theorem item (hv : v.Plain) {k : String} (h : v.item k = .ok x) : x.Plain := by
  cases hv with
  | obj _ hvals =>
    simp only [Value.item] at h
    split at h
    · next kv hkv =>
      cases h
      exact hvals kv (List.mem_of_find?_eq_some hkv)
    · cases h
  | _ => simp [Value.item] at h

theorem push (hv : v.Plain) (hx : x.Plain) {r : Value} (h : v.push x = .ok r) : r.Plain := by
  cases hv with
  | arr hxs =>
    simp only [Value.push, Except.ok.injEq] at h
    subst h
    exact .arr fun y hy => (List.mem_append.1 hy).elim (hxs y) fun h => (List.mem_singleton.1 h) ▸ hx
  | _ => simp [Value.push] at h

theorem setItem (hv : v.Plain) (hx : x.Plain) {k : String} {r : Value} (h : v.setItem k x = .ok r) :
    r.Plain := by
  cases hv with
  | obj hkeys hvals =>
    simp only [Value.setItem, Except.ok.injEq] at h
    subst h
    exact (Plain.obj hkeys hvals).set hx k
  | _ => simp [Value.setItem] at h

theorem getD {xs : List Value} (hxs : ∀ y ∈ xs, y.Plain) (j : Nat) : (xs.getD j .null).Plain := by
  rw [List.getD_eq_getElem?_getD]
  cases hy : xs[j]? with
  | none => exact .null
  | some y => exact hxs y (List.mem_of_getElem? hy)

theorem atIndex (hv : v.Plain) {i : Int} (h : v.atIndex i = .ok x) : x.Plain := by
  cases hv with
  | arr hxs =>
    simp only [Value.atIndex] at h
    split at h
    · cases h
      exact getD hxs _
    · cases h
  | str s =>
    simp only [Value.atIndex] at h
    split at h
    · cases h
      exact .str _
    · cases h
  | _ => simp [Value.atIndex] at h

theorem setIndex (hv : v.Plain) (hx : x.Plain) {i : Int} {r : Value} (h : v.setIndex i x = .ok r) :
    r.Plain := by
  cases hv with
  | arr hxs =>
    simp only [Value.setIndex] at h
    split at h
    · cases h
      exact .arr fun y hy => (List.mem_or_eq_of_mem_set hy).elim (hxs y) fun h => h ▸ hx
    · cases h
  | _ => simp [Value.setIndex] at h

theorem removeAt (hv : v.Plain) {i : Int} {r : Value} (h : v.removeAt i = .ok r) : r.Plain := by
  cases hv with
  | arr hxs =>
    simp only [Value.removeAt] at h
    split at h
    · cases h
      exact .arr fun y hy => hxs y (List.mem_of_mem_eraseIdx hy)
    · cases h
  | _ => simp [Value.removeAt] at h

end Value.Plain

end Taskflow.Json
