import Taskflow.Workspace.Sync
import Taskflow.Proofs.Json.SortStable
import Taskflow.Proofs.Workspace.Triple
import Taskflow.Proofs.Queue.Load
/-!
The duplicate cleanup of the execution queue.
-/

namespace Taskflow.Workspace

open Json

/-! ## Keys, groups and the task a group keeps -/

/-- The stripped description a task is grouped by; an absent description counts as empty. -/
def descKey (t : Value) : String :=
  match t.getD "description" (.str "") with
  | .str s => Text.strip s
  | _ => ""

/-- The `updated` text a task is ranked by; an absent one counts as empty. -/
def stampOf (t : Value) : String :=
  match t.getD "updated" (.str "") with
  | .str s => s
  | _ => ""

/-- A task as the cleanup can group it: an object whose description, if present, is a text. -/
def Groupable (t : Value) : Prop := t.isObj = true ∧ ∃ s, t.getD "description" (.str "") = .str s

def Stamped (t : Value) : Prop := ∃ s, t.getD "updated" (.str "") = .str s

/-- The tasks of a list with stripped description `d`, in file order. -/
def groupOf (L : List Value) (d : String) : List Value := L.filter fun t => descKey t == d

/-- The groups of a list: one per stripped description, in order of first appearance. -/
def groupsOf (L : List Value) : List (String × List Value) :=
  (L.map descKey).eraseDups.map fun d => (d, groupOf L d)

/-- `t` is the latest task of `g`: no task of `g` has a greater `updated` text, and every task
before it has a smaller one. -/
def FirstLatest (g : List Value) (t : Value) : Prop :=
  ∃ pre post, g = pre ++ t :: post ∧ (∀ u ∈ pre, stampOf u < stampOf t) ∧
    ∀ u ∈ post, stampOf u ≤ stampOf t

theorem descKey_of_groupable {t : Value} {s : String}
    (h : t.getD "description" (.str "") = .str s) : descKey t = Text.strip s := by
  simp only [descKey, h]

theorem groupOf_append_single (P : List Value) (t : Value) (d : String) :
    groupOf (P ++ [t]) d = groupOf P d ++ if descKey t == d then [t] else [] := by
  unfold groupOf
  rw [List.filter_append]
  by_cases h : descKey t == d <;> simp [h]

theorem groupOf_append_self (P : List Value) (t : Value) :
    groupOf (P ++ [t]) (descKey t) = groupOf P (descKey t) ++ [t] := by
  rw [groupOf_append_single, beq_self_eq_true, if_pos rfl]

theorem groupOf_append_of_ne (P : List Value) {t : Value} {d : String} (h : descKey t ≠ d) :
    groupOf (P ++ [t]) d = groupOf P d := by
  rw [groupOf_append_single, beq_eq_false_iff_ne.2 h, if_neg Bool.false_ne_true, List.append_nil]

theorem groupOf_eq_nil {P : List Value} {d : String} (h : d ∉ P.map descKey) : groupOf P d = [] := by
  unfold groupOf
  rw [List.filter_eq_nil_iff]
  intro t ht hd
  exact h (List.mem_map.2 ⟨t, ht, by simpa using hd⟩)

theorem groupByDescription_step {P : List Value} {t : Value} (ht : Groupable t) :
    groupByDescription.step (groupsOf P) t = .ok (groupsOf (P ++ [t])) := by
  obtain ⟨hobj, s, hs⟩ := ht
  have hlook : t.lookup "description" (.str "") = .ok (.str s) := by
    cases t with
    | obj kvs => simpa [Value.lookup] using hs
    | _ => cases hobj
  have hkey := descKey_of_groupable hs
  have hgroups : ∀ d, (d, groupOf (P ++ [t]) d) =
      if d == descKey t then (d, groupOf P d ++ [t]) else (d, groupOf P d) := fun d => by
    by_cases h : d = descKey t
    · subst h
      rw [groupOf_append_self, beq_self_eq_true, if_pos rfl]
    · rw [groupOf_append_of_ne P (Ne.symm h), beq_eq_false_iff_ne.2 h, if_neg Bool.false_ne_true]
  unfold groupByDescription.step groupsOf
  simp only [hlook, bind, Except.bind, pure, Except.pure, ← hkey, List.map_append, List.map_cons,
    List.map_nil, List.eraseDups_append, List.any_map, Function.comp_def]
  by_cases hin : descKey t ∈ P.map descKey
  · -- the description is known: its group grows, the keys stay
    have hany : ((P.map descKey).eraseDups.any fun d => d == descKey t) = true := by
      rw [List.any_eq_true]
      exact ⟨descKey t, List.mem_eraseDups.2 hin, by simp⟩
    have hrem : [descKey t].removeAll (P.map descKey) = [] := by
      simp only [List.removeAll, List.filter_cons, List.filter_nil, List.elem_eq_mem,
        decide_eq_true hin, Bool.not_true, Bool.false_eq_true, ↓reduceIte]
    rw [if_pos hany, hrem, List.eraseDups_nil, List.map_nil, List.append_nil, List.map_map]
    congr 2
    funext d
    rw [Function.comp_apply, hgroups]
  · -- a new description: a new group at the end
    have hany : ((P.map descKey).eraseDups.any fun d => d == descKey t) = false := by
      rw [Bool.eq_false_iff, ne_eq, List.any_eq_true]
      rintro ⟨d, hd, hdt⟩
      exact hin (by simpa [(beq_iff_eq.1 hdt)] using List.mem_eraseDups.1 hd)
    have hrem : [descKey t].removeAll (P.map descKey) = [descKey t] := by
      simp only [List.removeAll, List.filter_cons, List.filter_nil, List.elem_eq_mem,
        decide_eq_false hin, Bool.not_false, ↓reduceIte]
    have hnew : groupOf (P ++ [t]) (descKey t) = [t] := by
      rw [groupOf_append_self, groupOf_eq_nil hin, List.nil_append]
    have hold : ((P.map descKey).eraseDups.map fun d => (d, groupOf P d)) =
        (P.map descKey).eraseDups.map fun d => (d, groupOf (P ++ [t]) d) := by
      apply List.map_congr_left
      intro d hd
      have hne : descKey t ≠ d := by
        rintro rfl
        exact hin (List.mem_eraseDups.1 hd)
      rw [groupOf_append_of_ne P hne]
    rw [if_neg (by simp [hany]), hrem, List.eraseDups_cons, List.filter_nil, List.eraseDups_nil,
      List.map_singleton, hnew, hold]

theorem groupByDescription_eq {L : List Value} (hL : ∀ t ∈ L, Groupable t) :
    groupByDescription L = .ok (groupsOf L) := by
  -- the fold after a prefix `P` holds the groups of `P`
  suffices h : ∀ P rest : List Value, (∀ t ∈ rest, Groupable t) →
      rest.foldlM groupByDescription.step (groupsOf P) = .ok (groupsOf (P ++ rest)) by
    have h0 := h [] L hL
    rw [List.nil_append] at h0
    exact h0
  intro P rest hrest
  induction rest generalizing P with
  | nil => simp [pure, Except.pure]
  | cons t rest ih =>
    rw [List.foldlM_cons, groupByDescription_step (hrest t List.mem_cons_self)]
    have h := ih (P ++ [t]) fun u hu => hrest u (List.mem_cons_of_mem _ hu)
    rw [List.append_assoc, List.singleton_append] at h
    exact h

/-! ## The first of a stable sort -/

/-- The first item a stable sort gives is the first item that every later item does not come
before and that comes strictly before every earlier item. -/
theorem head_mergeSort_of_first {α : Type} {le : α → α → Bool}
    (trans : ∀ a b c, le a b → le b c → le a c) (total : ∀ a b, (le a b || le b a) = true) :
    ∀ (pre : List α) (t : α) (post : List α), (∀ u ∈ pre, le u t = false) →
      (∀ u ∈ post, le t u = true) → ((pre ++ t :: post).mergeSort le).head? = some t
  | [], t, post, _, hpost => by
    -- nothing of `post` goes before `t`
    obtain ⟨l₁, l₂, h₁, h₂, h₃⟩ := List.mergeSort_cons trans total t post
    cases l₁ with
    | nil => simp [h₁]
    | cons b l₁ =>
      have hb : b ∈ post := List.mem_mergeSort.1 (by rw [h₂]; exact List.mem_cons_self)
      have := h₃ b List.mem_cons_self
      simp [hpost b hb] at this
  | u :: pre, t, post, hpre, hpost => by
    have ih := head_mergeSort_of_first trans total pre t post
      (fun v hv => hpre v (List.mem_cons_of_mem _ hv)) hpost
    obtain ⟨l₁, l₂, h₁, h₂, -⟩ := List.mergeSort_cons trans total u (pre ++ t :: post)
    rw [List.cons_append, h₁]
    rw [h₂] at ih
    cases l₁ with
    | cons b l₁ => simpa using ih
    | nil =>
      -- `u` would come first, before `t`, which it does not
      obtain ⟨l₂', rfl⟩ : ∃ l₂', l₂ = t :: l₂' := by
        cases l₂ with
        | nil => simp at ih
        | cons c l₂' => exact ⟨l₂', by simpa using ih⟩
      have hsorted := List.pairwise_mergeSort trans total (u :: (pre ++ t :: post))
      rw [h₁] at hsorted
      have hut := List.rel_of_pairwise_cons hsorted (List.mem_cons_self (a := t))
      simp [hpre u List.mem_cons_self] at hut

theorem stamp_le_of_lt {a b : String} (h : a < b) : a ≤ b := String.lt_asymm h

/-- Every nonempty group has a latest task. -/
theorem exists_firstLatest : ∀ g : List Value, g ≠ [] → ∃ t, FirstLatest g t
  | [], h => absurd rfl h
  | [a], _ => ⟨a, [], [], rfl, by simp, by simp⟩
  | a :: b :: rest, _ => by
    obtain ⟨t, pre, post, hg, hpre, hpost⟩ := exists_firstLatest (b :: rest) (by simp)
    by_cases hat : stampOf a < stampOf t
    · exact ⟨t, a :: pre, post, by rw [hg]; rfl, fun u hu => by
        rcases List.mem_cons.1 hu with rfl | hu
        · exact hat
        · exact hpre u hu, hpost⟩
    · -- `a` is not below the latest of the rest, so it is the latest
      have hta : stampOf t ≤ stampOf a := String.not_lt.1 hat
      refine ⟨a, [], b :: rest, rfl, by simp, fun u hu => ?_⟩
      rw [hg] at hu
      rcases List.mem_append.1 hu with hu | hu
      · exact String.le_trans (stamp_le_of_lt (hpre u hu)) hta
      · rcases List.mem_cons.1 hu with rfl | hu
        · exact hta
        · exact String.le_trans (hpost u hu) hta

def laterFirst (a b : Value) : Bool := !decide (stampOf a < stampOf b)

theorem head_laterFirst {g : List Value} (hg : g ≠ []) :
    ∃ t, (g.mergeSort laterFirst).head? = some t ∧ FirstLatest g t := by
  obtain ⟨t, pre, post, rfl, hpre, hpost⟩ := exists_firstLatest g hg
  refine ⟨t, head_mergeSort_of_first (descBy_trans stampOf) (descBy_total stampOf) pre t post
    (fun u hu => ?_) (fun u hu => ?_), pre, post, rfl, hpre, hpost⟩
  · exact (descBy_eq_false_iff stampOf).2 (hpre u hu)
  · exact (descBy_iff stampOf).2 (hpost u hu)

/-! ## The tasks the cleanup keeps -/

/-- The task a group keeps: the first of the group ranked latest first. -/
def keptOf (g : List Value) : Option Value := (g.mergeSort laterFirst).head?

/-- The tasks kept from a list, one per group, groups in order of first appearance. -/
def keptList (L : List Value) : List Value := ((groupsOf L).map fun g => keptOf g.2).filterMap id

theorem mem_groupOf {L : List Value} {d : String} {t : Value} :
    t ∈ groupOf L d ↔ t ∈ L ∧ descKey t = d := by
  simp [groupOf]

theorem keptOf_groupOf {L : List Value} {d : String} (hd : d ∈ L.map descKey) :
    ∃ t, keptOf (groupOf L d) = some t ∧ descKey t = d ∧ FirstLatest (groupOf L d) t := by
  obtain ⟨u, hu, rfl⟩ := List.mem_map.1 hd
  have hne : groupOf L (descKey u) ≠ [] := List.ne_nil_of_mem (mem_groupOf.2 ⟨hu, rfl⟩)
  obtain ⟨t, hhead, pre, post, hg, hpre, hpost⟩ := head_laterFirst hne
  have ht : t ∈ groupOf L (descKey u) := by
    rw [hg]
    exact List.mem_append_right _ List.mem_cons_self
  exact ⟨t, hhead, (mem_groupOf.1 ht).2, pre, post, hg, hpre, hpost⟩

theorem keptList_eq (L : List Value) :
    keptList L = (L.map descKey).eraseDups.filterMap fun d => keptOf (groupOf L d) := by
  rw [keptList, groupsOf, List.map_map, List.filterMap_map]
  rfl

theorem keptList_keys (L : List Value) : (keptList L).map descKey = (L.map descKey).eraseDups := by
  rw [keptList_eq, List.map_filterMap]
  conv_rhs => rw [← List.filterMap_some (l := (L.map descKey).eraseDups)]
  apply List.filterMap_congr
  intro d hd
  obtain ⟨t, ht, hkey, -⟩ := keptOf_groupOf (List.mem_eraseDups.1 hd)
  rw [ht, Option.map_some, hkey]

theorem keptList_firstLatest {L : List Value} {t : Value} (ht : t ∈ keptList L) :
    FirstLatest (groupOf L (descKey t)) t := by
  rw [keptList_eq, List.mem_filterMap] at ht
  obtain ⟨d, hd, hkept⟩ := ht
  obtain ⟨t', ht', hkey, hlatest⟩ := keptOf_groupOf (List.mem_eraseDups.1 hd)
  rw [hkept, Option.some_inj] at ht'
  subst ht'
  rw [hkey]
  exact hlatest

theorem mem_keptList_of_single {L : List Value} {t : Value} (ht : t ∈ L)
    (hone : groupOf L (descKey t) = [t]) : t ∈ keptList L := by
  have hd : descKey t ∈ L.map descKey := List.mem_map_of_mem ht
  obtain ⟨u, hu, hkey, -⟩ := keptOf_groupOf hd
  have hut : u = t := by
    rw [hone, keptOf, List.mergeSort_singleton, List.head?_cons, Option.some_inj] at hu
    exact hu.symm
  rw [keptList_eq, List.mem_filterMap]
  exact ⟨descKey t, List.mem_eraseDups.2 hd, hut ▸ hu⟩


/-! ## The cleanup -/

theorem lookup_eq_getD {t : Value} (h : t.isObj = true) (k : String) (d : Value) :
    t.lookup k d = .ok (t.getD k d) := by
  cases t <;> simp_all [Value.isObj, Value.lookup]

/-- Ranking stamped tasks by their `updated` values, latest first, is the stable sort by
`laterFirst`. -/
theorem sortByKey_updated {g : List Value} (h : ∀ t ∈ g, t.isObj = true ∧ Stamped t) :
    sortByKey (fun t => t.lookup "updated" (.str "")) true g = { items := g.mergeSort laterFirst } :=
  sortByKey_desc_eq_mergeSort stampOf _ g fun t ht => by
    obtain ⟨hobj, s, hs⟩ := h t ht
    rw [lookup_eq_getD hobj, hs, stampOf, hs]

theorem keptOf_of_length_le_one {g : List Value} (h : g.length ≤ 1) : keptOf g = g.head? := by
  match g, h with
  | [], _ => simp [keptOf]
  | [t], _ => simp [keptOf]

/-- How a group is ranked: a group of more than one task is sorted by `updated`, latest first,
and keeps its first task; that sort may fail. -/
def rankGroup (g : String × List Value) : Except Fault (Option Value) :=
  if g.2.length > 1 then
    let s := sortByKey (fun t => t.lookup "updated" (.str "")) true g.2
    match s.fault with
    | some e => .error e
    | none => .ok s.items.head?
  else .ok g.2.head?

/-- A group of objects that, when it has more than one task, are all stamped keeps its latest
task. -/
theorem rankGroup_eq_keptOf {g : String × List Value} (hobj : ∀ t ∈ g.2, t.isObj = true)
    (hstamp : 1 < g.2.length → ∀ t ∈ g.2, Stamped t) : rankGroup g = .ok (keptOf g.2) := by
  unfold rankGroup
  split_ifs with hlen
  · rw [sortByKey_updated fun t ht => ⟨hobj t ht, hstamp hlen t ht⟩]
    rfl
  · rw [keptOf_of_length_le_one (Nat.le_of_not_lt hlen)]

/-- A map whose every step is a step that may fail changes nothing, and fails at the first step
that fails. -/
theorem run_mapM_of_lift {α β : Type} {f : α → WorkspaceM β} {r : α → Except Fault β}
    (w : Workspace) :
    ∀ {xs : List α}, (∀ x ∈ xs, f x = lift (r x)) → (xs.mapM f).run.run w = (xs.mapM r, w)
  | [], _ => rfl
  | x :: xs, h => by
    have ih := run_mapM_of_lift w fun y hy => h y (List.mem_cons_of_mem x hy)
    rw [List.mapM_cons, List.mapM_cons, h x List.mem_cons_self, run_bind_eq]
    cases r x with
    | error e => rfl
    | ok b =>
      rw [run_lift_ok]
      dsimp only
      rw [run_bind_eq, ih]
      cases xs.mapM r <;> rfl

/-- The cleanup of a queue of groupable tasks ranks each group. When every ranking succeeds it
writes the kept tasks back and reports the counts; when one fails it reports the fault and
leaves the workspace as it was. -/
theorem dropDuplicates_run_eq {w : Workspace} {L : List Value}
    (hread : readJson? w.files.tasks = some (.arr L)) (hL : ∀ t ∈ L, Groupable t) :
    dropDuplicates.run.run w = match (groupsOf L).mapM rankGroup with
      | .ok kept => (.ok (.obj [("status", .str "success"), ("original_count", .int L.length),
          ("final_count", .int (kept.filterMap id).length),
          ("duplicates_removed", .int (L.length - (kept.filterMap id).length))]),
         { w with files := { w.files with
            tasks := some (Value.write .fileAscii (.arr (kept.filterMap id))) } })
      | .error e => (.ok (.obj [("status", .str "error"), ("error", .str e.message)]), w) := by
  have hq : queueValue.run.run w = (.ok (.arr L), w) := by
    show (Except.ok ((readJson? w.files.tasks).getD (.arr [])), w) = _
    rw [hread]
    rfl
  unfold dropDuplicates
  rw [run_bind_eq, run_attempt, run_bind_eq, hq]
  dsimp only
  rw [run_bind_eq, show Value.count (.arr L) = .ok L.length from rfl, run_lift_ok]
  dsimp only
  rw [run_bind_eq, show Value.elems (.arr L) = .ok L from rfl, run_lift_ok]
  dsimp only
  rw [run_bind_eq, groupByDescription_eq hL, run_lift_ok]
  dsimp only
  rw [run_bind_eq, run_mapM_of_lift (r := rankGroup) w]
  · cases (groupsOf L).mapM rankGroup <;> rfl
  -- the step of each group is its ranking, lifted
  intro g _
  unfold rankGroup
  split_ifs
  · split
    all_goals
      next hf =>
        simp only [hf]
        rfl
  · rfl

/-- The cleanup keeps one task per stripped description, in order of first appearance: the
latest of its group, the first on ties; it writes them back and reports the counts. -/
theorem dropDuplicates_keeps_latest {w : Workspace} {L : List Value}
    (hread : readJson? w.files.tasks = some (.arr L)) (hL : ∀ t ∈ L, Groupable t)
    (hstamp : ∀ t ∈ L, 1 < (groupOf L (descKey t)).length → Stamped t) :
    ∃ K : List Value, dropDuplicates.run.run w =
        (.ok (.obj [("status", .str "success"), ("original_count", .int L.length),
          ("final_count", .int (L.map descKey).eraseDups.length),
          ("duplicates_removed", .int (L.length - (L.map descKey).eraseDups.length))]),
         { w with files := { w.files with tasks := some (Value.write .fileAscii (.arr K)) } }) ∧
      K.map descKey = (L.map descKey).eraseDups ∧
      (∀ t ∈ K, FirstLatest (groupOf L (descKey t)) t) ∧
      ∀ t ∈ L, groupOf L (descKey t) = [t] → t ∈ K := by
  have hrank : (groupsOf L).mapM rankGroup = .ok ((groupsOf L).map fun g => keptOf g.2) := by
    refine mapM_eq_pure_of_forall (m := Except Fault) fun g hg => ?_
    obtain ⟨d, -, rfl⟩ := List.mem_map.1 hg
    refine rankGroup_eq_keptOf (fun t ht => (hL t (mem_groupOf.1 ht).1).1) fun hlen t ht => ?_
    obtain ⟨htL, rfl⟩ := mem_groupOf.1 ht
    exact hstamp t htL hlen
  have hlen : (keptList L).length = (L.map descKey).eraseDups.length := by
    rw [← keptList_keys L, List.length_map]
  refine ⟨keptList L, ?_, keptList_keys L, fun t ht => keptList_firstLatest ht,
    fun t ht hone => mem_keptList_of_single ht hone⟩
  rw [dropDuplicates_run_eq hread hL, hrank, ← hlen]
  rfl

/-- Two copies of one task, updated on different days, and a task of its own. -/
theorem dropDuplicates_keeps_latest_two_copies :
    let L : List Value := [.obj [("description", .str "ship"), ("updated", .str "2025-01-14")],
      .obj [("description", .str " ship"), ("updated", .str "2025-01-15")],
      .obj [("description", .str "docs")]]
    let w : Workspace :=
      { clock := { year := 2025, month := 1, day := 15 }, files := { tasks := some (Value.write .file (.arr L)) } }
    ∃ K : List Value, dropDuplicates.run.run w =
        (.ok (.obj [("status", .str "success"), ("original_count", .int L.length),
          ("final_count", .int (L.map descKey).eraseDups.length),
          ("duplicates_removed", .int (L.length - (L.map descKey).eraseDups.length))]),
         { w with files := { w.files with tasks := some (Value.write .fileAscii (.arr K)) } }) ∧
      K.map descKey = (L.map descKey).eraseDups ∧
      (∀ t ∈ K, FirstLatest (groupOf L (descKey t)) t) ∧
      ∀ t ∈ L, groupOf L (descKey t) = [t] → t ∈ K := by
  intro L w
  have hplain : (Value.arr L).Plain := .arr fun x hx => by
    simp only [L, List.mem_cons, List.mem_nil_iff, or_false] at hx
    rcases hx with rfl | rfl | rfl
    all_goals
      refine .obj (by decide) fun kv hkv => ?_
      simp only [List.mem_cons, List.mem_nil_iff, or_false] at hkv
      rcases hkv with rfl | rfl <;> exact .str _
  have hL : ∀ t ∈ L, Groupable t ∧ Stamped t := by
    intro t ht
    simp only [L, List.mem_cons, List.mem_nil_iff, or_false] at ht
    rcases ht with rfl | rfl | rfl
    all_goals exact ⟨⟨rfl, _, rfl⟩, _, rfl⟩
  exact dropDuplicates_keeps_latest (Queue.readJson_write hplain) (fun t ht => (hL t ht).1)
    fun t ht _ => (hL t ht).2


/-- Two copies of one task, one with a null `updated`: the ranking compares a null with a text,
which has no order, so the cleanup reports the fault and writes nothing. -/
theorem dropDuplicates_null_stamp :
    let L : List Value := [.obj [("description", .str "x"), ("updated", .null)],
      .obj [("description", .str "x"), ("updated", .str "2025-01-15T20:00:00+08:00")]]
    let w : Workspace :=
      { clock := { year := 2025, month := 1, day := 15 }, files := { tasks := some (Value.write .file (.arr L)) } }
    dropDuplicates.run.run w = (.ok (.obj [("status", .str "error"),
      ("error", .str "'<' not supported between instances of 'NoneType' and 'str'")]), w) := by
  intro L w
  have hplain : (Value.arr L).Plain := .arr fun x hx => by
    simp only [L, List.mem_cons, List.mem_nil_iff, or_false] at hx
    rcases hx with rfl | rfl
    all_goals
      refine .obj (by decide) fun kv hkv => ?_
      simp only [List.mem_cons, List.mem_nil_iff, or_false] at hkv
      rcases hkv with rfl | rfl
      all_goals constructor
  have hL : ∀ t ∈ L, Groupable t := by
    intro t ht
    simp only [L, List.mem_cons, List.mem_nil_iff, or_false] at ht
    rcases ht with rfl | rfl
    all_goals exact ⟨rfl, _, rfl⟩
  rw [dropDuplicates_run_eq (Queue.readJson_write hplain) hL]
  rfl

end Taskflow.Workspace
