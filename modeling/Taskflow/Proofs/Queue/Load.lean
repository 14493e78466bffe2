import Taskflow.Proofs.Queue.View
import Taskflow.Proofs.Json.RoundTrip
/-!
Reading and writing the task store.
-/

namespace Taskflow.Queue

open Json Workspace

/-- The task list the execution queue's file holds; a file that is absent or not JSON holds
none. -/
def Stored (w : Workspace) (L : List Value) : Prop :=
  (readJson? w.files.tasks).getD (.arr []) = .arr L

/-- Task lists the store reads back as written and purges without a fault: plain objects. -/
def Tidy (L : List Value) : Prop := ∀ t ∈ L, t.Plain ∧ t.isObj = true

def fresh (now : Time.Civil) (L : List Value) : List Value := L.filter fun t => !isStale now t

/-- What the execution queue holds after an operation on queue `q` wrote `data` where the
execution queue held `L`. -/
def written : Queue → List Value → List Value → List Value
  | .execution, data, _ => data
  | .analysis, _, L => L

/-- The workspace works on queue `q` at clock `c`, with `L` in the execution queue. -/
structure StoreAt (q : Queue) (c : Time.Civil) (L : List Value) (w : Workspace) : Prop where
  queue : w.queue = q
  clock : w.clock = c
  stored : Stored w L

theorem StoreAt.of_written {c : Time.Civil} {X L : List Value} {w : Workspace}
    (h : StoreAt .execution c (written .execution X L) w) : StoreAt .execution c X w := h

section Lists

variable {c : Time.Civil} {L : List Value}

theorem Tidy.sublist {L' : List Value} (h : Tidy L) (hs : L'.Sublist L) : Tidy L' :=
  fun t ht => h t (hs.subset ht)

theorem Tidy.fresh (h : Tidy L) : Tidy (fresh c L) := h.sublist List.filter_sublist

theorem Tidy.plain (h : Tidy L) : (Value.arr L).Plain := .arr fun t ht => (h t ht).1

theorem purge_tidy (h : Tidy L) :
    purge c (.arr L) = .ok (fresh c L, decide ((fresh c L).length < L.length)) := by
  have hobj : L.find? (fun t => !t.isObj) = none :=
    List.find?_eq_none.2 fun t ht => by simp [(h t ht).2]
  simp only [purge, hobj, fresh]
  rfl

theorem fresh_eq_self (h : ¬ (fresh c L).length < L.length) : fresh c L = L := by
  have hle := List.length_filter_le (fun t => !isStale c t) L
  exact List.filter_eq_self.2 (List.length_filter_eq_length_iff.1 (by simp only [fresh] at h; omega))

theorem fresh_fresh : fresh c (fresh c L) = fresh c L := by
  simp only [fresh, List.filter_filter, Bool.and_self]

@[simp] theorem written_execution (data L : List Value) : written .execution data L = data := rfl

@[simp] theorem written_analysis (data L : List Value) : written .analysis data L = L := rfl

@[simp] theorem written_written (q : Queue) (d₁ d₂ L : List Value) :
    written q d₂ (written q d₁ L) = written q d₂ L := by
  cases q <;> rfl

end Lists

/-! ## Lists a read keeps whole -/

/-- A read at `c` keeps the list `L` whole: it removes no task, so it writes nothing back. -/
def ReadsClean (c : Time.Civil) (L : List Value) : Prop := purge c (.arr L) = .ok (L, false)

section Clean

variable {c : Time.Civil} {L : List Value}

theorem readsClean_iff : ReadsClean c L ↔ ∀ t ∈ L, t.isObj = true ∧ isStale c t = false := by
  unfold ReadsClean purge
  dsimp only
  split
  · next t hf =>
    -- a task that is no object makes the read fault
    have hobj : t.isObj = false := by simpa using List.find?_some hf
    simp only [reduceCtorEq, false_iff]
    exact fun h => absurd (h t (List.mem_of_find?_eq_some hf)).1 (by simp [hobj])
  · next hf =>
    have hobj : ∀ t ∈ L, t.isObj = true := fun t ht => by
      simpa using List.find?_eq_none.1 hf t ht
    simp only [Except.ok.injEq, Prod.mk.injEq, decide_eq_false_iff_not, Nat.not_lt]
    constructor
    · rintro ⟨hkeep, -⟩ t ht
      exact ⟨hobj t ht, by simpa using List.filter_eq_self.1 hkeep t ht⟩
    · intro h
      have hkeep : L.filter (fun t => !isStale c t) = L :=
        List.filter_eq_self.2 fun t ht => by simp [(h t ht).2]
      exact ⟨hkeep, Nat.le_of_eq (congrArg List.length hkeep).symm⟩

theorem ReadsClean.sublist {L' : List Value} (h : ReadsClean c L) (hs : L'.Sublist L) :
    ReadsClean c L' :=
  readsClean_iff.2 fun t ht => readsClean_iff.1 h t (hs.subset ht)

theorem ReadsClean.append {L' : List Value} (h : ReadsClean c L) (h' : ReadsClean c L') :
    ReadsClean c (L ++ L') :=
  readsClean_iff.2 fun t ht =>
    (List.mem_append.1 ht).elim (readsClean_iff.1 h t) (readsClean_iff.1 h' t)

theorem ReadsClean.set (h : ReadsClean c L) {t : Value} (hobj : t.isObj = true)
    (hstale : isStale c t = false) (i : Nat) : ReadsClean c (L.set i t) :=
  readsClean_iff.2 fun u hu =>
    (List.mem_or_eq_of_mem_set hu).elim (readsClean_iff.1 h u) fun e => e ▸ ⟨hobj, hstale⟩

/-- A purge that succeeds read a list of objects and kept the tasks that are not stale, saying
whether it dropped any. -/
theorem purge_eq_ok {doc : Value} {r : List Value × Bool} (h : purge c doc = .ok r) :
    ∃ xs, doc = .arr xs ∧ (∀ t ∈ xs, t.isObj = true) ∧
      r = (xs.filter (fun t => !isStale c t),
        decide ((xs.filter (fun t => !isStale c t)).length < xs.length)) := by
  unfold purge at h
  split at h
  · next xs =>
    split at h
    · cases h
    · next hf =>
      refine ⟨xs, rfl, fun t ht => by simpa using List.find?_eq_none.1 hf t ht, ?_⟩
      cases h
      rfl
  -- a text, an object or any other value faults
  · split at h <;> cases h
  · split at h <;> cases h
  · cases h

theorem readsClean_of_purge {doc : Value} {kept : List Value} {changed : Bool}
    (h : purge c doc = .ok (kept, changed)) : ReadsClean c kept := by
  obtain ⟨xs, -, hobj, hr⟩ := purge_eq_ok h
  rw [(Prod.mk.inj hr).1]
  exact readsClean_iff.2 fun t ht =>
    ⟨hobj t (List.mem_filter.1 ht).1, by simpa using (List.mem_filter.1 ht).2⟩

/-- A read that reports a change removed a task from a list: the list it keeps is strictly
shorter. -/
theorem purge_shortens {doc : Value} {kept : List Value} (h : purge c doc = .ok (kept, true)) :
    ∃ xs, doc = .arr xs ∧ kept.length < xs.length := by
  obtain ⟨xs, hdoc, -, hr⟩ := purge_eq_ok h
  obtain ⟨hkept, hshort⟩ := Prod.mk.inj hr
  exact ⟨xs, hdoc, hkept ▸ of_decide_eq_true hshort.symm⟩

end Clean

section Store

variable {q : Queue} {c : Time.Civil} {L : List Value} {α : Type} {E : Workspace → Prop}

theorem StoreAt.of_view {w w' : Workspace} (h : StoreAt q c L w)
    (hv : storeView w' = storeView w) : StoreAt q c L w' := by
  simp only [storeView, Prod.mk.injEq] at hv
  obtain ⟨hq, hc, ht⟩ := hv
  exact ⟨hq.trans h.queue, hc.trans h.clock, by rw [Stored, ht]; exact h.stored⟩

theorem Keeps.storeAt {act : WorkspaceM α} (h : Keeps storeView act) :
    Triple (StoreAt q c L) act (fun _ => StoreAt q c L) (StoreAt q c L) :=
  h.triple fun _ _ hv hs => hs.of_view hv

theorem Keeps.storeAt_of_eq {act : WorkspaceM α} (h : Keeps storeView act) {L' : List Value}
    (he : L' = L) : Triple (StoreAt q c L) act (fun _ => StoreAt q c L') (StoreAt q c L') := by
  subst he
  exact Keeps.storeAt h

theorem readJson_write {v : Value} (hv : v.Plain) :
    readJson? (some (Value.write .file v)) = some v := by
  simp only [readJson?, Option.bind_some, read_write_file hv, Except.toOption]

/-- The text of the queue in use; on the execution queue it reads as the stored list. -/
theorem triple_queueText :
    Triple (StoreAt q c L) queueText (fun text w => StoreAt q c L w ∧
      (q = .execution → (readJson? text).getD (.arr []) = .arr L)) E :=
  Triple.read fun w hw => ⟨hw, fun hq => by
    have h := hw.stored
    rw [Stored] at h
    rwa [hw.queue, hq]⟩

theorem triple_now : Triple (StoreAt q c L) now (fun t w => StoreAt q c L w ∧ t = c) E :=
  Triple.read fun _ hw => ⟨hw, hw.clock⟩

theorem triple_manilaNow :
    Triple (StoreAt q c L) manilaNow (fun s w => StoreAt q c L w ∧ s = Time.manila c) E :=
  Triple.bind triple_now fun _ => Triple.ret _ fun _ ⟨hw, ht⟩ => ⟨hw, by rw [ht]⟩

theorem triple_stampNow :
    Triple (StoreAt q c L) stampNow
      (fun s w => StoreAt q c L w ∧ s = .str (Time.manila c).iso) E :=
  Triple.bind triple_manilaNow fun _ => Triple.ret _ fun _ ⟨hw, ht⟩ => ⟨hw, by rw [ht]⟩

theorem triple_say (line : String) : Triple (StoreAt q c L) (say line) (fun _ => StoreAt q c L) E :=
  Triple.update fun _ hw => hw.of_view rfl

/-- Writing the queue: on the execution queue the file then holds the written tidy list. -/
theorem triple_writeQueue {data : List Value} (hd : q = .execution → Tidy data) :
    Triple (StoreAt q c L) (writeQueue (Value.write .file (.arr data)))
      (fun _ => StoreAt q c (written q data L)) E := by
  rintro ⟨clock, queue, files, cursor, im, printed⟩ ⟨hq, hc, hs⟩
  dsimp only at hq hc hs
  subst hq hc
  cases queue with
  | execution =>
    refine ⟨rfl, rfl, ?_⟩
    show (readJson? (some (Value.write .file (.arr data)))).getD (.arr []) = .arr data
    rw [readJson_write (hd rfl).plain]
    rfl
  | analysis => exact ⟨rfl, rfl, hs⟩

/-- The note's read of a list that reads clean at the clock purges nothing, writes nothing,
and gives the list. -/
theorem triple_reread_clean {P : Workspace → Prop} {data : List Value}
    (hclean : ∀ w, P w → ReadsClean w.clock data) :
    Triple P (reread data) (fun r w => P w ∧ r = data) E := by
  unfold reread
  refine Triple.bind (Q := fun n w => P w ∧ n = w.clock)
    (Triple.read (f := fun w => w.clock) fun _ hw => ⟨hw, rfl⟩) fun n => ?_
  split
  · next kept hp =>
    rintro w ⟨hw, rfl⟩
    exact absurd ((hclean w hw).symm.trans hp) (by simp)
  · next kept hp =>
    refine Triple.ret kept fun w hwn => ⟨hwn.1, ?_⟩
    obtain ⟨hw, rfl⟩ := hwn
    have h := (hclean w hw).symm.trans hp
    simp only [Except.ok.injEq, Prod.mk.injEq] at h
    exact h.1.symm
  · next e hp =>
    rintro w ⟨hw, rfl⟩
    exact absurd ((hclean w hw).symm.trans hp) (by simp)

/-- A save of a list that reads clean at the clock: the write leads from `P` to `Q`, which the
note, the note's read and the sync keep, the read purging nothing. -/
theorem triple_save_clean {P Q : Workspace → Prop} {data : List Value}
    (hwrite : Triple P (writeQueue (Value.write .file (.arr data))) (fun _ => Q) E)
    (hclean : ∀ w, Q w → ReadsClean w.clock data) (hnote : ∀ w text, Q w → Q (withNote w (some text)))
    (hsync : Triple Q autoSync (fun _ => Q) Q) : Triple P (save data) (fun _ => Q) E :=
  triple_save_of_reread hwrite ((triple_reread_clean hclean).conseq (fun _ h => h)
    (fun _ _ h => h.1) fun _ h => h) hnote hsync

/-- Saving a list that reads clean: the queue is written, and the note and memory folder
refreshed, which the store's view does not see. A save never faults. -/
theorem triple_save {data : List Value} (hd : q = .execution → Tidy data) (hclean : ReadsClean c data) :
    Triple (StoreAt q c L) (save data) (fun _ => StoreAt q c (written q data L)) E :=
  triple_save_clean (triple_writeQueue hd) (fun _ hw => hw.clock ▸ hclean)
    (fun _ _ hw => hw.of_view rfl) (Keeps.storeAt keeps_autoSync)

theorem written_nil_of_none (h : q = .execution → (none : Option Value).getD (.arr []) = .arr L) :
    written q [] L = L := by
  cases q with
  | execution =>
    have hL : L = [] := by simpa using (h rfl).symm
    subst hL
    rfl
  | analysis => rfl

/-- Reading the store. On the execution queue the read gives the fresh tasks and leaves them in
the file; it faults only on the analysis queue, and there the execution queue stays as it was,
whatever the read gives. -/
theorem triple_load (hL : Tidy L) :
    Triple (StoreAt q c L) load
      (fun data w => StoreAt q c (written q data L) w ∧ (q = .execution → data = fresh c L) ∧
        ReadsClean c data)
      (fun w => q = .analysis ∧ StoreAt q c L w) := by
  unfold load
  refine Triple.bind triple_queueText fun text => Triple.pure_pre fun htext => ?_
  split
  · next hnone =>
    rw [hnone] at htext
    refine Triple.ret [] fun w hw => ⟨by rw [written_nil_of_none htext]; exact hw, fun hq => ?_,
      readsClean_iff.2 fun _ h => nomatch h⟩
    have hL0 : L = [] := by simpa [hq] using (htext hq).symm
    simp [hL0, fresh]
  · next doc hdoc =>
    rw [hdoc] at htext
    -- on the execution queue the document is the stored list, which purges without a fault
    have hpurge : q = .execution →
        purge c (tasksOf doc) = .ok (fresh c L, decide ((fresh c L).length < L.length)) := by
      intro hq
      have hd : doc = .arr L := by simpa using htext hq
      rw [hd]
      exact purge_tidy hL
    refine Triple.bind triple_now fun n => Triple.pure_pre fun hn => ?_
    subst n
    refine Triple.bind (Triple.conseq (Triple.lift_ok _) (fun _ h => h) (fun _ _ h => h) ?_)
      fun r => ?_
    · rintro w ⟨hw, hfail⟩
      cases q with
      | execution => exact absurd (hpurge rfl) (hfail _)
      | analysis => exact ⟨rfl, hw⟩
    rcases r with ⟨kept, changed⟩
    refine Triple.pure_pre fun hr => ?_
    have hkept : q = .execution → kept = fresh c L ∧ changed = decide ((fresh c L).length < L.length) :=
      fun hq => by
        have h := (hpurge hq).symm.trans hr
        simp only [Except.ok.injEq, Prod.mk.injEq] at h
        exact ⟨h.1.symm, h.2.symm⟩
    -- what the read keeps reads clean, so the write-back's own read purges nothing
    have hclean : ReadsClean c kept := readsClean_of_purge hr
    dsimp only
    split
    · next hch =>
      refine Triple.bind (triple_save (fun hq => (hkept hq).1 ▸ hL.fresh) hclean) fun _ => ?_
      exact Triple.ret kept fun w hw => ⟨hw, fun hq => (hkept hq).1, hclean⟩
    · next hch =>
      refine Triple.ret kept fun w hw => ⟨?_, fun hq => (hkept hq).1, hclean⟩
      cases q with
      | execution =>
        obtain ⟨hk, hc⟩ := hkept rfl
        have hne : ¬ (fresh c L).length < L.length := by simpa [hc] using hch
        rw [written_execution, hk, fresh_eq_self hne]
        exact hw
      | analysis => exact hw

end Store

/-- Whatever the file holds and whichever queue is in use, a read keeps the clock and gives a
list that reads clean at it: the purge's own list, or none. -/
theorem triple_load_reads_clean (c : Time.Civil) :
    Triple (fun w => w.clock = c) load (fun data w => w.clock = c ∧ ReadsClean c data)
      (fun _ => True) := by
  have hwrite : ∀ text, Triple (fun w : Workspace => w.clock = c) (writeQueue text)
      (fun _ w => w.clock = c) (fun w => w.clock = c) := fun _ => by
    rintro ⟨clock, queue, files, cursor, im, printed⟩ rfl
    cases queue <;> rfl
  have hsave := triple_save_stays hwrite (fun _ _ hw => hw)
    (keeps_autoSync.triple fun _ _ hv hw => (congrArg (fun v => v.2.1) hv).trans hw)
  unfold load
  refine Triple.bind (Q := fun _ w => w.clock = c) (Triple.read fun _ hw => hw) fun text => ?_
  split
  · exact Triple.ret [] fun _ hw => ⟨hw, readsClean_iff.2 fun _ h => nomatch h⟩
  · refine Triple.bind (Q := fun n w => w.clock = c ∧ n = c)
      (Triple.read (f := fun w => w.clock) fun _ hw => ⟨hw, hw⟩) fun n => Triple.pure_pre fun hn => ?_
    subst hn
    refine Triple.bind (Triple.conseq (Triple.lift_ok _) (fun _ h => h) (fun _ _ h => h)
      fun _ _ => trivial) fun r => ?_
    rcases r with ⟨kept, changed⟩
    refine Triple.pure_pre fun hr => ?_
    have hclean : ReadsClean n kept := readsClean_of_purge hr
    dsimp only
    split
    · exact Triple.bind ((hsave kept).conseq (fun _ h => h) (fun _ _ h => h) fun _ _ => trivial)
        fun _ => Triple.ret kept fun _ hw => ⟨hw, hclean⟩
    · exact Triple.ret kept fun _ hw => ⟨hw, hclean⟩

end Taskflow.Queue
