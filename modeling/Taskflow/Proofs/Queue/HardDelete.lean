import Taskflow.Proofs.Workspace.Resume
/-!
Deleting a task for good, and cleaning up after it.
-/
namespace Taskflow.Queue
open Json Workspace

/-- Whether the lines after `ls` are skipped, from the skip state `skip`: a line naming the task
starts a skip, and a blank line ends one. -/
def skipAfter (id : String) (skip : Bool) (ls : List String) : Bool :=
  ls.foldl (fun s l => Text.has l id || (s && Text.strip l != "")) skip

/-- The lines `ls` end inside a block the clean-up skips: a line of them names the task, and no
line after it is blank. -/
def InBlock (id : String) (ls : List String) : Prop :=
  ∃ a l b, ls = a ++ l :: b ∧ Text.has l id = true ∧ ∀ m ∈ b, Text.strip m ≠ ""

section Lines

variable {id : String}

/-- The kept lines of two pieces of a note: the second piece is read from the skip state the
first leaves. -/
theorem keepLines_append (id : String) : ∀ (pre rest : List String) (skip : Bool),
    keepLines id (pre ++ rest) skip = keepLines id pre skip ++ keepLines id rest (skipAfter id skip pre)
  | [], _, _ => rfl
  | l :: pre, rest, skip => by
    simp only [List.cons_append, keepLines, skipAfter, List.foldl_cons]
    by_cases hl : Text.has l id = true
    · simp only [hl, ↓reduceIte, Bool.true_or]
      exact keepLines_append id pre rest true
    · by_cases hb : Text.strip l = ""
      · cases skip <;> simp [hl, hb, keepLines_append id pre rest, skipAfter]
      · have hne : (Text.strip l != "") = true := bne_iff_ne.2 hb
        cases skip <;> simp [hl, hb, hne, keepLines_append id pre rest, skipAfter]

theorem keepLines_snoc (id : String) (pre : List String) (l : String) :
    keepLines id (pre ++ [l]) false = keepLines id pre false ++
      (if Text.has l id || skipAfter id false pre then [] else [l]) := by
  rw [keepLines_append]
  cases skipAfter id false pre <;> by_cases hl : Text.has l id = true <;>
    by_cases hb : Text.strip l = "" <;> simp [keepLines, hl, hb]

theorem inBlock_cons {m : String} {ls : List String} :
    InBlock id (m :: ls) ↔
      InBlock id ls ∨ (Text.has m id = true ∧ ∀ x ∈ ls, Text.strip x ≠ "") := by
  constructor
  · rintro ⟨a, l, b, h, hl, hb⟩
    cases a with
    | nil =>
      -- the first line names the task, and no later line is blank
      simp only [List.nil_append, List.cons.injEq] at h
      obtain ⟨rfl, rfl⟩ := h
      exact .inr ⟨hl, hb⟩
    | cons x a =>
      simp only [List.cons_append, List.cons.injEq] at h
      exact .inl ⟨a, l, b, h.2, hl, hb⟩
  · rintro (⟨a, l, b, rfl, hl, hb⟩ | ⟨hm, hls⟩)
    · exact ⟨m :: a, l, b, rfl, hl, hb⟩
    · exact ⟨[], m, ls, rfl, hm, hls⟩

/-- The skip state after some lines: inside a block a line of them opened, or still in the
block open before them when none of them is blank. -/
theorem skipAfter_iff (id : String) : ∀ (ls : List String) (skip : Bool),
    skipAfter id skip ls = true ↔ InBlock id ls ∨ (skip = true ∧ ∀ m ∈ ls, Text.strip m ≠ "")
  | [], skip => by
    simp only [skipAfter, List.foldl_nil, List.not_mem_nil, false_imp_iff, implies_true, and_true,
      iff_or_self]
    rintro ⟨a, l, b, h, -⟩
    simp at h
  | m :: ls, skip => by
    rw [skipAfter, List.foldl_cons, ← skipAfter, skipAfter_iff id ls, inBlock_cons]
    by_cases hm : Text.has m id = true <;> by_cases hb : Text.strip m = "" <;> cases skip <;>
      simp [hm, hb, bne_iff_ne]

/-- From no skip, the lines end in a skipped block exactly when the clean-up is skipping after
them. -/
theorem skipAfter_false_iff (id : String) (ls : List String) :
    skipAfter id false ls = true ↔ InBlock id ls := by
  simp [skipAfter_iff]

/-- A line that does not name the task, after lines that do not end in a skipped block, is
kept. -/
theorem keepLines_snoc_kept {pre : List String} {l : String} (hl : Text.has l id = false)
    (hb : ¬ InBlock id pre) : keepLines id (pre ++ [l]) false = keepLines id pre false ++ [l] := by
  rw [keepLines_snoc, hl, Bool.false_or, Bool.eq_false_iff.2 fun h => hb ((skipAfter_false_iff id pre).1 h)]
  rfl

/-- A line that names the task, or comes inside a skipped block, goes. -/
theorem keepLines_snoc_dropped {pre : List String} {l : String}
    (h : Text.has l id = true ∨ InBlock id pre) :
    keepLines id (pre ++ [l]) false = keepLines id pre false := by
  rw [keepLines_snoc]
  rcases h with h | h
  · simp [h]
  · simp [(skipAfter_false_iff id pre).2 h]

/-- No kept line names the task. -/
theorem keepLines_no_mention (id : String) : ∀ (ls : List String) (skip : Bool),
    ∀ l ∈ keepLines id ls skip, Text.has l id = false
  | [], _ => by simp [keepLines]
  | m :: ls, skip => by
    intro l hl
    simp only [keepLines] at hl
    split at hl
    · exact keepLines_no_mention id ls true l hl
    · split at hl
      · exact keepLines_no_mention id ls false l hl
      · split at hl
        · exact keepLines_no_mention id ls true l hl
        · rcases List.mem_cons.1 hl with rfl | hl
          · simpa using ‹¬Text.has l id = true›
          · exact keepLines_no_mention id ls false l hl

end Lines

/-! ## Keeping the items with another id -/

section Keys

/-- The flags a loop computes for items that all carry the key: whether the item's value under
it differs from `id`. -/
theorem mapM_keep_eq {k : String} {id : Value} : ∀ {data : List Value},
    (∀ t ∈ data, ∃ v, t.item k = .ok v) →
      data.mapM (fun t => do return !(← t.item k).same id) =
        .ok (data.map fun t => !(t.getD k .null).same id)
  | [], _ => rfl
  | t :: data, h => by
    obtain ⟨v, hv⟩ := h t List.mem_cons_self
    rw [List.mapM_cons, mapM_keep_eq fun u hu => h u (List.mem_cons_of_mem t hu)]
    simp [hv, getD_of_item hv, bind, Except.bind, pure, Except.pure]

theorem zip_filter_map {α : Type} (data : List α) (p : α → Bool) :
    ((data.zip (data.map p)).filter (·.2)).map (·.1) = data.filter p := by
  induction data with
  | nil => rfl
  | cons x xs ih => by_cases hp : p x = true <;> simp [hp, ih]

theorem hardDeleteTasks_of_hasIds {data : List Value} (h : HasIds data) (id : Value) :
    hardDeleteTasks id data = data.filter fun t => !(t.getD "id" .null).same id := by
  rw [hardDeleteTasks, mapM_keep_eq h]
  exact zip_filter_map data _

end Keys

/-! ## The tracker's clean-up -/

/-- The tracker's file holds the tracker as memory holds it, stamped with the clock. -/
def TrackerSaved (w : Workspace) : Prop :=
  w.files.interruptions = some (Value.write .fileAscii (.obj [("current_task", w.interruptions.current),
    ("interrupted_tasks", w.interruptions.interrupted), ("last_updated", .str w.clock.iso)]))

/-- The tracker can read its current task: there is none, or it carries a task id. -/
def CurrentReadable (current : Value) : Prop :=
  current.truthy = false ∨ ∃ v, current.item "task_id" = .ok v

/-- The current task once the tracker forgets `id`: none when it was that task. -/
def forgetCurrent (id current : Value) : Value :=
  if current.truthy && (current.getD "task_id" .null).same id then .null else current

def forgetEntries (id : Value) (es : List Value) : List Value :=
  es.filter fun e => !(e.getD "task_id" .null).same id

section Tracker

variable {id : Value} {E : Workspace → Prop}

theorem triple_saveInterruptions_saved {P : Workspace → Prop}
    (hP : ∀ w f, P w → P { w with files := f }) :
    Triple P saveInterruptions (fun _ w => P w ∧ TrackerSaved w) E := by
  intro w hw
  rw [run_saveInterruptions]
  exact ⟨hP w _ hw, rfl⟩

theorem triple_forgetInterrupted {cur : Value} {es : List Value} (hcur : CurrentReadable cur)
    (hes : ∀ e ∈ es, ∃ v, e.item "task_id" = .ok v) :
    Triple (fun w => w.interruptions.current = cur ∧ w.interruptions.interrupted = .arr es)
      (forgetInterrupted id)
      (fun _ w => w.interruptions.current = forgetCurrent id cur ∧
        w.interruptions.interrupted = .arr (forgetEntries id es) ∧ TrackerSaved w)
      (fun _ => False) := by
  unfold forgetInterrupted
  refine Triple.get_bind fun w ⟨hc, hi⟩ => ?_
  extract_lets im rest
  -- the entries' clean-up, once the current task is forgotten
  have h_rest : ∀ u, Triple (fun w => w.interruptions.current = forgetCurrent id cur ∧
      w.interruptions.interrupted = .arr es) (rest u)
      (fun _ w => w.interruptions.current = forgetCurrent id cur ∧
        w.interruptions.interrupted = .arr (forgetEntries id es) ∧ TrackerSaved w)
      (fun _ => False) := fun _ => by
    refine Triple.get_bind fun w' ⟨_, hi'⟩ => ?_
    dsimp only
    rw [hi']
    have hsave : Triple (fun w => w.interruptions.current = forgetCurrent id cur ∧
        w.interruptions.interrupted = .arr (forgetEntries id es)) saveInterruptions
        (fun _ w => (w.interruptions.current = forgetCurrent id cur ∧
          w.interruptions.interrupted = .arr (forgetEntries id es)) ∧ TrackerSaved w)
        (fun _ => False) := triple_saveInterruptions_saved fun _ _ h => h
    refine Triple.lift_ok_bind rfl (Triple.lift_ok_bind (mapM_keep_eq hes) ?_)
    refine Triple.bind (Triple.update fun w'' hw'' => ⟨hw''.1, ?_⟩) fun _ =>
      Triple.bind hsave fun _ => Triple.update fun _ h => ⟨h.1.1, h.1.2, h.2⟩
    simp only [zip_filter_map, forgetEntries]
  have hcw : im.current = cur := hc
  split
  · next htruthy =>
    rw [hcw] at htruthy ⊢
    obtain ⟨v, hv⟩ := hcur.resolve_left (by simp [htruthy])
    refine Triple.lift_ok_bind hv ?_
    split
    · next hsame =>
      -- the current task is the one forgotten: it is cleared, and the file saved
      have hforget : forgetCurrent id cur = .null := by
        simp [forgetCurrent, htruthy, getD_of_item hv, hsame]
      refine Triple.bind (Triple.update fun w' hw' => ?_) fun _ =>
        Triple.bind (triple_saveInterruptions_saved fun _ _ h => h) fun _ =>
        Triple.bind (Triple.update fun _ h => h.1) h_rest
      exact ⟨hforget.symm, hw'.2⟩
    · next hsame =>
      refine (h_rest ()).conseq (fun w' hw' => ⟨?_, hw'.2⟩) (fun _ _ h => h) fun _ h => h
      simp [forgetCurrent, htruthy, getD_of_item hv, hsame, hw'.1]
  · next htruthy =>
    refine (h_rest ()).conseq (fun w' hw' => ⟨?_, hw'.2⟩) (fun _ _ h => h) fun _ h => h
    rw [hcw] at htruthy
    simp [forgetCurrent, htruthy, hw'.1]

/-- A current task the tracker cannot read makes its clean-up fault before any change. -/
theorem triple_forgetInterrupted_unreadable {w₀ : Workspace}
    (hcur : ¬ CurrentReadable w₀.interruptions.current) :
    Triple (· = w₀) (forgetInterrupted id) (fun _ _ => False) (· = w₀) := by
  unfold forgetInterrupted
  refine Triple.get_bind fun w hw => ?_
  subst hw
  have htruthy : w.interruptions.current.truthy = true := by
    cases h : w.interruptions.current.truthy with
    | false => exact absurd (.inl h) hcur
    | true => rfl
  dsimp only
  simp only [htruthy, ↓reduceIte]
  cases hv : w.interruptions.current.item "task_id" with
  | ok v => exact absurd (.inr ⟨v, hv⟩) hcur
  | error e => exact Triple.lift_error_bind rfl fun _ h => h

end Tracker

/-! ## Frames of the deletion's steps -/

def trackerView (w : Workspace) : Interruptions × Option String :=
  (w.interruptions, w.files.interruptions)

section Frames

theorem keeps_save_tracker (data : List Value) : Keeps trackerView (save data) := by
  refine keeps_save (fun _ => ?_) (fun _ _ => rfl) (keeps_autoSync_unsynced.comp trackerView) data
  unfold writeQueue
  refine Keeps.bind Keeps.read fun w => ?_
  split <;> exact Keeps.update fun _ => rfl

theorem keeps_load_tracker : Keeps trackerView load := by
  unfold load queueText
  refine Keeps.bind (Keeps.bind Keeps.read fun _ => Keeps.ret _) fun text => ?_
  split
  · exact Keeps.ret _
  · refine Keeps.bind keeps_now fun _ => Keeps.bind (Keeps.lift _) fun r => ?_
    dsimp only
    split
    · exact Keeps.bind (keeps_save_tracker _) fun _ => Keeps.ret _
    · exact Keeps.ret _

end Frames

/-! ## The clean-ups, with the store they keep -/

section Cleanups

variable {X : String} {c : Time.Civil} {K es : List Value} {n : Option String} {cur : Value}
  {E : Workspace → Prop}

/-- The files' clean-up for a task id: it returns, cleans the note, and keeps the store and
whatever reads neither the note, the cursor file nor the print. -/
theorem triple_forgetInFiles_str {T : Workspace → Prop}
    (hT : ∀ w w' m, uncursored w' = withNote (uncursored w) m → T w → T w') :
    Triple (fun w => StoreAt .execution c K w ∧ w.files.note = n ∧ T w) (forgetInFiles (.str X))
      (fun _ w => StoreAt .execution c K w ∧ w.files.note = cleanedNote (.str X) n ∧ T w)
      (fun _ => False) := by
  refine Triple.of_pre fun w₀ ⟨hs, hn, ht⟩ => (triple_forgetInFiles (.str X) w₀).conseq
    (fun _ h => h) (fun _ w h => ⟨hs.of_view ?_, ?_, hT w₀ w _ h ht⟩) fun w ⟨_, _, _, _, he⟩ => ?_
  · have hv := congrArg storeView h
    exact hv
  · have hv := congrArg (fun v => v.files.note) h
    simp only [uncursored, withNote] at hv
    rw [hv, hn]
  · simp [Value.holds] at he

/-- The tracker's clean-up when it can read its current task: it returns, forgets the task in
memory and in its file, and keeps the store and the note. -/
theorem triple_forgetInterrupted_readable (hcur : CurrentReadable cur)
    (hes : ∀ e ∈ es, ∃ v, e.item "task_id" = .ok v) :
    Triple (fun w => StoreAt .execution c K w ∧ w.files.note = n ∧
        w.interruptions.current = cur ∧ w.interruptions.interrupted = .arr es)
      (forgetInterrupted (.str X))
      (fun _ w => StoreAt .execution c K w ∧ w.files.note = n ∧
        w.interruptions.current = forgetCurrent (.str X) cur ∧
        w.interruptions.interrupted = .arr (forgetEntries (.str X) es) ∧ TrackerSaved w)
      (fun _ => False) := by
  have hframe : Triple (fun w => StoreAt .execution c K w ∧ w.files.note = n)
      (forgetInterrupted (.str X)) (fun _ w => StoreAt .execution c K w ∧ w.files.note = n)
      (fun w => StoreAt .execution c K w ∧ w.files.note = n) :=
    (keeps_forgetInterrupted_untracked (.str X)).triple fun w w' hv ⟨hs, hn⟩ => by
      have hview := congrArg storeView hv
      have hnote := congrArg (fun v => v.files.note) hv
      exact ⟨hs.of_view hview, hnote.trans hn⟩
  exact (hframe.and (triple_forgetInterrupted hcur hes)).conseq
    (fun _ ⟨hs, hn, hc, hi⟩ => ⟨⟨hs, hn⟩, hc, hi⟩) (fun _ _ ⟨⟨hs, hn⟩, hc, hi, hsaved⟩ =>
      ⟨hs, hn, hc, hi, hsaved⟩) fun _ h => h.2

/-- The files' clean-up leaves the tracker and the clock. -/
theorem tracker_of_uncursored {w w' : Workspace} {m : Option String}
    (h : uncursored w' = withNote (uncursored w) m) :
    trackerView w' = trackerView w ∧ w'.clock = w.clock := by
  have ht := congrArg trackerView h
  have hc := congrArg Workspace.clock h
  exact ⟨ht, hc⟩

theorem TrackerSaved.of_view {w w' : Workspace} (h : TrackerSaved w)
    (ht : trackerView w' = trackerView w) (hc : w'.clock = w.clock) : TrackerSaved w' := by
  simp only [trackerView, Prod.mk.injEq] at ht
  unfold TrackerSaved
  rw [ht.1, ht.2, hc]
  exact h

end Cleanups

/-! ## The whole deletion -/

/-- Deleting a stored task by its id: the store keeps the other tasks; a tracker that can read
its current task forgets the task in memory and in its file, and one that cannot is left as it
was; the note is the one the store's write left, cleaned of the task's lines. -/
theorem hardDelete_cleans_up {w : Workspace} {c : Time.Civil} {L es : List Value} {X : String}
    (hw : StoreAt .execution c L w) (hL : Tidy L) (hids : HasIds L)
    (hX : ∃ t ∈ fresh c L, (t.getD "id" .null).same (.str X) = true)
    (hes : w.interruptions.interrupted = .arr es) (hent : ∀ e ∈ es, ∃ v, e.item "task_id" = .ok v) :
    ∃ w', (hardDelete (.str X)).run.run w = (.ok (), w') ∧
      Stored w' ((fresh c L).filter fun t => !(t.getD "id" .null).same (.str X)) ∧
      (CurrentReadable w.interruptions.current →
        w'.interruptions.current = forgetCurrent (.str X) w.interruptions.current ∧
        w'.interruptions.interrupted = .arr (forgetEntries (.str X) es) ∧ TrackerSaved w') ∧
      (¬ CurrentReadable w.interruptions.current → trackerView w' = trackerView w) ∧
      w'.files.note = cleanedNote (.str X)
        ((load >>= fun data => save (hardDeleteTasks (.str X) data)).run.run w).2.files.note := by
  refine Triple.run_unit ?_
  unfold hardDelete
  -- the read: the fresh list, with the tracker as it was
  refine Triple.bind_run (triple_load hL) hw (fun _ h => nomatch h.1)
    fun _ w₁ ⟨hw₁, hdata, hclean⟩ hload => ?_
  obtain rfl := hdata rfl
  have htr₁ : trackerView w₁ = trackerView w := by
    have h := keeps_load_tracker w
    rwa [hload] at h
  have hids₁ : HasIds (fresh c L) := hids.fresh c
  refine Triple.lift_ok_bind (mapM_keep_eq hids₁) ?_
  dsimp only
  rw [zip_filter_map]
  -- the task is there, so the deletion writes
  have hshort : ((fresh c L).filter fun t => !(t.getD "id" .null).same (.str X)).length <
      (fresh c L).length := by
    obtain ⟨t, ht, hs⟩ := hX
    exact List.length_filter_lt_length_iff_exists.2 ⟨t, ht, by simp [hs]⟩
  rw [if_pos hshort]
  refine Triple.bind_run (triple_save (fun _ => hL.fresh.sublist List.filter_sublist)
      (hclean.sublist List.filter_sublist)) hw₁
    (fun _ h => h) fun _ w₂ hw₂ hsave => ?_
  rw [written_execution] at hw₂
  have htr₂ : trackerView w₂ = trackerView w := by
    have h := keeps_save_tracker ((fresh c L).filter fun t => !(t.getD "id" .null).same (.str X)) w₁
    rw [hsave] at h
    exact h.trans htr₁
  -- the note the write left is the note the clean-up starts from
  have hn₂ : ((load >>= fun data => save (hardDeleteTasks (.str X) data)).run.run w).2.files.note =
      w₂.files.note := by
    rw [run_bind_eq, hload]
    dsimp only
    rw [hardDeleteTasks_of_hasIds hids₁, hsave]
  rw [hn₂]
  generalize hK : (fresh c L).filter (fun t => !(t.getD "id" .null).same (.str X)) = K at hw₂ ⊢
  -- printing keeps the store, the note and the tracker
  have hsay : ∀ line, Triple (fun w' => StoreAt .execution c K w' ∧ w'.files.note = w₂.files.note ∧
      trackerView w' = trackerView w) (say line) (fun _ w' => StoreAt .execution c K w' ∧
      w'.files.note = w₂.files.note ∧ trackerView w' = trackerView w) (fun _ => False) :=
    fun _ => Triple.update fun _ ⟨hs, hn, ht⟩ => ⟨hs.of_view rfl, hn, ht⟩
  refine Triple.bind ((hsay _).conseq (fun w' hw' => by subst hw'; exact ⟨hw₂, rfl, htr₂⟩)
    (fun _ _ h => h) fun _ h => h) fun _ => ?_
  by_cases hr : CurrentReadable w.interruptions.current
  · -- the tracker forgets the task, then the files
    refine Triple.attempt_ok_bind ((triple_forgetInterrupted_readable hr hent).conseq
      (fun w' ⟨hs, hn, ht⟩ =>
        ⟨hs, hn, congrArg (·.1.current) ht, (congrArg (·.1.interrupted) ht).trans hes⟩)
      (fun _ _ h => h) fun _ h => h) fun _ => ?_
    dsimp only
    refine Triple.attempt_ok_bind (triple_forgetInFiles_str fun w w' m hu ⟨hc, hi, hs⟩ => ?_) fun _ => ?_
    · obtain ⟨ht, hclock⟩ := tracker_of_uncursored hu
      exact ⟨(congrArg (·.1.current) ht).trans hc, (congrArg (·.1.interrupted) ht).trans hi,
        hs.of_view ht hclock⟩
    exact Triple.ret () fun w' ⟨hs, hn, hc, hi, hsaved⟩ =>
      ⟨hs.stored, fun _ => ⟨hc, hi, hsaved⟩, fun h => absurd hr h, hn⟩
  · -- the tracker's clean-up faults before any change; the files' clean-up runs all the same
    refine Triple.of_pre fun w₃ ⟨hs₃, hn₃, ht₃⟩ => ?_
    have hcur₃ : ¬ CurrentReadable w₃.interruptions.current := by
      have hc : w₃.interruptions.current = w.interruptions.current := congrArg (·.1.current) ht₃
      rw [hc]
      exact hr
    have hforget : Triple (· = w₃) (attempt (forgetInterrupted (.str X)))
        (fun r w' => w' = w₃ ∧ ∃ e, r = .error e) (fun _ => False) :=
      Triple.attempt (triple_forgetInterrupted_unreadable hcur₃) (fun _ _ h => h.elim)
        fun e _ h => ⟨h, e, rfl⟩
    refine Triple.bind hforget fun r => Triple.pure_pre fun ⟨e, hre⟩ => ?_
    subst hre
    dsimp only
    refine Triple.bind ((hsay _).conseq (fun w' hw' => by subst hw'; exact ⟨hs₃, hn₃, ht₃⟩)
      (fun _ _ h => h) fun _ h => h) fun _ => ?_
    refine Triple.attempt_ok_bind (triple_forgetInFiles_str fun w w' m hu ht =>
      (tracker_of_uncursored hu).1.trans ht) fun _ => ?_
    exact Triple.ret () fun w' ⟨hs, hn, ht⟩ => ⟨hs.stored, fun h => absurd h hr, fun _ => ht, hn⟩

/-- A tracker whose current task is a bare id string keeps the deleted task, current and
waiting, while the store loses it. -/
theorem hardDelete_keeps_unreadable_tracker :
    let L : List Value := [freshTask "X1" "write docs" "2025-01-15T20:00:00+08:00"]
    let w : Workspace :=
      { clock := { year := 2025, month := 1, day := 15, hour := 12 },
        files := { tasks := some (Value.write .file (.arr L)) },
        interruptions :=
          { current := .str "X1",
            interrupted := .arr [.obj [("task_id", .str "X1"), ("description", .str "write docs")]] } }
    ∃ w', (hardDelete (.str "X1")).run.run w = (.ok (), w') ∧ Stored w' [] ∧
      w'.interruptions = w.interruptions := by
  intro L w
  have hL : Tidy L := by
    intro t ht
    simp only [L, List.mem_cons, List.mem_nil_iff, or_false] at ht
    subst ht
    exact ⟨freshTask_plain _ _ _, rfl⟩
  have hr : ¬ CurrentReadable w.interruptions.current := by
    rintro (h | ⟨v, hv⟩)
    · exact nomatch h
    · exact nomatch hv
  obtain ⟨w', hrun, hs, -, htr, -⟩ := @hardDelete_cleans_up w w.clock L
    [.obj [("task_id", .str "X1"), ("description", .str "write docs")]] "X1"
    ⟨rfl, rfl, by simp only [Stored, w, readJson_write hL.plain, Option.getD_some]⟩ hL
    (by
      intro t ht
      simp only [L, List.mem_cons, List.mem_nil_iff, or_false] at ht
      subst ht
      exact ⟨_, rfl⟩)
    (by decide +kernel) rfl (by
      intro e he
      simp only [List.mem_cons, List.mem_nil_iff, or_false] at he
      subst he
      exact ⟨_, rfl⟩)
  have hK : (fresh w.clock L).filter (fun t => !(t.getD "id" .null).same (.str "X1")) = [] := by
    decide +kernel
  exact ⟨w', hrun, hK ▸ hs, congrArg Prod.fst (htr hr)⟩

end Taskflow.Queue
