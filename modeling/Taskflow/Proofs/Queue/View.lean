import Taskflow.Queue.Store
import Taskflow.Proofs.Workspace.Triple
/-!
The part of the workspace the task store answers to, and the actions that leave it alone.
-/

namespace Taskflow.Queue

open Json Workspace

def storeView (w : Workspace) : Queue × Time.Civil × Option String :=
  (w.queue, w.clock, w.files.tasks)

section Reads

variable {γ : Type} {π : Workspace → γ}

theorem keeps_now : Keeps π now := Keeps.read

theorem keeps_manilaNow : Keeps π manilaNow := Keeps.bind keeps_now fun _ => Keeps.ret _

theorem keeps_utcIso : Keeps π utcIso := Keeps.bind keeps_now fun _ => Keeps.ret _

theorem keeps_stampNow : Keeps π stampNow := Keeps.bind keeps_manilaNow fun _ => Keeps.ret _

theorem keeps_field (v : Value) (k : String) : Keeps π (field v k) :=
  Keeps.bind (Keeps.lift _) fun _ => Keeps.ret _

end Reads

theorem keeps_say (line : String) : Keeps storeView (say line) := Keeps.update fun _ => rfl

/-- The workspace without the note and the memory folder's files: what is left of it after
the note's and the sync's writes. -/
def unsynced (w : Workspace) : Workspace :=
  { w with
    files := { w.files with
      note := none, cursor := none, cursorCopy := none, taskCopy := none, interruptionCopy := none } }

theorem keeps_noteText {γ : Type} {π : Workspace → γ} (state : Value)
    {listing : WorkspaceM (List Value)} (h : Keeps π listing) : Keeps π (noteText state listing) := by
  unfold noteText
  exact Keeps.bind keeps_now fun _ => Keeps.bind (Keeps.lift _) fun _ =>
    Keeps.bind (Keeps.lift _) fun _ => Keeps.bind (Keeps.lift _) fun _ =>
      Keeps.bind (Keeps.attempt h) fun _ => Keeps.ret _

theorem keeps_dumpNote_unsynced {listing : WorkspaceM (List Value)} (h : Keeps unsynced listing) :
    Keeps unsynced (dumpNote listing) :=
  Keeps.bind Keeps.read fun w =>
    Keeps.bind (keeps_noteText w.cursor h) fun _ => Keeps.update fun _ => rfl

theorem keeps_dumpNote {listing : WorkspaceM (List Value)} (h : Keeps unsynced listing) :
    Keeps storeView (dumpNote listing) :=
  (keeps_dumpNote_unsynced h).comp storeView

theorem keeps_autoSync_unsynced : Keeps unsynced autoSync := by
  unfold autoSync
  refine Keeps.bind keeps_manilaNow fun stamp => Keeps.bind (Keeps.attempt ?_) fun r => ?_
  · refine Keeps.bind Keeps.read fun tasks => Keeps.bind (Keeps.lift _) fun active => ?_
    -- the sync's writes are join points of the do block, each proved once
    extract_lets current total note task
    have h_total : ∀ u, Keeps unsynced (total u) := fun _ =>
      Keeps.bind (Keeps.lift _) fun _ => Keeps.ret _
    have h_note : ∀ u, Keeps unsynced (note u) := fun _ => by
      refine Keeps.bind (Keeps.update fun _ => rfl) fun _ => ?_
      split
      · exact Keeps.bind (Keeps.update fun _ => rfl) h_total
      · exact h_total ()
    have h_task : ∀ u, Keeps unsynced (task u) := fun _ => by
      simp only [task]
      split
      · exact Keeps.bind (Keeps.update fun _ => rfl) h_note
      · exact h_note ()
    split
    · exact Keeps.bind (Keeps.update fun _ => rfl) h_task
    · exact h_task ()
  · split <;> exact Keeps.ret _

theorem keeps_autoSync : Keeps storeView autoSync := keeps_autoSync_unsynced.comp storeView

section Prints

/-! What only prints keeps every view that printing keeps. -/

variable {γ : Type} {π : Workspace → γ} (hsay : ∀ line, Keeps π (say line))
include hsay

theorem keeps_sayTodos (indent : String) (todos : Value) : Keeps π (sayTodos indent todos) :=
  Keeps.bind (Keeps.lift _) fun items =>
    Keeps.bind (Keeps.foldlM items 0 fun _ _ =>
      Keeps.bind (Keeps.lift _) fun _ => Keeps.bind (Keeps.lift _) fun _ =>
        Keeps.bind (hsay _) fun _ => Keeps.ret _) fun _ => Keeps.ret _

theorem keeps_sayMissing (id : Value) : Keeps π (sayMissing id) := hsay _

theorem keeps_sayBadIndex (index : Int) (todos : Value) : Keeps π (sayBadIndex index todos) :=
  Keeps.bind (Keeps.lift _) fun _ => Keeps.bind (hsay _) fun _ =>
    Keeps.bind (hsay _) fun _ => keeps_sayTodos hsay _ _

theorem keeps_printTask (t : Value) : Keeps π (printTask t) := by
  unfold printTask
  refine Keeps.bind (keeps_field _ _) fun _ => Keeps.bind (hsay _) fun _ =>
    Keeps.bind (keeps_field _ _) fun _ => Keeps.bind (hsay _) fun _ =>
    Keeps.bind (keeps_field _ _) fun _ => Keeps.bind (hsay _) fun _ =>
    Keeps.bind (Keeps.lift _) fun todos => ?_
  extract_lets last
  split
  · exact Keeps.bind (Keeps.lift _) fun _ => Keeps.bind (hsay _) fun _ =>
      Keeps.bind (keeps_sayTodos hsay _ _) fun _ => hsay _
  · exact Keeps.bind (hsay _) fun _ => hsay _

end Prints

/-- The workspace without the interruption tracker, its file and what was printed: what is
left of it after the tracker's clean-up. -/
def untracked (w : Workspace) : Workspace :=
  { w with
    interruptions := {}, printed := "", files := { w.files with interruptions := none } }

theorem keeps_saveInterruptions_untracked : Keeps untracked saveInterruptions :=
  Keeps.bind Keeps.read fun _ => Keeps.bind keeps_utcIso fun _ => Keeps.update fun _ => rfl

theorem keeps_forgetInterrupted_untracked (id : Value) :
    Keeps untracked (forgetInterrupted id) := by
  unfold forgetInterrupted
  refine Keeps.bind Keeps.read fun w => ?_
  extract_lets im rest
  have h_rest : ∀ u, Keeps untracked (rest u) := fun _ =>
    Keeps.bind Keeps.read fun _ => Keeps.bind (Keeps.lift _) fun _ =>
      Keeps.bind (Keeps.lift _) fun _ => Keeps.bind (Keeps.update fun _ => rfl) fun _ =>
        Keeps.bind keeps_saveInterruptions_untracked fun _ => Keeps.update fun _ => rfl
  split
  · refine Keeps.bind (Keeps.lift _) fun _ => ?_
    split
    · exact Keeps.bind (Keeps.update fun _ => rfl) fun _ =>
        Keeps.bind keeps_saveInterruptions_untracked fun _ =>
          Keeps.bind (Keeps.update fun _ => rfl) h_rest
    · exact h_rest ()
  · exact h_rest ()

theorem keeps_forgetInterrupted (id : Value) : Keeps storeView (forgetInterrupted id) :=
  (keeps_forgetInterrupted_untracked id).comp storeView

/-- The workspace without the cursor file and what was printed: what is left of it after the
files' clean-up, the note apart. -/
def uncursored (w : Workspace) : Workspace :=
  { w with printed := "", files := { w.files with cursor := none } }

def withNote (w : Workspace) (n : Option String) : Workspace :=
  { w with files := { w.files with note := n } }

/-- The note the files' clean-up for `id` leaves of `note`: when the note holds the id, the
lines naming it go, each with the lines after it up to and including the next blank one. -/
def cleanedNote (id : Value) : Option String → Option String
  | some content => match (Value.str content).holds id with
    | .ok true => some ("\n".intercalate (keepLines id.display (Text.splitOn content "\n") false))
    | _ => some content
  | none => none

/-- The files' clean-up cleans the note and may clear the cursor file's task, and changes
nothing else; it faults only where the id cannot be looked for in the note, before any change. -/
theorem triple_forgetInFiles (id : Value) (w₀ : Workspace) :
    Triple (· = w₀) (forgetInFiles id)
      (fun _ w => uncursored w = withNote (uncursored w₀) (cleanedNote id w₀.files.note))
      (fun w => uncursored w = uncursored w₀ ∧
        ∃ content e, w₀.files.note = some content ∧ (Value.str content).holds id = .error e) := by
  unfold forgetInFiles
  refine Triple.get_bind fun w hw => ?_
  subst hw
  extract_lets clean rest
  have h_clean : ∀ doc, Keeps uncursored (clean doc) := fun _ => by
    refine Keeps.bind (Keeps.lift _) fun _ => Keeps.bind (Keeps.lift _) fun _ =>
      Keeps.bind (Keeps.lift _) fun _ => ?_
    split
    · exact Keeps.bind (Keeps.lift _) fun _ => Keeps.bind (Keeps.lift _) fun _ =>
        Keeps.bind (Keeps.lift _) fun _ => Keeps.bind (Keeps.lift _) fun _ =>
        Keeps.bind (Keeps.lift _) fun _ => Keeps.bind (Keeps.lift _) fun _ =>
        Keeps.bind (Keeps.update fun _ => rfl) fun _ => Keeps.update fun _ => rfl
    · exact Keeps.ret ()
  -- the cursor file's clean-up, after the note's, keeps all but the cursor file and the print,
  -- and never faults
  have h_rest : ∀ u t (E : Workspace → Prop), Triple (fun w => uncursored w = t) (rest u)
      (fun _ w => uncursored w = t) E := fun _ _ _ => by
    have hp : ∀ (w w' : Workspace) (t : Workspace), uncursored w' = uncursored w →
        uncursored w = t → uncursored w' = t := fun _ _ _ hv hw => hv.trans hw
    refine Triple.get_bind fun w' _ => ?_
    split
    · refine Triple.bind (Triple.attempt_stays ?_) fun r => ?_
      · split
        · exact (Keeps.bind (Keeps.ret _) h_clean).triple fun _ _ => hp _ _ _
        · exact (Keeps.bind (Keeps.fault _) h_clean).triple fun _ _ => hp _ _ _
      · split
        · exact Triple.update fun _ hw => hw
        · exact Triple.ret () fun _ hw => hw
    · exact Triple.ret () fun _ hw => hw
  split
  · next content hn =>
    refine Triple.lift_bind (fun e he w' hw' => ⟨by rw [hw'], content, e, hn, he⟩) fun b hb => ?_
    split
    · next hb' =>
      subst hb'
      refine Triple.bind (Triple.update fun w' hw' => ?_) fun _ =>
        Triple.bind (Triple.update fun _ hw => hw) fun u => h_rest u _ _
      rw [hw']
      simp only [cleanedNote, hn, hb]
      rfl
    · next hb' =>
      have hkeep : cleanedNote id w.files.note = w.files.note := by
        simp only [cleanedNote, hn, hb, Bool.eq_false_iff.2 hb']
      refine (h_rest () _ _).conseq (fun w' hw' => ?_) (fun _ _ h => h) fun _ h => h
      rw [hw', hkeep]
      rfl
  · next hn =>
    have hnone : w.files.note = none := by
      cases h : w.files.note with
      | none => rfl
      | some c => exact absurd h (hn c)
    have hkeep : cleanedNote id w.files.note = w.files.note := by
      rw [hnone]
      rfl
    refine (h_rest () _ _).conseq (fun w' hw' => ?_) (fun _ _ h => h) fun _ h => h
    rw [hw', hkeep]
    rfl

/-- The files' clean-up keeps every view that sees neither the note, nor the cursor file, nor
what is printed. -/
theorem keeps_forgetInFiles_of {γ : Type} {π : Workspace → γ}
    (hview : ∀ w n, π (withNote (uncursored w) n) = π w) (id : Value) : Keeps π (forgetInFiles id) := by
  -- the clean-up leaves `uncursored w` with the cleaned note, and `uncursored w` is itself
  -- `uncursored w` with its own note
  refine Keeps.of_triple fun w₀ => (triple_forgetInFiles id w₀).conseq (fun _ h => h)
    (fun _ w h => ?_) fun w h => ?_
  · rw [← hview w w.files.note, ← hview w₀ (cleanedNote id w₀.files.note)]
    exact congrArg π h
  · rw [← hview w w.files.note, ← hview w₀ w₀.files.note]
    exact congrArg π h.1

theorem keeps_forgetInFiles (id : Value) : Keeps storeView (forgetInFiles id) :=
  keeps_forgetInFiles_of (fun _ _ => rfl) id


/-! ## A save, and the read its note makes -/

section Saves

variable {P : Workspace → Prop} {E : Workspace → Prop}

theorem Keeps.stays {α : Type} {act : WorkspaceM α} (h : Keeps id act) :
    Triple P act (fun _ => P) P :=
  h.triple fun w w' hv hw => (show w' = w from hv) ▸ hw

/-- The note keeps every invariant its listing keeps and a new note keeps: the page only reads
the clock and the session before it runs the listing, and catches its fault. -/
theorem triple_dumpNote_stays {listing : WorkspaceM (List Value)}
    (h : Triple P listing (fun _ => P) P) (hnote : ∀ w text, P w → P (withNote w (some text))) :
    Triple P (dumpNote listing) (fun _ => P) P := by
  unfold dumpNote noteText
  refine Triple.get_bind fun w _ => Triple.bind ?_ fun text => Triple.update fun w hw => hnote w text hw
  exact Triple.bind (Keeps.stays keeps_now) fun _ => Triple.bind (Keeps.stays (Keeps.lift _)) fun _ =>
    Triple.bind (Keeps.stays (Keeps.lift _)) fun _ => Triple.bind (Keeps.stays (Keeps.lift _)) fun _ =>
      Triple.bind (Triple.attempt_stays h) fun _ => Triple.ret _ fun _ hw => hw

/-- A save from `P`: the write leads to `Q`, which the note's read, a new note and the sync keep.
The save never faults. -/
theorem triple_save_of_reread {Q : Workspace → Prop} {data : List Value}
    (hwrite : Triple P (writeQueue (Value.write .file (.arr data))) (fun _ => Q) E)
    (hread : Triple Q (reread data) (fun _ => Q) Q) (hnote : ∀ w text, Q w → Q (withNote w (some text)))
    (hsync : Triple Q autoSync (fun _ => Q) Q) : Triple P (save data) (fun _ => Q) E := by
  unfold save
  refine Triple.bind hwrite fun _ => Triple.bind (Triple.attempt_stays ?_) fun _ =>
    Triple.bind (Triple.attempt_stays hsync) fun _ => Triple.ret () fun _ hw => hw
  refine triple_dumpNote_stays ?_ hnote
  rw [map_eq_pure_bind]
  exact Triple.bind hread fun _ => Triple.ret _ fun _ hw => hw

/-- A save keeps every invariant that writing a queue, a new note and the sync keep. The note's
read may save again, but only a list shorter than the one written, so the induction is on the
length of the list. -/
theorem triple_save_stays (hwrite : ∀ text, Triple P (writeQueue text) (fun _ => P) P)
    (hnote : ∀ w text, P w → P (withNote w (some text)))
    (hsync : Triple P autoSync (fun _ => P) P) (data : List Value) :
    Triple P (save data) (fun _ => P) P := by
  refine triple_save_of_reread (hwrite _) ?_ hnote hsync
  unfold reread
  refine Triple.bind (Keeps.stays keeps_now) fun c => ?_
  split
  · next kept hp =>
    exact Triple.bind (triple_save_stays hwrite hnote hsync kept) fun _ => Triple.ret _ fun _ hw => hw
  · exact Triple.ret _ fun _ hw => hw
  · exact Triple.fault _ fun _ hw => hw
termination_by data.length
decreasing_by exact length_lt_of_purge_changed ‹_›

/-- A save keeps every view that writing a queue, a new note and the sync keep. -/
theorem keeps_save {γ : Type} {π : Workspace → γ} (hwrite : ∀ text, Keeps π (writeQueue text))
    (hnote : ∀ w text, π (withNote w (some text)) = π w) (hsync : Keeps π autoSync)
    (data : List Value) : Keeps π (save data) :=
  Keeps.of_triple fun w₀ => (triple_save_stays (P := fun w => π w = π w₀)
    (fun t => (hwrite t).triple fun _ _ hv hw => hv.trans hw)
    (fun w t hw => (hnote w t).trans hw) (hsync.triple fun _ _ hv hw => hv.trans hw) data).conseq
    (fun _ h => congrArg π h) (fun _ _ h => h) fun _ h => h

end Saves

end Taskflow.Queue
