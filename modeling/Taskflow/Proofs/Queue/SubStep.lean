import Taskflow.Proofs.Text.Numeral
import Taskflow.Proofs.Text.Pieces
import Taskflow.Proofs.Text.Fence
import Taskflow.Proofs.Queue.Writes
/-!
Previewing a sub-step: which commands are selected.
-/

namespace Taskflow.Queue

open Json Workspace Text

/-! ## Splitting at the point -/

theorem point_toList : ".".toList = ['.'] := by decide

theorem splitOn_point_single {s : String} (hs : '.' ∉ s.toList) : splitOn s "." = [s] := by
  rw [splitOn, point_toList, splitList_single hs]
  simp

theorem splitOn_point_pair {a b : String} (ha : '.' ∉ a.toList) (hb : '.' ∉ b.toList) :
    splitOn (a ++ "." ++ b) "." = [a, b] := by
  rw [splitOn, point_toList, String.toList_append, String.toList_append, point_toList,
    List.append_assoc, List.singleton_append, splitList_pair ha hb]
  simp

/-! ## Reading a sub-step -/

theorem point_not_mem_toString (K : Int) : '.' ∉ (toString K).toList := by
  rw [toString_int, String.toList_ofList]
  intro h
  rcases List.mem_append.1 h with h | h
  · cases hK : decide (K < 0) <;> simp [hK] at h
  · exact absurd (Nat.isDigit_of_mem_toDigits (by decide) (by decide) h) (by decide)

theorem readSubStep_phase (K : Int) (hK : (toString K.natAbs).length ≤ 4300) :
    readSubStep (toString K) = some (K, none) := by
  rw [readSubStep, splitOn_point_single (point_not_mem_toString K)]
  dsimp only
  rw [readInt_toString K hK]
  rfl

/-- A phase and a command number read as the phase and the command's position from 0; a
number below 1 is refused. Both numbers have at most 4300 digits. -/
theorem readSubStep_command (K N : Int) (hK : (toString K.natAbs).length ≤ 4300)
    (hN : (toString N.natAbs).length ≤ 4300) :
    readSubStep (toString K ++ "." ++ toString N) =
      if 1 ≤ N then some (K, some (N - 1)) else none := by
  rw [readSubStep, splitOn_point_pair (point_not_mem_toString K) (point_not_mem_toString N)]
  simp only [String.intercalate_singleton, readInt_toString K hK, readInt_toString N hN]
  show (if N - 1 < 0 then none else some (K, some (N - 1))) = _
  by_cases h : 1 ≤ N
  · rw [if_pos h, if_neg (by omega)]
  · rw [if_neg h, if_pos (by omega)]

/-- A command number of more than 4300 digits is refused, whatever it is. -/
theorem readSubStep_of_long (K : Int) {ds : List Char} (hne : ds ≠ [])
    (hds : ∀ c ∈ ds, c.isDigit = true) (hlong : 4300 < ds.length) :
    readSubStep (toString K ++ "." ++ String.ofList ds) = none := by
  have hpoint : '.' ∉ (String.ofList ds).toList := fun h => by
    rw [String.toList_ofList] at h
    exact absurd (hds '.' h) (by decide)
  have hread : readInt (String.ofList ds) = .error (.tooLong ds.length) := by
    have h := readInt_digits false hne hds
    rw [if_pos hlong] at h
    exact h
  rw [readSubStep, splitOn_point_pair (point_not_mem_toString K) hpoint]
  simp only [String.intercalate_singleton, hread]
  cases (readInt (toString K)).toOption <;> rfl

/-- The sub-step that names command `10^4300` of phase 0 is refused as badly formed: its
number has 4301 digits, one more than are read. -/
theorem readSubStep_long_command :
    readSubStep ("0." ++ String.ofList ('1' :: List.replicate 4300 '0')) = none := by
  have hzero : "0." = toString (0 : Int) ++ "." := by decide
  have hds : ∀ c ∈ '1' :: List.replicate 4300 '0', c.isDigit = true := by
    intro c hc
    rcases List.mem_cons.1 hc with rfl | hc
    · decide
    · rw [(List.mem_replicate.1 hc).2]
      decide
  rw [hzero]
  have hlong : 4300 < ('1' :: List.replicate 4300 '0').length := by
    rw [List.length_cons, List.length_replicate]
    omega
  exact readSubStep_of_long 0 (List.cons_ne_nil _ _) hds hlong

/-! ## What a preview prints -/

/-- Run from `w`, the action returns having printed `out` after what `w₁` had printed, and
leaves `w₁` otherwise as it is. -/
def PrintsAfter (act : WorkspaceM Unit) (w w₁ : Workspace) (out : String) : Prop :=
  act.run.run w = (.ok (), { w₁ with printed := w₁.printed ++ out })

def Prints (act : WorkspaceM Unit) (out : String) : Prop := ∀ w, PrintsAfter act w w out

theorem prints_say (line : String) : Prints (say line) (line ++ "\n") := by
  intro w
  rw [PrintsAfter, ← String.append_assoc]
  rfl

theorem Prints.bind {a b : WorkspaceM Unit} {o₁ o₂ : String} (ha : Prints a o₁)
    (hb : Prints b o₂) : Prints (a >>= fun _ => b) (o₁ ++ o₂) := by
  intro w
  rw [PrintsAfter, run_bind_eq, ha w]
  dsimp only
  rw [hb, String.append_assoc]

theorem Prints.bind_pure {a : WorkspaceM Unit} {o : String} (ha : Prints a o) :
    Prints (a >>= fun _ => pure ()) o := by
  intro w
  rw [PrintsAfter, run_bind_eq, ha w]
  rfl

theorem prints_forIn {α : Type} (f : α → String) (xs : List α) :
    Prints (forIn xs PUnit.unit fun x _ => do say (f x); pure (ForInStep.yield PUnit.unit))
      (String.join (xs.map fun x => f x ++ "\n")) := by
  induction xs with
  | nil =>
    intro w
    simp [PrintsAfter]
    rfl
  | cons x xs ih =>
    intro w
    rw [PrintsAfter, List.forIn_cons, run_bind_eq, run_bind_eq, prints_say]
    refine (ih _).trans ?_
    simp [String.append_assoc]

/-- The lines that show commands, then the reminder that nothing ran. -/
def shownCommands (cmds : List String) : String :=
  String.join (cmds.map fun c => "   $ " ++ c ++ "\n") ++
    "💡 Use '--run' to actually execute. Keeping it safe (preview only).\n"

theorem prints_sayCommands (cmds : List String) : Prints (sayCommands cmds) (shownCommands cmds) :=
  Prints.bind (prints_forIn _ _) (prints_say _)

/-- What a preview prints for the commands `ls` of phase `K`'s block: all of them, filled in
without a sub-step, or the one at position `c` from 0, filled in with its number `c + 1`, or
why there is no such command. -/
def selectionText (taskId : String) (K : Nat) (ls : List String) (cmd : Option Int) : String :=
  match cmd with
  | none => "🔎 Selected all commands in phase block (dry-run by default):" ++ "\n" ++
      shownCommands (ls.map fun l => fillPlaceholders l taskId (toString K) none)
  | some c =>
    if c < ls.length then
      s!"🔎 Selected command #{c + 1} (dry-run by default):" ++ "\n" ++
        shownCommands (((ls.map fun l =>
          fillPlaceholders l taskId (toString K) (some (toString (c + 1)))).drop c.toNat).take 1)
    else s!"❌ Command index {c + 1} out of range (1..{ls.length})" ++ "\n"

theorem fencedBlocksOf_str (s : String) : fencedBlocksOf (.str s) = .ok (fencedBlocks s) := by
  unfold fencedBlocksOf
  by_cases h : s.isEmpty
  · rw [String.isEmpty_iff.mp h, fencedBlocks, fencePattern, fenceBodies_empty asciiInfo_class]
    rfl
  · simp [Value.truthy, h]

theorem atIndex_arr {xs : List Value} {K : Nat} {v : Value} (h : xs[K]? = some v) :
    (Value.arr xs).atIndex K = .ok v := by
  have hK : K < xs.length := (List.getElem?_eq_some_iff.1 h).1
  have hpos : Value.position K xs.length = some K := by
    have hneg : ¬ ((K : Int) < 0) := by omega
    simp only [Value.position, if_neg hneg]
    rw [if_pos ⟨by omega, by omega⟩, Int.toNat_natCast]
  simp [Value.atIndex, hpos, List.getD_eq_getElem?_getD, h]

section Preview

variable {w w₁ : Workspace} {data : List Value} {taskId s : String} {t : Value}

/-- A sub-step that does not read is refused, once the task is found. -/
theorem previewSubStep_unreadable (hload : load.run.run w = (.ok data, w₁))
    (hfind : data.find? (fun t => (t.getD "id" .null).same (.str taskId)) = some t)
    (hs : readSubStep s = none) :
    PrintsAfter (previewSubStep (.str taskId) (.str s)) w w₁ (s!"❌ {subStepMessage}" ++ "\n") := by
  unfold PrintsAfter previewSubStep
  rw [run_bind_eq, hload]
  dsimp only
  rw [hfind]
  dsimp only
  rw [hs]
  exact prints_say _ w₁

/-- A phase outside the task's phases is refused, with their range. -/
theorem previewSubStep_badPhase {phases : List Value} {p : Int} {cmd : Option Int}
    (hload : load.run.run w = (.ok data, w₁))
    (hfind : data.find? (fun t => (t.getD "id" .null).same (.str taskId)) = some t)
    (hs : readSubStep s = some (p, cmd))
    (htodos : t.lookup "todos" (.arr []) = .ok (.arr phases))
    (hout : p < 0 ∨ phases.length ≤ p) :
    PrintsAfter (previewSubStep (.str taskId) (.str s)) w w₁
      (s!"❌ Invalid phase index {p}. Valid range is 0 to {(phases.length : Int) - 1}" ++ "\n") := by
  have hcount : (Value.arr phases).count = .ok phases.length := rfl
  unfold PrintsAfter previewSubStep
  rw [run_bind_eq, hload]
  dsimp only
  rw [hfind]
  dsimp only
  rw [hs]
  dsimp only
  rw [htodos]
  simp only [run_bind_eq, run_lift_ok, hcount]
  by_cases hneg : p < 0
  · rw [if_pos hneg, run_bind_eq, run_lift_ok]
    exact (prints_say _).bind_pure w₁
  · have hge : p ≥ (phases.length : Int) := by omega
    rw [if_neg hneg]
    simp only [run_bind_eq, run_lift_ok, if_pos hge]
    exact (prints_say _).bind_pure w₁

/-- With the phase's first block holding commands, the preview prints the selection the
sub-step names. -/
theorem previewSubStep_block {text block : String} {phase : Value} {phases : List Value}
    {K : Nat} {cmd : Option Int}
    (hload : load.run.run w = (.ok data, w₁))
    (hfind : data.find? (fun t => (t.getD "id" .null).same (.str taskId)) = some t)
    (hs : readSubStep s = some ((K : Int), cmd))
    (htodos : t.lookup "todos" (.arr []) = .ok (.arr phases))
    (hphase : phases[K]? = some phase)
    (htext : phase.lookup "text" (.str "") = .ok (.str text))
    (hblock : (fencedBlocks text).head? = some block)
    (hcmds : blockCommands block ≠ []) :
    PrintsAfter (previewSubStep (.str taskId) (.str s)) w w₁
      (selectionText taskId K (blockCommands block) cmd) := by
  have hK : K < phases.length := (List.getElem?_eq_some_iff.1 hphase).1
  have hneg : ¬ ((K : Int) < 0) := by omega
  have hge : ¬ ((K : Int) ≥ (phases.length : Int)) := by omega
  have hcount : (Value.arr phases).count = .ok phases.length := rfl
  have hempty : (blockCommands block).isEmpty = false := List.isEmpty_eq_false_iff.2 hcmds
  unfold PrintsAfter previewSubStep
  rw [run_bind_eq, hload]
  dsimp only
  rw [hfind]
  dsimp only
  rw [hs]
  dsimp only
  rw [htodos]
  simp only [run_bind_eq, run_lift_ok, if_neg hneg, hcount, if_neg hge, atIndex_arr hphase, htext,
    fencedBlocksOf_str, hblock, hempty, Bool.false_eq_true, ↓reduceIte, pure_bind]
  cases cmd with
  | none => exact Prints.bind (prints_say _) (prints_sayCommands _) w₁
  | some c =>
    -- the range is checked against the commands, and the command taken from the filled ones
    unfold selectionText
    dsimp only
    split
    · next hout =>
      rw [if_neg (Int.not_lt.2 hout)]
      exact prints_say _ w₁
    · next hin =>
      rw [if_pos (Int.not_le.1 hin)]
      exact Prints.bind (prints_say _) (prints_sayCommands _) w₁

end Preview

/-! ## Selecting a command -/

theorem take_one_drop {xs : List String} {n : Nat} {x : String} (h : xs[n]? = some x) :
    (xs.drop n).take 1 = [x] := by
  obtain ⟨hn, rfl⟩ := List.getElem?_eq_some_iff.1 h
  rw [List.drop_eq_getElem_cons hn, List.take_succ_cons, List.take_zero]

/-- Previewing selects exactly the commands asked for: one command of the phase's first block,
all of them, or a refusal naming the range. -/
theorem previewSubStep_selects {w w₁ : Workspace} {data : List Value} {taskId text block : String}
    {t phase : Value} {phases : List Value} {K : Nat}
    (hload : load.run.run w = (.ok data, w₁))
    (hfind : data.find? (fun t => (t.getD "id" .null).same (.str taskId)) = some t)
    (htodos : t.lookup "todos" (.arr []) = .ok (.arr phases))
    (hphase : phases[K]? = some phase)
    (htext : phase.lookup "text" (.str "") = .ok (.str text))
    (hblock : (fencedBlocks text).head? = some block)
    (hcmds : blockCommands block ≠ [])
    (hK : (toString K).length ≤ 4300) :
    (∀ (N : Nat) (l : String), 1 ≤ N → (toString N).length ≤ 4300 →
      (blockCommands block)[N - 1]? = some l →
      PrintsAfter (previewSubStep (.str taskId) (.str (toString K ++ "." ++ toString N))) w w₁
        (s!"🔎 Selected command #{N} (dry-run by default):" ++ "\n" ++
          shownCommands [fillPlaceholders l taskId (toString K) (some (toString N))])) ∧
    (∀ N : Nat, (blockCommands block).length < N → (toString N).length ≤ 4300 →
      PrintsAfter (previewSubStep (.str taskId) (.str (toString K ++ "." ++ toString N))) w w₁
        (s!"❌ Command index {N} out of range (1..{(blockCommands block).length})" ++ "\n")) ∧
    PrintsAfter (previewSubStep (.str taskId) (.str (toString K))) w w₁
      ("🔎 Selected all commands in phase block (dry-run by default):" ++ "\n" ++
        shownCommands ((blockCommands block).map fun l =>
          fillPlaceholders l taskId (toString K) none)) ∧
    (∀ N : Int, N < 1 → (toString N.natAbs).length ≤ 4300 →
      PrintsAfter (previewSubStep (.str taskId) (.str (toString K ++ "." ++ toString N))) w w₁
        (s!"❌ {subStepMessage}" ++ "\n")) ∧
    (∀ s, readSubStep s = none →
      PrintsAfter (previewSubStep (.str taskId) (.str s)) w w₁ (s!"❌ {subStepMessage}" ++ "\n")) ∧
    (∀ s (p : Int) cmd, readSubStep s = some (p, cmd) → p < 0 ∨ phases.length ≤ p →
      PrintsAfter (previewSubStep (.str taskId) (.str s)) w w₁
        (s!"❌ Invalid phase index {p}. Valid range is 0 to {(phases.length : Int) - 1}" ++ "\n")) := by
  have hK' : (toString (K : Int).natAbs).length ≤ 4300 := hK
  -- a command number read as `N - 1` selects command `N`, or names none past the last
  have hread : ∀ N : Nat, 1 ≤ N → (toString N).length ≤ 4300 →
      readSubStep (toString K ++ "." ++ toString N) = some ((K : Int), some ((N : Int) - 1)) := by
    intro N hN1 hN
    have h := readSubStep_command K N hK' hN
    rw [if_pos (by omega)] at h
    exact h
  have hblock' := fun {s : String} {cmd : Option Int} (hs : readSubStep s = some ((K : Int), cmd)) =>
    previewSubStep_block hload hfind hs htodos hphase htext hblock hcmds
  refine ⟨fun N l hN1 hN hl => ?_, fun N hlen hN => ?_, ?_, fun N hN1 hN => ?_,
    fun s hs => previewSubStep_unreadable hload hfind hs,
    fun s p cmd hs hout => previewSubStep_badPhase hload hfind hs htodos hout⟩
  · have h := hblock' (hread N hN1 hN)
    have hlt : (N : Int) - 1 < (blockCommands block).length := by
      have := (List.getElem?_eq_some_iff.1 hl).1
      omega
    have hnum : (N : Int) - 1 + 1 = N := by omega
    have hpos : ((N : Int) - 1).toNat = N - 1 := by omega
    have hsel : ((blockCommands block).map fun l =>
        fillPlaceholders l taskId (toString K) (some (toString (N : Int))))[N - 1]? =
        some (fillPlaceholders l taskId (toString K) (some (toString (N : Int)))) := by
      rw [List.getElem?_map, hl]
      rfl
    unfold selectionText at h
    dsimp only at h
    rw [if_pos hlt, hnum, hpos] at h
    rw [take_one_drop hsel] at h
    exact h
  · have h := hblock' (hread N (by omega) hN)
    have hge : ¬ ((N : Int) - 1 < (blockCommands block).length) := by omega
    have hnum : (N : Int) - 1 + 1 = N := by omega
    unfold selectionText at h
    dsimp only at h
    rw [if_neg hge, hnum] at h
    exact h
  · exact hblock' (readSubStep_phase K hK')
  · have hs := readSubStep_command K N hK' hN
    rw [if_neg (by omega)] at hs
    exact previewSubStep_unreadable hload hfind hs

/-- In a store holding one task whose phase 0 has the block `echo <task_id>` and `ls`, sub-step
`0.2` previews `ls`. -/
theorem previewSubStep_selects_second_command :
    PrintsAfter (previewSubStep (.str "t") (.str "0.2"))
      { clock := { year := 2025, month := 1, day := 15 },
        files := { tasks := some (Value.write .file (.arr [.obj [("id", .str "t"),
          ("todos", .arr [.obj [("text", .str "```\necho <task_id>\nls\n```")]])]])) } }
      { clock := { year := 2025, month := 1, day := 15 },
        files := { tasks := some (Value.write .file (.arr [.obj [("id", .str "t"),
          ("todos", .arr [.obj [("text", .str "```\necho <task_id>\nls\n```")]])]])) } }
      ("🔎 Selected command #2 (dry-run by default):\n   $ ls\n" ++
        "💡 Use '--run' to actually execute. Keeping it safe (preview only).\n") := by
  let phase : Value := .obj [("text", .str "```\necho <task_id>\nls\n```")]
  let task : Value := .obj [("id", .str "t"), ("todos", .arr [phase])]
  let w₀ : Workspace :=
    { clock := { year := 2025, month := 1, day := 15 },
      files := { tasks := some (Value.write .file (.arr [task])) } }
  have hplain : (Value.arr [task]).Plain :=
    .arr fun x hx => by
      rw [List.mem_singleton] at hx
      subst hx
      refine .obj (by decide) fun kv hkv => ?_
      simp only [List.mem_cons, List.mem_nil_iff, or_false] at hkv
      rcases hkv with rfl | rfl
      · exact .str _
      · exact .arr fun y hy => by
          rw [List.mem_singleton] at hy
          subst hy
          exact .obj (by decide) fun kv hkv => by
            rw [List.mem_singleton] at hkv
            subst hkv
            exact .str _
  have hload : load.run.run w₀ = (.ok [task], w₀) :=
    load_run_of_kept rfl (readJson_write hplain) rfl
  -- the phase text is one block, laid out as fenced markdown
  let d : Markdown := ⟨[], [(⟨[], "echo <task_id>\nls".toList⟩, [])]⟩
  have htext : String.ofList d.text = "```\necho <task_id>\nls\n```" := by decide
  have hfit : d.Fits asciiInfo := by
    simp [d, Markdown.Fits, Fenced.Fits, Prose, fenceMark_eq]
    decide
  have hblock : (fencedBlocks "```\necho <task_id>\nls\n```").head? = some "echo <task_id>\nls" := by
    rw [← htext, fencedBlocks, fencePattern, fenceBodies_layout asciiInfo_class d hfit]
    decide
  have hfind : [task].find? (fun t => (t.getD "id" .null).same (.str "t")) = some task := rfl
  have htodos : task.lookup "todos" (.arr []) = .ok (.arr [phase]) := rfl
  have hphase : [phase][0]? = some phase := rfl
  have htext : phase.lookup "text" (.str "") = .ok (.str "```\necho <task_id>\nls\n```") := rfl
  have hcmds : blockCommands "echo <task_id>\nls" = ["echo <task_id>", "ls"] := by decide
  have h := (previewSubStep_selects hload hfind htodos hphase htext hblock
    (by rw [hcmds]; exact List.cons_ne_nil _ _) (by decide)).1 2 "ls" (by decide) (by decide)
    (by rw [hcmds]; rfl)
  have hsub : toString 0 ++ "." ++ toString 2 = "0.2" := by decide
  have hout : s!"🔎 Selected command #{2} (dry-run by default):" ++ "\n" ++
      shownCommands [fillPlaceholders "ls" "t" (toString 0) (some (toString 2))] =
      "🔎 Selected command #2 (dry-run by default):\n   $ ls\n" ++
        "💡 Use '--run' to actually execute. Keeping it safe (preview only).\n" := by
    decide +kernel
  rw [hsub, hout] at h
  exact h

end Taskflow.Queue
