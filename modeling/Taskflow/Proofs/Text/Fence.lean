import Taskflow.Proofs.Text.FenceMatch
import Mathlib
/-!
Fenced blocks are found exactly.
-/

namespace Taskflow.Text

open Pattern

/-- Prose followed by blocks, each with the prose after it. -/
def layout : List Char → List (Fenced × List Char) → List Char
  | lead, [] => lead
  | lead, (b, q) :: bs => lead ++ (b.text ++ layout q bs)

def Prose (q : List Char) : Prop := ¬ fenceMark <:+: q

instance (q : List Char) : Decidable (Prose q) := inferInstanceAs (Decidable (¬ _))

/-- Leading prose, then blocks each followed by prose. -/
structure Markdown where
  lead : List Char
  blocks : List (Fenced × List Char)

def Markdown.text (d : Markdown) : List Char := layout d.lead d.blocks

/-- Every piece of the markdown fits a fence whose info class is `ts`. -/
def Markdown.Fits (ts : List CharTest) (d : Markdown) : Prop :=
  Prose d.lead ∧ ∀ bq ∈ d.blocks, bq.1.Fits ts ∧ Prose bq.2

instance (ts : List CharTest) (d : Markdown) : Decidable (d.Fits ts) :=
  inferInstanceAs (Decidable (_ ∧ _))

def Markdown.bodies (d : Markdown) : List String := d.blocks.map fun bq => String.ofList bq.1.body

section Prose

theorem Prose.drop {q : List Char} (hq : Prose q) (j : Nat) : Prose (q.drop j) :=
  fun h => hq (h.trans (List.drop_suffix j q).isInfix)

/-- Inside prose that a block or the end follows, three backticks are either absent at the front
or followed by a fourth. -/
theorem Prose.mark_start {u r : List Char} (hu : Prose u) (hne : u ≠ [])
    (hr : r = [] ∨ fenceMark <+: r) :
    ¬ fenceMark <+: u ++ r ∨ ∃ t, u ++ r = fenceMark ++ '`' :: t := by
  by_cases hp : fenceMark <+: u ++ r
  · right
    unfold Prose at hu
    rw [fenceMark_eq] at hp hu hr ⊢
    rcases u with _ | ⟨a, _ | ⟨b, _ | ⟨c, u⟩⟩⟩
    · exact absurd rfl hne
    -- one or two backticks end the prose, so the block's own three follow them
    all_goals simp only [List.cons_append, List.nil_append, List.cons_prefix_cons] at hp
    · obtain ⟨rfl, hp⟩ := hp
      rcases hr with rfl | ⟨t, rfl⟩
      · simp at hp
      · exact ⟨t, rfl⟩
    · obtain ⟨rfl, rfl, hp⟩ := hp
      rcases hr with rfl | ⟨t, rfl⟩
      · simp at hp
      · exact ⟨'`' :: t, rfl⟩
    -- three or more would be three backticks inside the prose
    · obtain ⟨rfl, rfl, rfl, -⟩ := hp
      exact absurd (List.prefix_append _ u).isInfix hu
  · exact Or.inl hp

end Prose

section Extract

variable {ts : List CharTest}

theorem length_le_layout (lead : List Char) (bs : List (Fenced × List Char)) :
    bs.length ≤ (layout lead bs).length := by
  induction bs generalizing lead with
  | nil => exact Nat.zero_le _
  | cons bq bs ih =>
    have := ih bq.2
    simp only [layout, List.length_append, List.length_cons, Fenced.length_text]
    omega

theorem drop_layout_body (b : Fenced) (lead r : List Char) :
    (lead ++ (b.text ++ r)).drop (lead.length + b.info.length + 4) =
      b.body ++ ('\n' :: fenceMark ++ r) := by
  have h : lead ++ (b.text ++ r) =
      (lead ++ fenceMark ++ b.info ++ ['\n']) ++ (b.body ++ ('\n' :: fenceMark ++ r)) := by
    simp [Fenced.text_append]
  rw [h, List.drop_left' (by simp [fenceMark_length]; omega)]

theorem drop_layout_rest (b : Fenced) (lead r : List Char) :
    (lead ++ (b.text ++ r)).drop (lead.length + b.text.length) = r := by
  rw [← List.append_assoc, List.drop_left' (by simp)]

/-- From the start of prose followed by blocks, a pattern that matches each block whole and
starts no match elsewhere finds exactly those blocks, group 1 of each its body. -/
theorem findAllFrom_layout_of {fl : MatchFlags} {p : Pattern} {Fits : Fenced → Prop}
    {T : List Char → Prop} (hT : ∀ x y, T (x ++ y) → T y)
    (hmark : ∀ t pos prev, T t → (¬ fenceMark <+: t ∨ ∃ t', t = fenceMark ++ '`' :: t') →
      matchAt fl p false pos prev t = none)
    (hblock : ∀ (b : Fenced) rest pos prev, Fits b → T (b.text ++ rest) →
      ∃ prev', matchAt fl p false pos prev (b.text ++ rest) = some ⟨pos, pos + b.text.length,
        [(1, pos + b.info.length + 4, pos + b.info.length + 4 + b.body.length)], prev', rest⟩)
    (cs : List Char) (bs : List (Fenced × List Char)) (lead : List Char) (fuel pos : Nat)
    (prev : Option Char) (hlead : Prose lead) (hbs : ∀ bq ∈ bs, Fits bq.1 ∧ Prose bq.2)
    (hfuel : bs.length < fuel) (hcs : cs.drop pos = layout lead bs) (htext : T (layout lead bs)) :
    (findAllFrom fl p fuel false pos prev (layout lead bs)).map (·.groupD cs 1) =
      bs.map fun bq => String.ofList bq.1.body := by
  -- each round searches past the prose to the next block; the fuel outlasts the blocks
  induction bs generalizing lead fuel pos prev with
  | nil =>
    obtain ⟨fuel, rfl⟩ : ∃ f, fuel = f + 1 := ⟨fuel - 1, by simp at hfuel; omega⟩
    have hleadT : T (lead ++ []) := by simpa [layout] using htext
    obtain ⟨prev', h⟩ := searchFrom_skip fl p lead [] pos prev fun j hj _ => hmark _ _ _
      (hT (lead.take j) _ (by rwa [← List.append_assoc, List.take_append_drop]))
      ((hlead.drop j).mark_start (by simpa using hj) (Or.inl rfl))
    rw [List.append_nil] at h
    rw [layout, findAllFrom, h, searchFrom,
      hmark [] _ _ (hT lead [] hleadT) (Or.inl (by simp [fenceMark_eq]))]
    rfl
  | cons bq bs ih =>
    obtain ⟨fuel, rfl⟩ : ∃ f, fuel = f + 1 := ⟨fuel - 1, by simp at hfuel; omega⟩
    obtain ⟨b, q⟩ := bq
    obtain ⟨hb, hq⟩ := hbs (b, q) List.mem_cons_self
    have hblockT : T (b.text ++ layout q bs) := hT lead _ htext
    obtain ⟨prev', h⟩ := searchFrom_skip fl p lead (b.text ++ layout q bs) pos prev
      fun j hj _ => hmark _ _ _ (hT (lead.take j) _ (by rwa [← List.append_assoc, List.take_append_drop]))
        ((hlead.drop j).mark_start (by simpa using hj) (Or.inr ⟨_, (b.text_append _).symm⟩))
    obtain ⟨prev'', hm⟩ := hblock b (layout q bs) (pos + lead.length) prev' hb hblockT
    have hrest : cs.drop (pos + lead.length + b.text.length) = layout q bs := by
      rw [Nat.add_assoc, ← List.drop_drop, hcs, layout, drop_layout_rest]
    have hbody : cs.drop (pos + lead.length + b.info.length + 4) =
        b.body ++ ('\n' :: fenceMark ++ layout q bs) := by
      rw [Nat.add_assoc, Nat.add_assoc, ← List.drop_drop, hcs, layout, ← Nat.add_assoc,
        drop_layout_body]
    have htail := ih q fuel (pos + lead.length + b.text.length) prev'' hq
      (fun bq h => hbs bq (List.mem_cons_of_mem _ h)) (by simpa using hfuel) hrest
      (hT b.text _ hblockT)
    rw [layout, findAllFrom, h, searchFrom_of_matchAt hm]
    have hstep : (pos + lead.length == pos + lead.length + b.text.length) = false := by
      simp [Fenced.length_text]
    simp only [List.map_cons, Found.groupD_single, hbody, List.take_left', hstep, htail]

/-- From the start of prose followed by blocks, the searches find exactly those blocks, and
group 1 of each is its body. -/
theorem findAllFrom_layout (hts : InfoClass ts) (cs : List Char) (bs : List (Fenced × List Char))
    (lead : List Char) (fuel pos : Nat) (prev : Option Char) (hlead : Prose lead)
    (hbs : ∀ bq ∈ bs, bq.1.Fits ts ∧ Prose bq.2) (hfuel : bs.length < fuel)
    (hcs : cs.drop pos = layout lead bs) :
    (findAllFrom .lines (fenceWith ts) fuel false pos prev (layout lead bs)).map (·.groupD cs 1) =
      bs.map fun bq => String.ofList bq.1.body :=
  findAllFrom_layout_of (T := fun _ => True) (fun _ _ _ => trivial)
    (fun _ pos prev _ ht => matchAt_none_of_mark hts.backtick ht pos prev)
    (fun _ rest pos prev hb _ => matchAt_block hts.line_end hb rest pos prev)
    cs bs lead fuel pos prev hlead hbs hfuel hcs trivial

end Extract

section Bodies

variable {ts : List CharTest} (hts : InfoClass ts)
include hts

theorem fenceBodies_layout (d : Markdown) (hd : d.Fits ts) :
    fenceBodies (fenceWith ts) (String.ofList d.text) = d.bodies := by
  have hlen := length_le_layout d.lead d.blocks
  unfold fenceBodies findAll
  rw [String.toList_ofList]
  exact findAllFrom_layout hts d.text d.blocks d.lead _ 0 none hd.1 hd.2
    (by unfold Markdown.text; omega) rfl

theorem fenceBodies_empty : fenceBodies (fenceWith ts) "" = [] :=
  fenceBodies_layout hts ⟨[], []⟩ ⟨by decide, by simp⟩

theorem blocksWith_str (s : String) :
    Plan.blocksWith (fenceWith ts) (.str s) = .ok (fenceBodies (fenceWith ts) s) := by
  unfold Plan.blocksWith
  by_cases h : s.isEmpty
  · rw [String.isEmpty_iff.mp h, fenceBodies_empty hts]
    rfl
  · simp [Json.Value.truthy, h]

end Bodies

/-- Blocks are extracted exactly: the plain extraction and its copy give the stripped bodies,
and the wide one the bodies as they are. -/
theorem fenced_blocks_exact (d : Markdown) :
    (d.Fits asciiInfo → fencedBlocks (String.ofList d.text) = d.bodies.map strip ∧
      Plan.codeBlocks (.str (String.ofList d.text)) = .ok (d.bodies.map strip)) ∧
    (d.Fits wideInfo →
      Plan.blocksWith wideFencePattern (.str (String.ofList d.text)) = .ok d.bodies) := by
  refine ⟨fun hd => ⟨?_, ?_⟩, fun hd => ?_⟩
  · rw [fencedBlocks, fencePattern, fenceBodies_layout asciiInfo_class d hd]
  · rw [Plan.codeBlocks, fencePattern, blocksWith_str asciiInfo_class,
      fenceBodies_layout asciiInfo_class d hd]
    rfl
  · rw [wideFencePattern, blocksWith_str wideInfo_class, fenceBodies_layout wideInfo_class d hd]

/-- Two blocks with info words of the class read back; a block tagged c#, outside it, is not
matched, and its closing fence pairs with the next block's opening one around the prose. -/
theorem fenced_blocks_exact_two_blocks :
    fencedBlocks "intro\n```bash\necho hi\n```\nmore\n```\nls\n```" = ["echo hi", "ls"] ∧
    Plan.blocksWith wideFencePattern (.str "intro\n```bash\necho hi\n```\nmore\n```\nls\n```") =
      .ok ["echo hi", "ls"] ∧
    fencedBlocks "```c#\nx\n```\nprose\n```bash\ny\n```" = ["prose"] := by
  let d : Markdown := ⟨"intro\n".toList,
    [(⟨"bash".toList, "echo hi".toList⟩, "\nmore\n".toList), (⟨[], "ls".toList⟩, [])]⟩
  have htext : String.ofList d.text = "intro\n```bash\necho hi\n```\nmore\n```\nls\n```" := by
    decide
  have hfit : d.Fits asciiInfo ∧ d.Fits wideInfo := by
    simp [d, Markdown.Fits, Fenced.Fits, Prose, fenceMark_eq, classAccepts, asciiInfo, wideInfo,
      CharTest.accepts, MatchFlags.lines]
    and_intros <;> decide
  have h := fenced_blocks_exact d
  rw [htext] at h
  have hshift : fencedBlocks "```c#\nx\n```\nprose\n```bash\ny\n```" = ["prose"] := by cbv
  rw [(h.1 hfit.1).1, h.2 hfit.2, hshift]
  simp [d, Markdown.bodies]
  decide

-- An empty block written as two fences shifts the wide pairing the same way.
example : fenceBodies wideFencePattern "```\n```\nprose\n```bash\ny\n```" = ["```\nprose"] := by
  cbv

end Taskflow.Text