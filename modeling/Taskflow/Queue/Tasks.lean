import Taskflow.Json.Sort
import Taskflow.Time.Layout
import Taskflow.Text.Basic
/-!
The rules of a task list, apart from any file.
-/

namespace Taskflow.Queue

open Json

def retentionDays : Int := 7

/-- The task list a queue document holds. -/
def tasksOf (doc : Value) : Value :=
  match doc with
  | .obj kvs => match doc.get? "tasks" with
    | some t => t
    | none => .arr (kvs.map (·.2))
  | v => v

/-- The instant a task was last touched, as far as it decides staleness. -/
def lastTouch (t : Value) : Option Time.Civil :=
  match t.getD "updated" (t.getD "created" .null) with
  | .str s => match Time.readIso s with
    | .ok stamp => if stamp.offset.isSome then none else some stamp.civil
    | .error _ => none
  | _ => none

/-- A task is stale when it is completed and was last touched `retentionDays` or more whole
days before `now`. -/
def isStale (now : Time.Civil) (t : Value) : Bool :=
  (t.getD "status" .null).same (.str "completed") &&
    match lastTouch t with
    | some last => now.daysBetween last ≥ retentionDays
    | none => false

/-- Removes the stale tasks of a task list, keeping order, and says whether any went; only a
list of objects can be purged. -/
def purge (now : Time.Civil) (data : Value) : Except Fault (List Value × Bool) :=
  match data with
  | .arr xs =>
    match xs.find? (fun t => !t.isObj) with
    | some t => .error (.noMethod t.kindName "get")
    | none =>
      let kept := xs.filter (fun t => !isStale now t)
      .ok (kept, kept.length < xs.length)
  | .str s =>
    if s.isEmpty then .error (.badKind "'str' object does not support item assignment")
    else .error (.noMethod "str" "get")
  | .obj kvs =>
    if kvs.isEmpty then .error (.badKind "unhashable type: 'slice'")
    else .error (.noMethod "str" "get")
  | v => .error (.badKind s!"object of type '{v.kindName}' has no len()")

theorem length_lt_of_purge_changed {now : Time.Civil} {xs kept : List Value}
    (h : purge now (.arr xs) = .ok (kept, true)) : kept.length < xs.length := by
  simp only [purge] at h
  split at h
  · cases h
  · simp only [Except.ok.injEq, Prod.mk.injEq, decide_eq_true_eq] at h
    obtain ⟨rfl, h⟩ := h
    exact h

/-- The open tasks of a list: not completed, newest `created` first, ties in list order. -/
def openOf (data : List Value) : List Value :=
  let live := data.filter fun t => !(t.getD "status" .null).same (.str "completed")
  (sortByKey (fun t => t.lookup "created" (.str "")) true live).items

/-- Position of the first task whose `id` equals `id`; a task without `id` is a fault. -/
def findTask (data : List Value) (id : Value) : Except Fault (Option Nat) :=
  go data 0
where
  /-- Searches from position `i`. -/
  go : List Value → Nat → Except Fault (Option Nat)
    | [], _ => .ok none
    | t :: rest, i => do
      if (← t.item "id").same id then pure (some i) else go rest (i + 1)

/-- The identifier of a task created at `stamp`: the compact stamp, `_`, and the description
with blanks made `_`, cut to 50 characters. -/
def newId (stamp : Time.Civil) (description : String) : String :=
  stamp.compact ++ "_" ++ Text.take (Text.replace description " " "_") 50

/-- A fresh task. -/
def freshTask (id description stamp : String) : Value :=
  .obj [("id", .str id), ("description", .str description), ("todos", .arr []),
    ("status", .str "in_progress"), ("created", .str stamp), ("updated", .str stamp)]

end Taskflow.Queue
