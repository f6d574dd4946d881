/-
**A save file over the requests that it is asked.**

A save file is only ever asked to keep a record or to give back what it keeps.  Whatever text stood
in the file, a broken one or none at all, the record that is kept is the one that is given back, with
its entries in their order, and it is given back as often as it is asked for.

Main definitions:

* `SaveSlot.Request`, `SaveSlot.Answer` — what the file is asked, and what it answers;
* `SaveSlot.serve`, `SaveSlot.serveAll` — the answer to a request, and those to a list of them.

Main results:

* `SaveSlot.serveAll_loads` — loading, however often, leaves the file as it is;
* `SaveSlot.kept_record_is_given_back` — **a record that is kept is given back as it was**.
-/

import Gamebook.Proofs.Formula.Faults
import Gamebook.Proofs.Json.RoundTrip

set_option autoImplicit false

namespace Gamebook

namespace SaveSlot

/-- What a save file is asked. -/
inductive Request where
  | load
  | save (record : Value)

/-- What a save file answers: the record that it holds, or whether it now holds the given one. -/
inductive Answer where
  | loaded (outcome : Except Trouble (Option Value))
  | saved (outcome : Except Trouble Unit)

variable (limit : DigitLimit) (slot : SaveSlot)

/-- The answer to a request, and the file after it. -/
def serve : Request → Answer × SaveSlot
  | .load => (.loaded (slot.load limit), slot)
  | .save record => (.saved (store limit record).1, (store limit record).2)

/-- The answers to requests that come one after another, and the file after them. -/
def serveAll : SaveSlot → List Request → List Answer × SaveSlot
  | slot, [] => ([], slot)
  | slot, request :: requests =>
      let (answer, between) := slot.serve limit request
      let (answers, after) := serveAll between requests
      (answer :: answers, after)

theorem serveAll_cons (request : Request) (requests : List Request) :
    serveAll limit slot (request :: requests) =
      ((slot.serve limit request).1 :: (serveAll limit (slot.serve limit request).2 requests).1,
        (serveAll limit (slot.serve limit request).2 requests).2) := rfl

/-- Requests that come in two parts: the second part meets the file that the first part left. -/
theorem serveAll_append (earlier later : List Request) :
    serveAll limit slot (earlier ++ later) =
      ((serveAll limit slot earlier).1 ++
          (serveAll limit (serveAll limit slot earlier).2 later).1,
        (serveAll limit (serveAll limit slot earlier).2 later).2) := by
  induction earlier generalizing slot with
  | nil => rfl
  | cons request earlier ih => simp [serveAll_cons, ih]

/-- Loading, however often, leaves the file as it is, and each time it gives the same. -/
theorem serveAll_loads (n : Nat) : serveAll limit slot (.replicate n .load) =
    (.replicate n (.loaded (slot.load limit)), slot) := by
  induction n with
  | zero => rfl
  | succ n ih =>
      rw [List.replicate_succ, serveAll_cons]
      simp only [serve, ih, List.replicate_succ]

/-- **A record that is kept is given back as it was**, with its entries in their order: whatever the
file held and was asked before, the record is saved, and every later request to load gives it. -/
theorem kept_record_is_given_back (earlier : List Request) (n : Nat) {fields : Fields Value}
    (hrecord : (Value.obj fields).IsJson) :
    (serveAll none slot (earlier ++ .save (.obj fields) :: .replicate n .load)).1 =
      (serveAll none slot earlier).1 ++
        .saved (.ok ()) :: .replicate n (.loaded (.ok (some (.obj fields)))) := by
  have hstore : store none (.obj fields) = (.ok (), save (.obj fields)) := by
    simp [store, Json.ends_of_isJson hrecord]
  have hload : (save (.obj fields)).load none = .ok (some (.obj fields)) :=
    load_save rfl hrecord (Value.isWritable_none _)
  rw [serveAll_append, serveAll_cons]
  simp only [serve, hstore, serveAll_loads, hload]

/-- A record with entries of every kind: texts with quotes, control characters and characters beyond
the basic plane, integers of either sign, and empty containers. -/
def motley : Fields Value :=
  [("zebra", .obj [("née \"𝄞\"", .list [.null, .bool true, .int (-tenTo 40), .list []])]),
    ("apple", .str "a\\b/c\n\t\x01\x7f\u2028 ☃ \x7b\x7d"), ("day", .int (twoTo 70)), ("", .obj [])]

/-- A file of broken text, from which nothing is loaded, gives back the record kept in it. -/
theorem motley_is_given_back : (Value.obj motley).IsJson ∧
    (serveAll none (some "\x7bbroken") ([.load] ++ .save (.obj motley) :: .replicate 1 .load)).1 =
      [.loaded (.error .unreadable), .saved (.ok ()), .loaded (.ok (some (.obj motley)))] := by
  have hrecord : (Value.obj motley).IsJson := by
    have hlist : (Value.list [.null, .bool true, .int (-tenTo 40), .list []]).IsJson := by
      refine .list ?_
      simp only [List.forall_mem_cons, List.not_mem_nil, false_implies, implies_true, and_true]
      exact ⟨.null, .bool true, .int _, .list nofun⟩
    have hinner : (Value.obj [("née \"𝄞\"",
        .list [.null, .bool true, .int (-tenTo 40), .list []])]).IsJson := by
      refine .obj ?_ (by decide) ?_
      · rintro f hf
        rw [List.mem_singleton.1 hf]
        exact ⟨_, rfl⟩
      · rintro f hf
        rw [List.mem_singleton.1 hf]
        exact hlist
    have hnodup : motley.keys.Nodup := by decide
    refine .obj ?_ hnodup ?_
    · intro f hf
      simp only [motley, List.mem_cons, List.not_mem_nil, or_false] at hf
      rcases hf with rfl | rfl | rfl | rfl <;> exact ⟨_, rfl⟩
    · simp only [motley, List.forall_mem_cons, List.not_mem_nil, false_implies, implies_true,
        and_true]
      exact ⟨hinner, .str _, .int _, .obj nofun .nil nofun⟩
  have hbroken : (serveAll none (some "\x7bbroken") [.load]).1 =
      [.loaded (.error .unreadable)] := by rfl
  refine ⟨hrecord, ?_⟩
  rw [kept_record_is_given_back _ _ _ hrecord, hbroken]
  rfl

end SaveSlot

end Gamebook
