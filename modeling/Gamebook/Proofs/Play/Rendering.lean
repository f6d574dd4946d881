/-
**Showing a game between the actions of the player.**

Between two actions a game may be shown in any way: a snapshot may be taken, the choices listed, the
record of the game written, the dashboard drawn.  Where the conditions of choices and shops do not
use chance, each of these leaves the world as it is, whatever it ends with.  So a course of the game
does not tell whether and how it was shown.

Main definitions:

* `Reading`, `Reading.run` — the ways to show a game;
* `Step`, `World.played` — actions of the player and readings between them, and what each action
  ends with.

Main results:

* `Reading.run_same` — a reading leaves the world as it is;
* `World.played_readings` — **readings between the actions change nothing** about what the actions
  end with.
-/

import Gamebook.Proofs.Play.Looking
import Gamebook.Proofs.Play.Resume
import Gamebook.Session.Dashboard

set_option autoImplicit false

namespace Gamebook

open Play World Value

/-! ### Readings -/

/-- A way to show a game. -/
inductive Reading where
  | snapshot
  | choices
  | record
  | dashboard
  deriving DecidableEq

/-- What a reading shows. -/
inductive Shown where
  | snapshot (view : Snapshot)
  | choices (views : List ChoiceView)
  | record (game : SavedGame)
  | dashboard (panels : List Panel)

/-- What a reading does. -/
def Reading.run : Reading → Play Shown
  | snapshot => do return .snapshot (← Play.snapshot)
  | choices => do return .choices (← currentChoices)
  | record => do return .record (← state).save
  | dashboard => do
      let view ← Play.snapshot
      return .dashboard (← Dashboard.panels (← digitLimit) view)

/-- A reading leads to what testing the offers leads to. -/
theorem Reading.run_leads {R : World → World → Prop} [Std.Refl R] [IsTrans World R] {w : World}
    (h : Tests R w.book) (reading : Reading) : Leads R w reading.run fun _ _ => True := by
  cases reading with
  | snapshot => exact (snapshot_leads h).bind fun _ _ _ _ => .pure trivial
  | choices => exact (currentChoices_leads h).bind fun _ _ _ _ => .pure trivial
  | record => exact .state_bind (.pure trivial)
  | dashboard =>
      refine (snapshot_leads h).bind fun _ _ _ _ => .digitLimit_bind ?_
      exact .lift_bind fun _ _ => .pure trivial

/-- **A reading leaves the world as it is**, also when it fails, where the offers do not use
chance. -/
theorem Reading.run_same {w : World} (h : w.book.OffersAvoidChance) (reading : Reading) :
    (reading.run.runFrom w).2 = w :=
  (reading.run_leads (tests_same h)).world.symm

/-- A reading only looks. -/
theorem Reading.run_idle {w : World} (reading : Reading) : Idle w (reading.run.runFrom w).2 :=
  (reading.run_leads (tests_idle w.book)).world

/-! ### Courses with readings -/

/-- An action of the player, or a reading. -/
inductive Step where
  | act (op : Operation) (player : op.IsAction)
  | read (reading : Reading)

/-- Whether the step is an action. -/
def Step.isAction : Step → Bool
  | act _ _ => true
  | read _ => false

/-- What each action of some steps ends with, and the world after it.  An action that fails half-way
is followed by the next step, as any other. -/
def World.played (w : World) : List Step → List (Except Fault Bool × World)
  | [] => []
  | .act op _ :: steps => op.run.runFrom w :: (op.run.runFrom w).2.played steps
  | .read reading :: steps => (reading.run.runFrom w).2.played steps

/-- An action of the player keeps the book. -/
theorem Operation.book_of_act {w : World} {op : Operation} (player : op.IsAction) :
    (op.run.runFrom w).2.book = w.book :=
  (act_changes admits_true player (fun _ _ => trivial) (book_has_true _)).world.book_eq

/-- **Readings between the actions change nothing** about what the actions end with, where the
offers of the book do not use chance. -/
theorem World.played_readings {w : World} (h : w.book.OffersAvoidChance) (steps : List Step) :
    w.played steps = w.played (steps.filter Step.isAction) := by
  induction steps generalizing w with
  | nil => rfl
  | cons step steps ih =>
      cases step with
      | act op player =>
          have hnext : (op.run.runFrom w).2.book.OffersAvoidChance := by
            rwa [Operation.book_of_act player]
          exact congrArg (op.run.runFrom w :: ·) (ih hnext)
      | read reading =>
          calc w.played (.read reading :: steps)
            _ = (reading.run.runFrom w).2.played steps := rfl
            _ = w.played steps := by rw [reading.run_same h]
            _ = w.played (steps.filter Step.isAction) := ih h

/-! ### A game with conditions that fail -/

/-- A document with two choices and a shop.  The first choice rolls for gold; the condition of the
second one fails, and one of the conditions in the shop is no formula. -/
def bazaarDocument : Value :=
  .obj
    [("stats", .obj [("gold", .obj (Stat.ofInts 3 90))]),
      ("items", .obj [("lamp", .obj []), ("rug", .obj [])]),
      ("shops", .obj [("stall", .obj [("items", .list
        [.obj
          [("id", .str "lamp"), ("conditions", .list [.str "$stat.gold.cur >= 3"]),
            ("effects", .list [.obj [("type", .str "item_add"), ("item", .str "lamp")]])],
          .obj [("id", .str "rug"), ("conditions", .list [.str "$stat.gold.cur >="])]])])]),
      ("story", .obj
        [("start", .str "street"),
          ("nodes", .obj [("street", .obj
            [("shops", .list [.str "stall"]),
              ("choices", .list
                [.obj [("effects", .list
                  [.obj
                    [("type", .str "stat_add"), ("stat", .str "gold"),
                      ("value", .str "roll('1d6')")]])],
                  .obj [("conditions", .str "hasItem()")]])])])])]

/-- The bazaar is looked at before and after its choice is taken, and a lamp is bought. -/
def bazaarSteps : List Step :=
  [.read .snapshot, .act (.chooseAt (.int 0)) trivial, .read .dashboard, .read .choices,
    .act (.chooseAt (.int 1)) trivial, .read .record,
    .act (.buy (.str "stall") (.str "lamp")) trivial,
    .act (.buy (.str "stall") (.str "rug")) trivial, .read .snapshot]

/-- The bazaar when it has been opened; all dice fall on four. -/
def bazaar : World := Course.opened bazaarDocument 4

theorem gameOf_bazaar : GameOf bazaarDocument bazaar :=
  .start (Course.load_opened bazaarDocument 4 (by decide +kernel))

theorem offersAvoidChance_bazaar : bazaar.book.OffersAvoidChance := by
  obtain ⟨book, hbook⟩ := gameOf_bazaar.exists_book
  rw [gameOf_bazaar.book_eq hbook]
  exact Book.offersAvoidChance_ofDocument hbook (by decide +kernel)

/-- Two of four actions in the bazaar are carried out, whether or not it is looked at between
them. -/
theorem played_bazaar :
    bazaar.book.OffersAvoidChance ∧
      bazaar.played bazaarSteps = bazaar.played (bazaarSteps.filter Step.isAction) ∧
      (bazaar.played bazaarSteps).map (fun r => r.1.toOption) =
        [some true, some false, some true, some false] :=
  ⟨offersAvoidChance_bazaar, bazaar.played_readings offersAvoidChance_bazaar bazaarSteps,
    by decide +kernel⟩

end Gamebook
