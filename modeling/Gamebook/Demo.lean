/-
**The bundled game.**

Dusty Gate is a small game with four stats, two items, two buffs, a market, hunger that grows from
day to day, and a sealed gate.

Main definitions:

* `Demo.document` — the game document.
-/

import Gamebook.Value.Basic

set_option autoImplicit false

namespace Gamebook.Demo

/-- The title and the version. -/
def info : Value :=
  .obj [("title", .str "Dusty Gate"), ("version", .int 1)]

/-- The capacity of the inventory. -/
def resources : Value :=
  .obj [("capacity", .int 6)]

/-- The stats at the start. -/
def stats : Value :=
  .obj
    [("hp", .obj [("cur", .int 20), ("max", .int 20)]),
     ("stamina", .obj [("cur", .int 6), ("max", .int 6)]),
     ("hunger", .obj [("cur", .int 10), ("max", .int 100)]),
     ("money", .obj [("cur", .int 20), ("max", .int 9999)])]

/-- Bread to eat, and a key. -/
def items : Value :=
  .obj
    [("bread",
      .obj
        [("name", .str "Bread"),
         ("stackable", .bool true),
         ("start_count", .int 2),
         ("use_effects",
          .list
            [.obj
               [("type", .str "stat_add"),
                ("stat", .str "hunger"),
                ("value_expr", .str "-15")],
             .obj [("type", .str "log"), ("text", .str "You eat bread and feel better.")]]),
         ("hold_buffs",
          .list [.obj [("buff", .str "well_fed"), ("value_expr", .str "$count * 2")]])]),
     ("key",
      .obj [("name", .str "Rusty Key"), ("stackable", .bool true), ("start_count", .int 0)])]

/-- A full stomach, and courage. -/
def buffs : Value :=
  .obj
    [("well_fed",
      .obj
        [("desc", .str "Max HP bonus from food."),
         ("modifiers",
          .list
            [.obj
               [("type", .str "stat_add_max"),
                ("stat", .str "hp"),
                ("value_expr", .str "$value")]]),
         ("periodic",
          .obj
            [("every", .str "day"),
             ("effects",
              .list
                [.obj
                   [("type", .str "stat_add"),
                    ("stat", .str "hp"),
                    ("value_expr", .str "1")]])])]),
     ("brave",
      .obj
        [("desc", .str "Stamina feels lighter."),
         ("modifiers",
          .list
            [.obj
               [("type", .str "stat_add_max"),
                ("stat", .str "stamina"),
                ("value_expr", .str "1")],
             .obj
               [("type", .str "stat_add"),
                ("stat", .str "stamina"),
                ("value_expr", .str "1")]])])]

/-- The market. -/
def shops : Value :=
  .obj
    [("market",
      .obj
        [("name", .str "Market Stall"),
         ("items",
          .list
            [.obj
               [("id", .str "bread"),
                ("price", .int 4),
                ("conditions", .list [.str "$stat.money.cur >= 4"]),
                ("effects",
                 .list
                   [.obj
                      [("type", .str "stat_add"),
                       ("stat", .str "money"),
                       ("value_expr", .str "-4")],
                    .obj
                      [("type", .str "item_add"),
                       ("item", .str "bread"),
                       ("count_expr", .str "1")],
                    .obj [("type", .str "log"), ("text", .str "You bought bread.")]])],
             .obj
               [("id", .str "key"),
                ("price", .int 12),
                ("conditions", .list [.str "$stat.money.cur >= 12"]),
                ("effects",
                 .list
                   [.obj
                      [("type", .str "stat_add"),
                       ("stat", .str "money"),
                       ("value_expr", .str "-12")],
                    .obj
                      [("type", .str "item_add"),
                       ("item", .str "key"),
                       ("count_expr", .str "1")],
                    .obj [("type", .str "log"), ("text", .str "You bought a rusty key.")]])]])])]

/-- Hunger grows every day, and hurts when it is great. -/
def events : Value :=
  .list
    [.obj
       [("trigger", .str "on_day_start"),
        ("effects",
         .list
           [.obj
              [("type", .str "stat_add"),
               ("stat", .str "hunger"),
               ("value_expr", .str "10")],
            .obj [("type", .str "log"), ("text", .str "A day passes. Hunger rises.")]])],
     .obj
       [("trigger", .str "on_day_start"),
        ("conditions", .list [.str "$stat.hunger.cur >= 80"]),
        ("effects",
         .list
           [.obj [("type", .str "stat_add"), ("stat", .str "hp"), ("value_expr", .str "-2")],
            .obj [("type", .str "log"), ("text", .str "Hunger hurts you.")]])]]

/-- The square, the market, the gate, the forest and the shrine. -/
def story : Value :=
  .obj
    [("start", .str "n1"),
     ("nodes",
      .obj
        [("n1",
          .obj
            [("title", .str "Arrival"),
             ("text",
              .str ("Dust swirls around the old town. A market stall hums nearby while a "
                  ++ "sealed gate waits at the far end.")),
             ("shops", .list [.str "market"]),
             ("choices",
              .list
                [.obj
                   [("text", .str "Visit the market"),
                    ("effects",
                     .list [.obj [("type", .str "goto"), ("node", .str "n_market")]])],
                 .obj
                   [("text", .str "Walk to the gate"),
                    ("effects", .list [.obj [("type", .str "goto"), ("node", .str "n_gate")]])],
                 .obj
                   [("text", .str "Tell yourself to be brave"),
                    ("conditions", .list [.str "!hasBuff('brave')"]),
                    ("effects",
                     .list
                       [.obj
                          [("type", .str "buff_add"),
                           ("buff", .str "brave"),
                           ("value_expr", .str "1")]])],
                 .obj
                   [("text", .str "Rest for a day"),
                    ("effects",
                     .list [.obj [("type", .str "advance_day"), ("value_expr", .str "1")]])]])]),
         ("n_market",
          .obj
            [("title", .str "Market Stall"),
             ("text", .str "The vendor eyes you and waits for your choice."),
             ("shops", .list [.str "market"]),
             ("choices",
              .list
                [.obj
                   [("text", .str "Return to the square"),
                    ("effects", .list [.obj [("type", .str "goto"), ("node", .str "n1")]])]])]),
         ("n_gate",
          .obj
            [("title", .str "Sealed Gate"),
             ("text", .str "The iron gate is locked and worn."),
             ("choices",
              .list
                [.obj
                   [("text", .str "Force the gate (check)"),
                    ("check",
                     .obj
                       [("name", .str "Force the gate"),
                        ("roll_expr", .str "roll('1d20')"),
                        ("base_expr", .str "$stat.stamina.cur"),
                        ("dc", .int 12),
                        ("success",
                         .obj
                           [("effects",
                             .list
                               [.obj
                                  [("type", .str "log"),
                                   ("text", .str "The gate gives way.")]]),
                            ("goto", .str "n_forest")]),
                        ("fail",
                         .obj
                           [("effects",
                             .list
                               [.obj
                                  [("type", .str "stat_add"),
                                   ("stat", .str "hp"),
                                   ("value_expr", .str "-3")],
                                .obj
                                  [("type", .str "log"),
                                   ("text", .str "You fail and hurt yourself.")]])])])],
                 .obj
                   [("text", .str "Return to the square"),
                    ("effects", .list [.obj [("type", .str "goto"), ("node", .str "n1")]])]])]),
         ("n_forest",
          .obj
            [("title", .str "Outer Forest"),
             ("text",
              .str ("Beyond the gate, a narrow trail leads into the forest. A small shrine "
                  ++ "glows faintly.")),
             ("choices",
              .list
                [.obj
                   [("text", .str "Unlock the shrine door"),
                    ("conditions", .list [.str "hasItem('key', 1)"]),
                    ("effects",
                     .list
                       [.obj
                          [("type", .str "item_remove"),
                           ("item", .str "key"),
                           ("count_expr", .str "1")],
                        .obj [("type", .str "goto"), ("node", .str "n_shrine")]])],
                 .obj
                   [("text", .str "Camp for the night"),
                    ("effects",
                     .list [.obj [("type", .str "advance_day"), ("value_expr", .str "1")]])],
                 .obj
                   [("text", .str "Head back"),
                    ("effects", .list [.obj [("type", .str "goto"), ("node", .str "n1")]])]])]),
         ("n_shrine",
          .obj
            [("title", .str "Shrine"),
             ("text", .str "Warm light fills the room. You feel safe enough to rest."),
             ("choices",
              .list
                [.obj
                   [("text", .str "Rest and recover"),
                    ("effects",
                     .list
                       [.obj
                          [("type", .str "stat_add"),
                           ("stat", .str "hp"),
                           ("value_expr", .str "6")],
                        .obj
                          [("type", .str "stat_add"),
                           ("stat", .str "hunger"),
                           ("value_expr", .str "-10")],
                        .obj [("type", .str "advance_day"), ("value_expr", .str "1")]])],
                 .obj
                   [("text", .str "Leave quietly"),
                    ("effects", .list [.obj [("type", .str "goto"), ("node", .str "n1")]])]])]),
         ("end_dead",
          .obj
            [("type", .str "ending"),
             ("title", .str "Silence"),
             ("text", .str "Your journey ends here.")])])]

/-- Death. -/
def endings : Value :=
  .list
    [.obj
       [("id", .str "dead"),
        ("conditions", .list [.str "$stat.hp.cur <= 0"]),
        ("node", .str "end_dead")]]

/-- **The game document.** -/
def document : Value :=
  .obj
    [("meta", info),
     ("resources", resources),
     ("stats", stats),
     ("items", items),
     ("buffs", buffs),
     ("shops", shops),
     ("events", events),
     ("story", story),
     ("endings", endings)]

end Gamebook.Demo
