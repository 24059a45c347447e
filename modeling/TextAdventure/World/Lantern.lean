/-! The world that comes with the program: a cellar, a lantern to be lit, and a pit. It is played when no other is named;
    the program reads it from its file like any other. -/

namespace TextAdventure

/-- Where the world file of the lantern is. -/
def lanternPath : String := "worlds/lantern.toml"

/-- The world file of the lantern. -/
def lanternText : String := r##"[world]
id = "lantern"
name = "The Lantern in the Cellar"
start_room = "cellar"
prologue = """
You wake on a cold stone floor.
Somewhere above, a house creaks in the wind.
"""

[aliases]
light = ["ignite", "kindle"]
lantern = "lamp"
dig = "excavate"

[language]
junk = ["carefully"]

########
# ROOMS
########

[[room]]
id = "cellar"
name = "Damp Cellar"
desc = """
Water beads on the walls of a low cellar.
A trapdoor is set into the ceiling, too dark to reach.
"""

[[room.exit]]
direction = "u"
target = "hall"
blocked = true

[[room.action]]
id = "light_lantern"
phrases = ["light lantern", "light lantern with matches"]
requires = ["lantern", "matches"]
missing_text = "You need something to light, and something to light it with."
say = "The lantern flares. In its glow you find the trapdoor's iron ring."
unblock = ["u"]

[[room]]
id = "hall"
name = "Dusty Hall"
desc = "Portraits stare down from every wall."

[[room.exit]]
direction = "d"
target = "cellar"

[[room.exit]]
direction = "n"
target = "garden"

[[room.on_enter]]
say = "Somewhere a clock chimes."

[[room]]
id = "garden"
name = "Overgrown Garden"
desc = "Weeds choke a sundial. A dark hole gapes near the wall."

[[room.exit]]
direction = "s"
target = "hall"

[[room.exit]]
direction = "d"
target = "pit"

[[room.action]]
id = "dig_sundial"
phrases = ["dig", "dig sundial"]
requires = "shovel"
say = "You dig beside the sundial and unearth a small key."
give = ["key"]

[[room]]
id = "pit"
name = "Bottom of a Pit"
desc = "Smooth walls rise out of reach on every side."

[[room.on_enter]]
say = "You tumble into the pit. There is no way out."

########
# ITEMS
########

[[item]]
name = "lantern"
desc = "An old brass lantern."
room_text = "A brass lantern lies on its side."
start_location = "room:cellar"

[[item]]
name = "crate"
room_text = "A rotten crate is wedged in the corner."
gettable = false
start_location = "room:cellar"

[[item]]
name = "matches"
start_location = "inventory"

[[item.action]]
phrases = "strike match"
say = "The match sputters and dies."

[[item]]
name = "shovel"
room_text = "A shovel leans against a portrait."
start_location = "room:hall"

[[item]]
name = "key"
desc = "A small iron key."
"##

end TextAdventure
