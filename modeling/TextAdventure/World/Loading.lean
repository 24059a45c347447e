import TextAdventure.World.Decoding
import TextAdventure.World.Validation
import TextAdventure.Text.Paragraph

/-! From a world file to a world. Effects are checked against the names that the file declares: where
    they lead, what they give and take, and which exits of their room they open and block. The first
    fault ends the loading. What else refers to nothing is found when a session starts. -/

namespace TextAdventure
open Text

/-! ### Faults -/

/-- What may be wrong with the declarations of a world file. -/
inductive Fault where
  | blankWorldId
  | blankStartRoom
  | duplicateRoom (id : String)
  | noPhrases (scope : Scope)
  | missingRoom (scope : Scope) (room : String)
  | missingItem (scope : Scope) (item : String)
  | unknownExit (scope : Scope) (direction : String)
  | blankItemName
  /-- The text of a start location names a room without an id. -/
  | startWithoutRoom (text : String)
  | unknownStart (text : String)
deriving DecidableEq, Repr

/-- The wording of a fault. -/
def Fault.message : Fault → String
  | .blankWorldId => "world.id may not be empty"
  | .blankStartRoom => "world.start_room may not be empty"
  | .duplicateRoom id => s!"duplicate room id: {id}"
  | .noPhrases scope => s!"{scope.text} has an action without phrases"
  | .missingRoom scope room => s!"{scope.text} go_to references missing room '{room}'"
  | .missingItem scope item => s!"{scope.text} references missing item '{item}'"
  | .unknownExit scope direction => s!"{scope.text} toggles unknown exit '{direction}'"
  | .blankItemName => "item name may not be empty"
  | .startWithoutRoom text => s!"Invalid start_location '{text}': empty room id"
  | .unknownStart text => s!"Invalid start_location '{text}': expected 'room:<id>' or 'inventory'"

/-- Why a world could not be loaded. -/
inductive LoadError where
  /-- The file is missing, or its bytes are not the encoding of a text. -/
  | unreadable
  /-- The text is not TOML, or does not hold the records of a world. -/
  | malformed
  | invalid (fault : Fault)
deriving DecidableEq, Repr

/-- The wording of an error. -/
def LoadError.message : LoadError → String
  | .unreadable => "failed to read world file: it is missing or not a text"
  | .malformed => "failed to parse world file: it does not declare a world"
  | .invalid fault => s!"invalid world: {fault.message}"

/-! ### Effects and actions -/

namespace WorldFile

/-- A room of this id is declared. -/
def hasRoom (file : WorldFile) (id : String) : Bool := file.rooms.any (·.id == id)

/-- An item of this name is declared. Blanks around the declared name and the case of the letters A to
    Z do not matter. -/
def hasItem (file : WorldFile) (name : String) : Bool :=
  file.items.any fun item => equalUpToAsciiCase (trim item.name) name

/-- The declared exits of a room, those of the last of this id. -/
def exitsOf (file : WorldFile) (room : String) : List ExitDecl :=
  ((file.rooms.findRev? (·.id == room)).map RoomDecl.exits).getD []

/-- An exit of the room leads in this direction, which is in lowercase. Blanks around the declared
    direction and the case of the letters A to Z do not matter. -/
def hasExit (file : WorldFile) (room direction : String) : Bool :=
  (file.exitsOf room).any fun exit => equalUpToAsciiCase (trim exit.direction) direction

end WorldFile

/-- The steps of a declared effect, in the order in which they happen. -/
def EffectDecl.steps (e : EffectDecl) : Effect :=
  (e.say.map fun text => Step.say (tidy text)).toList
    ++ e.unblock.map (fun direction => .unblock (fold direction))
    ++ e.block.map (fun direction => .block (fold direction))
    ++ e.give.map (fun item => .give (fold item))
    ++ e.consume.map (fun item => .consume (fold item))
    ++ (e.goTo.map Step.go).toList

/-- The first fault of an effect. Only effects of rooms have their directions checked: those of items
    fire wherever the player is. -/
def EffectDecl.fault? (file : WorldFile) (scope : Scope) (e : EffectDecl) : Option Fault :=
  let missingRoom := (e.goTo.filter (!file.hasRoom ·)).map (Fault.missingRoom scope)
  let missingItem := ((e.give ++ e.consume).find? (!file.hasItem ·)).map (Fault.missingItem scope)
  let unknownExit := match scope with
    | .room id => (((e.unblock ++ e.block).map fold).find? (!file.hasExit id ·)).map (Fault.unknownExit scope)
    | .item _ => none
  (missingRoom.or missingItem).or unknownExit

/-- The effect that is declared in `scope`. -/
def EffectDecl.load (file : WorldFile) (scope : Scope) (e : EffectDecl) : Except Fault Effect :=
  match e.fault? file scope with
  | some fault => .error fault
  | none => .ok e.steps

/-- The action that is declared in `scope`. -/
def ActionDecl.load (file : WorldFile) (scope : Scope) (a : ActionDecl) : Except Fault Action := do
  if a.phrases.all allBlank then throw (.noPhrases scope)
  return {
    id := a.id
    phrases := a.phrases
    requires := a.requires.map fold
    missingText := a.missingText.map tidy
    effect := ← a.effect.load file scope }

/-! ### Rooms and items -/

/-- The exit that is declared. -/
def ExitDecl.exit (e : ExitDecl) : Exit := ⟨fold e.direction, e.target, e.blocked⟩

/-- The room that is declared. -/
def RoomDecl.load (file : WorldFile) (r : RoomDecl) : Except Fault Room := do
  let scope := Scope.room r.id
  let actions ← r.actions.mapM (·.load file scope)
  let onEnter ← r.onEnter.mapM (·.load file scope)
  return { id := r.id, name := r.name, desc := tidy r.desc, exits := r.exits.map ExitDecl.exit, actions, onEnter }

/-- The rooms that are declared, after those that are loaded already. -/
def loadRooms (file : WorldFile) : Catalog Room.id → List RoomDecl → Except Fault (Catalog Room.id)
  | rooms, [] => .ok rooms
  | rooms, r :: rest => do
    if rooms.contains r.id then throw (.duplicateRoom r.id)
    loadRooms file (rooms.insert (← r.load file)) rest

/-- The text after `start` at its beginning. -/
def afterStart? (start s : String) : Option String :=
  if start.toList.isPrefixOf s.toList then some (String.ofList (s.toList.drop start.toList.length)) else none

/-- The place that a start location names. -/
def Place.ofText (text : String) : Except Fault Place :=
  let text := trim text
  if equalUpToAsciiCase text "inventory" then .ok .inventory
  else
    match afterStart? "room:" text with
    | some rest =>
      let id := trim rest
      if id == "" then .error (.startWithoutRoom text) else .ok (.room id)
    | none => .error (.unknownStart text)

/-- The item that is declared. -/
def ItemDecl.load (file : WorldFile) (i : ItemDecl) : Except Fault Item := do
  let name := fold i.name
  if name == "" then throw .blankItemName
  let start ← i.start.mapM Place.ofText
  let actions ← i.actions.mapM (·.load file (.item name))
  return { name, desc := tidy i.desc, roomText := tidy i.roomText, gettable := i.gettable.getD true, actions, start }

/-! ### Worlds -/

/-- The world that a file declares. -/
def World.ofFile (file : WorldFile) : Except Fault World := do
  if allBlank file.header.id then throw .blankWorldId
  if allBlank file.header.startRoom then throw .blankStartRoom
  let rooms ← loadRooms file Catalog.empty file.rooms
  let items ← file.items.mapM (·.load file)
  return {
    id := file.header.id
    name := file.header.name
    prologue := tidy file.header.prologue
    startRoom := file.header.startRoom
    rooms
    items
    aliases := file.aliases
    junk := file.junk
    directions := file.directions }

/-- The world that a text declares. -/
def World.ofText (text : String) : Except LoadError World :=
  match WorldFile.ofText? text with
  | none => .error .malformed
  | some file => (World.ofFile file).mapError .invalid

/-- The world that the bytes of a file declare; `none` stands for a file that is not there. -/
def World.ofBytes (bytes : Option ByteArray) : Except LoadError World :=
  match bytes.bind String.fromUTF8? with
  | none => .error .unreadable
  | some text => World.ofText text

end TextAdventure
