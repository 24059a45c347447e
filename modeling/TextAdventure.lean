import TextAdventure.Main
import TextAdventure.Proofs.Words
import TextAdventure.Proofs.Runs
import TextAdventure.Proofs.Paragraph
import TextAdventure.Proofs.Lowercase
import TextAdventure.Proofs.NormalForm
import TextAdventure.Proofs.Punctuation
import TextAdventure.Proofs.Rewriting
import TextAdventure.Proofs.Bindings
import TextAdventure.Proofs.Dispatch
import TextAdventure.Proofs.Calls
import TextAdventure.Proofs.Run
import TextAdventure.Proofs.Items
import TextAdventure.Proofs.Firings
import TextAdventure.Proofs.FirstClaimant
import TextAdventure.Proofs.LetterCase
import TextAdventure.Proofs.Loading
import TextAdventure.Proofs.Position
import TextAdventure.Proofs.Defects
import TextAdventure.Proofs.LoadedEffects
import TextAdventure.Proofs.Enclosure
import TextAdventure.Proofs.References
import TextAdventure.Proofs.ByteOrder
import TextAdventure.Proofs.Movement
import TextAdventure.Proofs.Flags
import TextAdventure.Proofs.Taking
import TextAdventure.Proofs.Answers
import TextAdventure.Proofs.RoomOrder
import TextAdventure.Proofs.TableOrder
import TextAdventure.Proofs.DeadEnd
import TextAdventure.Proofs.NetEffect
import TextAdventure.Proofs.Blocks
import TextAdventure.Proofs.Scenery
import TextAdventure.Proofs.Terminal
import TextAdventure.Proofs.Arrival
import TextAdventure.Proofs.RoundTrip
import TextAdventure.Proofs.Meaning
