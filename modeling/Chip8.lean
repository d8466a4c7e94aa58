import Chip8.Text.Numeral
import Chip8.Text.Structure
import Chip8.Host
import Chip8.Instruction
import Chip8.Fault
import Chip8.Instruction.Mnemonic
import Chip8.Instruction.Assembly
import Chip8.Instruction.Parts
import Chip8.Instruction.Operands
import Chip8.Instruction.Pattern
import Chip8.Instruction.Spelling
import Chip8.Grid
import Chip8.Grid.Cells
import Chip8.Grid.Hits
import Chip8.Keypad
import Chip8.Memory
import Chip8.Memory.Edits
import Chip8.Memory.Bytes
import Chip8.Random
import Chip8.Machine
import Chip8.Machine.Cycle
import Chip8.Machine.Load
import Chip8.Machine.Checked
import Chip8.Machine.Request
import Chip8.Machine.Layout
import Chip8.Machine.History
import Chip8.Machine.Delivery
import Chip8.Machine.Draws
import Chip8.Machine.Timers
import Chip8.Machine.Footprint
import Chip8.Machine.Flags
import Chip8.Machine.Stores
import Chip8.Machine.Trace
import Chip8.Decimal.Double
import Chip8.Decimal.Reading
import Chip8.Terminal.Key
import Chip8.Terminal.Keyboard
import Chip8.Terminal.Polling
import Chip8.Terminal.Picture
import Chip8.Terminal.Canvas
import Chip8.Console.Bench
import Chip8.Console.Frame
import Chip8.Console.Loop
import Chip8.Console.Conduct
import Chip8.Console.Plain
import Chip8.Console.Moves
import Chip8.Console.Calls
import Chip8.Command.Options
import Chip8.Command.Session
import Chip8.Command.Rehearsal
import Chip8.Main
import Chip8.Proofs.Decoding
import Chip8.Proofs.Spelling
import Chip8.Proofs.Assembly
import Chip8.Proofs.Messages
import Chip8.Proofs.Effects
import Chip8.Proofs.Flags
import Chip8.Proofs.Cycle
import Chip8.Proofs.Trace
import Chip8.Proofs.Alike
import Chip8.Proofs.Footprint
import Chip8.Proofs.Keys
import Chip8.Proofs.Waiting
import Chip8.Proofs.Timers
import Chip8.Proofs.Faults
import Chip8.Proofs.Reset
import Chip8.Proofs.Checked
import Chip8.Proofs.Bounds
import Chip8.Proofs.Nesting
import Chip8.Proofs.Memory
import Chip8.Proofs.Cells
import Chip8.Proofs.Sprites
import Chip8.Proofs.Redraw
import Chip8.Proofs.Layout
import Chip8.Proofs.Latch
import Chip8.Proofs.Frame
import Chip8.Proofs.Loop
import Chip8.Proofs.Plain
import Chip8.Proofs.Bench
import Chip8.Proofs.Tone
import Chip8.Proofs.Split
import Chip8.Proofs.Edges
import Chip8.Proofs.Paths
import Chip8.Proofs.Holding
import Chip8.Proofs.Queue
import Chip8.Proofs.Draws
import Chip8.Proofs.Font
import Chip8.Proofs.Saved
import Chip8.Proofs.Delivery
import Chip8.Proofs.Picture
import Chip8.Proofs.Canvas
import Chip8.Proofs.Record
import Chip8.Proofs.Twin
import Chip8.Proofs.Session
