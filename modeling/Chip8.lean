import Chip8.CommandLine.Run
import Chip8.Main
import Chip8.Picture.Encoding
import Chip8.Progress
import Chip8.Proofs.Adjustment
import Chip8.Proofs.Announcement
import Chip8.Proofs.Arithmetic
import Chip8.Proofs.Block
import Chip8.Proofs.Bounds
import Chip8.Proofs.Call
import Chip8.Proofs.Commit
import Chip8.Proofs.Continuation
import Chip8.Proofs.Counting
import Chip8.Proofs.DecimalDigits
import Chip8.Proofs.Decomposition
import Chip8.Proofs.Delivery
import Chip8.Proofs.Dialects
import Chip8.Proofs.Drawing
import Chip8.Proofs.Draws
import Chip8.Proofs.Enlargement
import Chip8.Proofs.Filtering
import Chip8.Proofs.Font
import Chip8.Proofs.Footprint
import Chip8.Proofs.Frames
import Chip8.Proofs.Grammar
import Chip8.Proofs.Image
import Chip8.Proofs.KeyWait
import Chip8.Proofs.Keypad
import Chip8.Proofs.Masking
import Chip8.Proofs.Precedence
import Chip8.Proofs.Redraw
import Chip8.Proofs.Renewal
import Chip8.Proofs.Request
import Chip8.Proofs.SessionStep
import Chip8.Proofs.SettingsRecord
import Chip8.Proofs.Slicing
import Chip8.Proofs.Stamp
import Chip8.Proofs.Standstill
import Chip8.Proofs.Stepwise
import Chip8.Proofs.StraightLine
import Chip8.Proofs.Subroutine
import Chip8.Proofs.Tandem
import Chip8.Proofs.Ticking
import Chip8.Proofs.Timers
import Chip8.Proofs.TraceLine
import Chip8.Proofs.Transcript
import Chip8.Session.Run
