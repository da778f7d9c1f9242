import ChipEight.Alu
import ChipEight.Assembly
import ChipEight.Bitmap
import ChipEight.Room
import ChipEight.CallStack
import ChipEight.CommandLine
import ChipEight.Dialect
import ChipEight.Execution
import ChipEight.Fault
import ChipEight.Folder
import ChipEight.Frame
import ChipEight.Host.Event
import ChipEight.Host.Failure
import ChipEight.Host.Headless
import ChipEight.Host.Window
import ChipEight.Keypad
import ChipEight.Logger
import ChipEight.Machine
import ChipEight.Main
import ChipEight.Memory
import ChipEight.Operation
import ChipEight.Options
import ChipEight.Picture
import ChipEight.Proofs.Dispatch
import ChipEight.Proofs.Effects
import ChipEight.Proofs.FetchExecute
import ChipEight.Proofs.FrameRun
import ChipEight.Proofs.KeyWaits
import ChipEight.Proofs.MachineCodeChain
import ChipEight.Proofs.ReachableStates
import ChipEight.Proofs.Releases
import ChipEight.Proofs.Runs
import ChipEight.Proofs.Sessions
import ChipEight.Proofs.StackContents
import ChipEight.Proofs.StepFaults
import ChipEight.Proofs.Steps
import ChipEight.Proofs.Subroutines
import ChipEight.Rounding
import ChipEight.State
import ChipEight.Step
import ChipEight.Text.Hex
import ChipEight.Text.Integer
import ChipEight.Text.Lengths
import ChipEight.Text.Printable
import ChipEight.Text.Quoted
import ChipEight.Threefry
import ChipEight.Tone
import ChipEight.Word
import ChipEight.Proofs.WriteFootprint
import ChipEight.Proofs.ReadFootprint
import ChipEight.Proofs.MachineCalls
import ChipEight.Proofs.LifeCycle
import ChipEight.Proofs.Replay
import ChipEight.Proofs.RandomStream
import ChipEight.Proofs.Timers
import ChipEight.Proofs.Listing
import ChipEight.Proofs.Tracing
import ChipEight.Proofs.EventScripts
import ChipEight.Proofs.SpriteDrawing
import ChipEight.Proofs.HeadlessRuns
import ChipEight.Proofs.WindowEffects
import ChipEight.Proofs.OptionReading
import ChipEight.Proofs.ExitStatus
import ChipEight.Proofs.FlagArithmetic
import ChipEight.Proofs.Overdrawing
import ChipEight.Proofs.RegisterBlocks
import ChipEight.Proofs.ProgramImages
import ChipEight.Proofs.LineReading
import ChipEight.Proofs.Reassembly
import ChipEight.Proofs.ScaledPictures
import ChipEight.Proofs.TextPictures
import ChipEight.Proofs.BoundedStack
