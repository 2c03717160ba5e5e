import CharLcd.Main
import CharLcd.Session.OnBench
import CharLcd.Session.OnMachine
import CharLcd.Session.Recorder
import CharLcd.Proofs.Ownership.Lines
import CharLcd.Proofs.Coupling.Basic
import CharLcd.Proofs.Display.Steps
import CharLcd.Proofs.Coupling.Connection
import CharLcd.Proofs.Display.Setup
import CharLcd.Proofs.Display.Script
import CharLcd.Proofs.Config.Lookups
import CharLcd.Proofs.Coupling.Session
import CharLcd.Proofs.Ownership.Keeper
import CharLcd.Proofs.Ownership.Reach
import CharLcd.Proofs.Ownership.Apart
import CharLcd.Proofs.Bench.Ownership
import CharLcd.Proofs.Bench.Replay
import CharLcd.Proofs.Bench.Spacing
import CharLcd.Proofs.Bench.Playing
import CharLcd.Proofs.Bench.Leasing
import CharLcd.Proofs.Bench.Clocking
import CharLcd.Proofs.Bench.Timing
import CharLcd.Proofs.Setup.Calls
import CharLcd.Proofs.Setup.Rollback
import CharLcd.Proofs.Sysfs.Attempts
import CharLcd.Proofs.Bench.Undoing
import CharLcd.Proofs.Setup.Tracing
import CharLcd.Proofs.Sysfs.Holding
import CharLcd.Proofs.Sysfs.Undoing
import CharLcd.Proofs.Setup.AllOrNothing
import CharLcd.Proofs.Sysfs.Rounds
import CharLcd.Proofs.Sysfs.Ownership
import CharLcd.Proofs.Sysfs.Overwriting
import CharLcd.Proofs.Agreement.Mirror
import CharLcd.Proofs.Agreement.Runs
import CharLcd.Proofs.Sysfs.Fixture
import CharLcd.Proofs.Demo.Playing
import CharLcd.Proofs.Setup.Requests
import CharLcd.Proofs.Sysfs.Requests
import CharLcd.Proofs.Demo.Cleanup
import CharLcd.Proofs.Demo.Plan
import CharLcd.Proofs.Demo.Run
import CharLcd.Proofs.Config.Numbers
import CharLcd.Proofs.Bench.Acquiring
import CharLcd.Proofs.Bench.SettingUp
import CharLcd.Proofs.Coupling.Discreet
import CharLcd.Proofs.Display.Plain
import CharLcd.Proofs.Sysfs.Programs
import CharLcd.Proofs.Sysfs.Discreet
import CharLcd.Proofs.Agreement.Unneeded
import CharLcd.Proofs.Ownership.Slots
import CharLcd.Proofs.Ownership.Deeds
import CharLcd.Proofs.Bench.Interleaving
import CharLcd.Proofs.Os.Names
import CharLcd.Proofs.Ownership.Using
import CharLcd.Proofs.Sysfs.Recording
import CharLcd.Proofs.Sysfs.Confinement
import CharLcd.Proofs.Sysfs.Tidiness
import CharLcd.Proofs.Sysfs.Touching
import CharLcd.Proofs.Sysfs.Notes
import CharLcd.Proofs.Lives.Standing
import CharLcd.Proofs.Lives.Sites
import CharLcd.Proofs.Transfer.Motions
import CharLcd.Proofs.Setup.Listing
import CharLcd.Proofs.Setup.Stages
import CharLcd.Proofs.Lives.Reporting
import CharLcd.Proofs.Lives.Stages
import CharLcd.Proofs.Sysfs.Handles
import CharLcd.Proofs.Sysfs.Exporting
import CharLcd.Proofs.Sysfs.Closing
import CharLcd.Proofs.Lives.Closing
import CharLcd.Proofs.Transfer.Whole
import CharLcd.Proofs.Display.Cutting
import CharLcd.Proofs.Bench.Halves
import CharLcd.Proofs.Lives.Inert
import CharLcd.Proofs.Ownership.Sparing
import CharLcd.Proofs.Lives.Backlight
import CharLcd.Proofs.Bench.Backlight
import CharLcd.Proofs.Config.Naming
import CharLcd.Proofs.Config.Integers
import CharLcd.Proofs.Config.Layers
import CharLcd.Proofs.Json.Grammar
import CharLcd.Proofs.Json.Strings
import CharLcd.Proofs.Json.Numbers
import CharLcd.Proofs.Json.Values
import CharLcd.Proofs.Json.Local
import CharLcd.Proofs.Json.Objects
import CharLcd.Proofs.Json.Standard
import CharLcd.Proofs.Json.Reader
import CharLcd.Proofs.Config.Documents
import CharLcd.Proofs.Json.Writing
